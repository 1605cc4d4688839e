import ArtikSdk.Dhcp.Client.Restore
import ArtikSdk.Dhcp.Client.Termination

/-!
# DHCP client: where the result comes from

Every reply is read into the same `presult`, before its type is known. What the accepted
ACK leaves out is therefore what an earlier reply has left there, and its server is never
compared with the one that was asked. `oneSource_iff` says when the result is that of the
ACK all the same; `alone_iff` says it of an ACK that is a list of options.
-/

namespace ArtikSdk.Dhcp.Client
open Lib

/-! ## What a packet says -/

/-- The fields of `presult` that are the result, but for the address. -/
inductive Field where
  | netmask
  | defaultRouter
  | dnsaddr
  | leaseTime
deriving DecidableEq

namespace Field

/-- The option that carries the field. -/
def code : Field → Byte
  | netmask => Code.subnetMask
  | defaultRouter => Code.router
  | dnsaddr => Code.dnsServer
  | leaseTime => Code.leaseTime

def get : Field → DhcpcState → BitVec 32
  | netmask => DhcpcState.netmask
  | defaultRouter => DhcpcState.defaultRouter
  | dnsaddr => DhcpcState.dnsaddr
  | leaseTime => DhcpcState.leaseTime

/-- The value of the field, from the data of its option. -/
def read : Field → List Byte → BitVec 32
  | leaseTime, data => htonl (wordOf data)
  | _, data => wordOf data

end Field

/-- The codes at which the loop of `dhcpc_parseoptions` looks. -/
def codesFrom (m : Mem) (fin : Nat) : Nat → Nat → List Byte
  | 0, _ => []
  | fuel + 1, optptr =>
    if optptr < fin then
      if m optptr = Code.fin then [] else m optptr :: codesFrom m fin fuel (optptr + ((m (optptr + 1)).toNat + 2))
    else []

/-- The codes of the options of a packet, as `dhcpc_parsemsg` finds them. -/
def codesIn (buflen : Nat) (m : Mem) : List Byte := codesFrom m (Msg.options + 4 + buflen) buflen (Msg.options + 4)

/-- What a packet says by itself: read where nothing has been read before. -/
def reading (buflen : Nat) (m : Mem) : DhcpcState :=
  (dhcpcParseoptions m (Msg.options + 4) buflen { DhcpcState.zero with ipaddr := m.word Msg.yiaddr }).2

/-- What a datagram says by itself: there is nothing behind it, either. -/
def saidBy (bytes : List Byte) : DhcpcState :=
  reading (bytes.take Msg.size).length (received bytes (fun _ => 0) fun _ => 0)

/-- The result is that of the datagram `bytes`, which comes from the server that was asked. -/
structure OneSource (bytes : List Byte) (c : State) : Prop where
  ipaddr : c.presult.ipaddr = (saidBy bytes).ipaddr
  fields : ∀ f : Field, f.get c.presult = f.get (saidBy bytes)
  locked : (saidBy bytes).serverid = c.serverid
  asked : ∃ p, c.sent.getLast? = some p ∧ optionOf Code.serverId p.bytes = some (Mem.wordBytes c.serverid)

/-- A datagram that is received in the state `c`, where `m` is `packet` then, is read without the others:
what `packet` holds behind it does not matter, what it leaves out was left out before, and it comes from
the server that the client has locked on to. -/
structure Alone (bytes : List Byte) (m : Mem) (c : State) : Prop where
  ipaddr : m.word Msg.yiaddr = (saidBy bytes).ipaddr
  whole : ∀ f : Field, f.get (reading (bytes.take Msg.size).length m) = f.get (saidBy bytes)
  absent : ∀ f : Field, f.code ∈ codesIn (bytes.take Msg.size).length m ∨ f.get c.presult = 0
  server : (saidBy bytes).serverid = c.serverid

/-- `presult` after an option. -/
def DhcpcState.apply (r : DhcpcState) (o : Tlv.Opt) : DhcpcState :=
  if o.1 = Code.subnetMask then { r with netmask := wordOf o.2 }
  else if o.1 = Code.router then { r with defaultRouter := wordOf o.2 }
  else if o.1 = Code.dnsServer then { r with dnsaddr := wordOf o.2 }
  else if o.1 = Code.serverId then { r with serverid := wordOf o.2 }
  else if o.1 = Code.leaseTime then { r with leaseTime := htonl (wordOf o.2) }
  else r

/-- One option sets one field. -/
theorem apply_get (f : Field) (r : DhcpcState) (o : Tlv.Opt) : f.get (r.apply o) = if o.1 = f.code then f.read o.2 else f.get r := by
  unfold DhcpcState.apply
  cases f <;> simp only [Field.code, Field.get, Field.read]
  all_goals
    by_cases mask : o.1 = Code.subnetMask
    · simp [mask]
    by_cases router : o.1 = Code.router
    · simp [router]
    by_cases dns : o.1 = Code.dnsServer
    · simp [dns]
    by_cases server : o.1 = Code.serverId
    · simp [server]
    by_cases lease : o.1 = Code.leaseTime
    · simp [lease]
    · simp_all

theorem apply_serverid (r : DhcpcState) (o : Tlv.Opt) :
    (r.apply o).serverid = if o.1 = Code.serverId then wordOf o.2 else r.serverid := by
  unfold DhcpcState.apply
  by_cases server : o.1 = Code.serverId
  · simp [server]
  · rw [if_neg server, if_neg server]
    repeat' split
    all_goals rfl

theorem apply_ipaddr (r : DhcpcState) (o : Tlv.Opt) : (r.apply o).ipaddr = r.ipaddr := by
  unfold DhcpcState.apply
  repeat' split
  all_goals rfl

/-- A word is read from data that has one. -/
theorem word_of_data {m : Mem} {a : Nat} {data : List Byte} (holds : Mem.Holds m a data) (long : 4 ≤ data.length) :
    m.word a = wordOf data := by
  have byte (k : Nat) (inside : k < 4) : m (a + k) = Mem.ofList data k := by
    rw [Mem.ofList_getElem (by omega)]
    exact holds k _ (List.getElem?_eq_getElem (by omega))
  rw [wordOf, Mem.word, Mem.word, byte 1 (by omega), byte 2 (by omega), byte 3 (by omega), ← Nat.add_zero a, byte 0 (by omega)]

/-- Whatever the length of an option, the data is taken to be the four bytes behind it. -/
theorem parseOption_apply (m : Mem) (optptr : Nat) (r : DhcpcState) :
    parseOption m optptr r = r.apply (m optptr, m.load (optptr + 2) 4) := by
  have word : wordOf (m.load (optptr + 2) 4) = m.word (optptr + 2) := (word_of_data (Mem.holds_load _ _ _) (by simp)).symm
  unfold parseOption DhcpcState.apply
  rw [Mem.swapHalf_pair, word]

theorem parseLoop_ipaddr (m : Mem) (fin fuel optptr : Nat) (r : DhcpcState) (type : Byte) :
    (parseLoop m fin fuel optptr r type).2.ipaddr = r.ipaddr := by
  induction fuel generalizing optptr r type with
  | zero => rfl
  | succ fuel ih =>
    rw [parseLoop]
    split
    · split
      · rfl
      · rw [ih, parseOption_apply, apply_ipaddr]
    · rfl

/-- A field whose option is met does not depend on what was read before; the others are left. -/
theorem parseLoop_get (f : Field) (m : Mem) (fin fuel optptr : Nat) (r r' : DhcpcState) (type type' : Byte) :
    f.get (parseLoop m fin fuel optptr r type).2 =
      if f.code ∈ codesFrom m fin fuel optptr then f.get (parseLoop m fin fuel optptr r' type').2 else f.get r := by
  induction fuel generalizing optptr r r' type type' with
  | zero => rfl
  | succ fuel ih =>
    rw [parseLoop, parseLoop, codesFrom]
    by_cases more : optptr < fin
    · rw [if_pos more, if_pos more, if_pos more]
      by_cases last : m optptr = Code.fin
      · rw [if_pos last, if_pos last, if_pos last, if_neg (List.not_mem_nil)]
      · rw [if_neg last, if_neg last, if_neg last]
        by_cases later : f.code ∈ codesFrom m fin fuel (optptr + ((m (optptr + 1)).toNat + 2))
        · rw [if_pos (List.mem_cons_of_mem _ later), ih _ _ (parseOption m optptr r') _ _, if_pos later]
        · have here (r : DhcpcState) := apply_get f r (m optptr, m.load (optptr + 2) 4)
          simp only [← parseOption_apply] at here
          rw [ih _ _ (parseOption m optptr r') _ type', if_neg later, here]
          by_cases now : m optptr = f.code
          · rw [if_pos now, if_pos (List.mem_cons.2 (Or.inl now.symm)), ih _ _ (parseOption m optptr r') _ type', if_neg later, here,
              if_pos now]
          · rw [if_neg now, if_neg fun member => (List.mem_cons.1 member).elim (fun same => now same.symm) later]
    · rw [if_neg more, if_neg more, if_neg more, if_neg (List.not_mem_nil)]

/-- A packet that is read over `presult`, where it has a type. -/
theorem parsemsg_typed {buflen : Nat} {m : Mem} (typed : typeIn buflen m ≠ 0) (r : DhcpcState) :
    (dhcpcParsemsg buflen m r).2 = (dhcpcParseoptions m (Msg.options + 4) buflen { r with ipaddr := m.word Msg.yiaddr }).2 := by
  unfold typeIn at typed
  unfold dhcpcParsemsg at typed ⊢
  split
  · rfl
  · rename_i other
    rw [if_neg other] at typed
    exact absurd rfl typed

theorem parsemsg_get {buflen : Nat} {m : Mem} (typed : typeIn buflen m ≠ 0) (r : DhcpcState) (f : Field) :
    f.get (dhcpcParsemsg buflen m r).2 = if f.code ∈ codesIn buflen m then f.get (reading buflen m) else f.get r := by
  rw [parsemsg_typed typed, dhcpcParseoptions, parseLoop_get f _ _ _ _ _ { DhcpcState.zero with ipaddr := m.word Msg.yiaddr } _ 0]
  have same : f.get { r with ipaddr := m.word Msg.yiaddr } = f.get r := by
    cases f <;> rfl
  rw [same]
  rfl

theorem reading_ipaddr (buflen : Nat) (m : Mem) : (reading buflen m).ipaddr = m.word Msg.yiaddr := by
  rw [reading, dhcpcParseoptions, parseLoop_ipaddr]

theorem parsemsg_ipaddr {buflen : Nat} {m : Mem} (typed : typeIn buflen m ≠ 0) (r : DhcpcState) :
    (dhcpcParsemsg buflen m r).2.ipaddr = m.word Msg.yiaddr := by
  rw [parsemsg_typed typed, dhcpcParseoptions, parseLoop_ipaddr]

theorem reading_absent {buflen : Nat} {m : Mem} {f : Field} (absent : f.code ∉ codesIn buflen m) : f.get (reading buflen m) = 0 := by
  rw [codesIn] at absent
  rw [reading, dhcpcParseoptions, parseLoop_get f _ _ _ _ _ DhcpcState.zero _ 0, if_neg absent]
  cases f <;> rfl

/-- Behind a datagram that has nothing behind it there are no codes. -/
theorem codesFrom_behind {m : Mem} {len : Nat} (zero : ∀ k, len ≤ k → m k = 0) (fin : Nat) {code : Byte} :
    ∀ {fuel optptr : Nat}, len ≤ optptr → code ∈ codesFrom m fin fuel optptr → code = 0 := by
  intro fuel
  induction fuel with
  | zero => exact fun _ member => absurd member List.not_mem_nil
  | succ fuel ih =>
    intro optptr behind member
    rw [codesFrom] at member
    split at member
    · split at member
      · cases member
      · obtain here | later := List.mem_cons.1 member
        · rw [here, zero optptr behind]
        · exact ih (by omega) later
    · cases member

/-- A code that is found in a datagram alone is found whatever lies behind the datagram. -/
theorem codesFrom_alone {m m' : Mem} (len : Nat) (same : ∀ k < len, m' k = m k) (zero : ∀ k, len ≤ k → m k = 0) (fin : Nat)
    {code : Byte} (nonzero : code ≠ 0) :
    ∀ {fuel optptr : Nat}, code ∈ codesFrom m fin fuel optptr → code ∈ codesFrom m' fin fuel optptr := by
  intro fuel
  induction fuel with
  | zero => exact fun member => member
  | succ fuel ih =>
    intro optptr member
    by_cases behind : len ≤ optptr
    · exact absurd (codesFrom_behind zero fin behind member) nonzero
    · rw [codesFrom] at member ⊢
      rw [same optptr (by omega)]
      split at member
      · rename_i more
        rw [if_pos more]
        split at member
        · cases member
        · rename_i goes
          rw [if_neg goes]
          obtain here | later := List.mem_cons.1 member
          · exact List.mem_cons.2 (Or.inl here)
          · by_cases last : len ≤ optptr + 1
            · exact absurd (codesFrom_behind zero fin (by omega) later) nonzero
            · rw [same (optptr + 1) (by omega)]
              exact List.mem_cons_of_mem _ (ih later)
      · cases member

/-- What lies behind a datagram hides none of its codes. -/
theorem codesIn_alone {bytes : List Byte} {beyond packet : Mem} {code : Byte} (nonzero : code ≠ 0)
    (member : code ∈ codesIn (bytes.take Msg.size).length (received bytes (fun _ => 0) fun _ => 0)) :
    code ∈ codesIn (bytes.take Msg.size).length (received bytes beyond packet) := by
  have short : (bytes.take Msg.size).length ≤ Msg.size := List.length_take_le _ _
  refine codesFrom_alone (bytes.take Msg.size).length (fun k inside => ?_) (fun k behind => ?_) _ nonzero member
  · unfold received
    rw [if_pos (by omega), if_pos (by omega), Mem.store_inside _ (Nat.zero_le k) (by omega), Mem.store_inside _ (Nat.zero_le k) (by omega)]
  · unfold received
    split
    · rw [Mem.store_outside _ (Or.inr (by omega))]
    · rfl

theorem alone_absent {bytes : List Byte} {beyond packet : Mem} {f : Field}
    (absent : f.code ∉ codesIn (bytes.take Msg.size).length (received bytes beyond packet)) : f.get (saidBy bytes) = 0 := by
  refine reading_absent fun member => absent (codesIn_alone ?_ member)
  cases f <;> decide

/-! ## What was asked -/

/-- The bytes `bs` have been written from `a` on, and the next ones come behind them. -/
def Built (a : Nat) (bs : List Byte) (b : Buffer) : Prop := Mem.Holds b.1 a bs ∧ b.2 = a + bs.length

theorem Built.put {a : Nat} {bs : List Byte} {b : Buffer} (built : Built a bs b) (more : List Byte) :
    Built a (bs ++ more) (Client.put more b) := by
  obtain ⟨holds, next⟩ := built
  refine ⟨Mem.holds_append.2 ⟨holds.store (Or.inl (le_of_eq next.symm)), ?_⟩, ?_⟩
  · rw [← next]
    exact Mem.holds_store _ _ _
  · rw [Client.put, List.length_append, next]
    omega

/-- A field in front of the options is written. -/
theorem Built.field {a c : Nat} {bs : List Byte} {b : Buffer} (built : Built a bs b) (value : List Byte) (front : c + value.length ≤ a) :
    Built a bs (b.1.store c value, b.2) := ⟨built.1.store (Or.inr front), built.2⟩

/-- A message whose options have been written is read with them. -/
theorem Built.optionsOf {os : List Tlv.Opt} {b : Buffer} (built : Built Msg.options (magicCookie ++ (Tlv.encode os ++ [Code.fin])) b)
    (plain : ∀ o ∈ os, Tlv.Plain Code.pad Code.fin o) : optionsOf (b.1.load 0 b.2) = some os := by
  obtain ⟨holds, len⟩ := built
  have area := (Mem.holds_append.1 holds).2.load_eq
  have count : b.2 - (Msg.options + 4) = (Tlv.encode os ++ [Code.fin]).length := by
    rw [len, List.length_append, magicCookie_length]
    omega
  rw [magicCookie_length] at area
  rw [Dhcp.optionsOf, Mem.load_drop, Nat.zero_add, count, area]
  exact Tlv.decode_encode plain []

/-- The options of the REQUEST that a client without `renew` sends. -/
def requested (c : State) : List Tlv.Opt :=
  [(Code.msgType, [MsgType.request]), (Code.serverId, Mem.wordBytes c.serverid), (Code.reqIpaddr, Mem.wordBytes c.ipaddr)]

theorem requested_plain (c : State) : ∀ o ∈ requested c, Tlv.Plain Code.pad Code.fin o := by
  intro o member
  simp only [requested, List.mem_cons, List.not_mem_nil, or_false] at member
  rcases member with rfl | rfl | rfl
  all_goals exact ⟨by simp, by simp, by simp⟩

theorem request_asks {e : Sending} {c : State} (fresh : c.renew = false) (works : e.works = true) :
    ∃ p, (sentState MsgType.request e c).sent = c.sent ++ [p] ∧ optionsOf p.bytes = some (requested c) := by
  obtain ⟨mac, known, sendto⟩ := works_mac works
  have settings := settings_request fresh (commonMessage MsgType.request mac c.packet)
  rw [sentState_works known sendto settings]
  have cookie : Built Msg.options magicCookie (commonHeader mac c.packet, Msg.options + 4) := ⟨Mem.holds_store _ _ _, rfl⟩
  have typed := cookie.put [Code.msgType, 1, MsgType.request]
  have flags := typed.field (c := Msg.flags) [0x80, 0] (by simp)
  have address := flags.field (c := Msg.ciaddr) (Mem.wordBytes c.ipaddr) (by simp)
  have server := address.put (Code.serverId :: 4 :: Mem.wordBytes c.serverid)
  have reqip := server.put (Code.reqIpaddr :: 4 :: Mem.wordBytes c.ipaddr)
  have whole : Built Msg.options (magicCookie ++ (Tlv.encode (requested c) ++ [Code.fin])) _ := reqip.put [Code.fin]
  exact ⟨_, rfl, whole.optionsOf (requested_plain c)⟩

/-! ## The turn that returns -/

/-- A turn that returns `OK` has sent a REQUEST and received an ACK. -/
theorem round_acked {addr : Addr} {e : Turn} {c c' : State} (fresh : c.renew = false) (answered : round addr e c = .inr (.ok, c')) :
    e.sending.works = true ∧ ∃ bytes, e.receiving.recv = .datagram bytes ∧
      typeOver bytes e.receiving.beyond (sentState MsgType.request e.sending c).packet = MsgType.ack ∧
      c' = (receive bytes e.receiving.beyond { sentState MsgType.request e.sending c with retries := c.retries + 1 }).2 := by
  have ways := round_turned addr e c
  generalize outcome : round addr e c = r at ways
  rw [answered] at outcome
  cases ways with
  | clearFails => cases outcome
  | routeFails => cases outcome
  | discoverFails => cases outcome
  | limit => cases outcome
  | discover entered works left offered => cases offered <;> cases outcome
  | requestFails => cases outcome
  | @request c₀ _ entered works acknowledged =>
    obtain ⟨-, rfl⟩ | ⟨-, renew, -⟩ := entered
    · rw [asking_fresh fresh] at acknowledged
      cases acknowledged with
      | fails => cases outcome
      | accepted bytes arrived type =>
        cases outcome
        exact ⟨works, bytes, arrived, type, rfl⟩
      | refused => cases outcome
      | ignored => cases outcome
    · rw [fresh] at renew
      cases renew

/-- `packet` when the datagram `bytes` has been received in answer to the REQUEST of a turn. -/
def answered (e : Turn) (c : State) (bytes : List Byte) : Mem :=
  received bytes e.receiving.beyond (sentState MsgType.request e.sending c).packet

theorem round_source_iff {addr : Addr} {e : Turn} {c c' : State} (fresh : c.renew = false) (returned : round addr e c = .inr (.ok, c')) :
    ∃ bytes, e.receiving.recv = .datagram bytes ∧ (OneSource bytes c' ↔ Alone bytes (answered e c bytes) c) := by
  obtain ⟨works, bytes, arrived, type, rfl⟩ := round_acked fresh returned
  refine ⟨bytes, arrived, ?_⟩
  have typed : typeIn (bytes.take Msg.size).length (answered e c bytes) ≠ 0 := by
    rw [show typeIn (bytes.take Msg.size).length (answered e c bytes) = MsgType.ack from type]
    decide
  have kept := sentState_from MsgType.request e.sending c
  have serverid : (sentState MsgType.request e.sending c).serverid = c.serverid := by rw [kept]
  have presult : (receive bytes e.receiving.beyond { sentState MsgType.request e.sending c with retries := c.retries + 1 }).2.presult =
      (dhcpcParsemsg (bytes.take Msg.size).length (answered e c bytes) c.presult).2 := by
    have before : (sentState MsgType.request e.sending c).presult = c.presult := by rw [kept]
    rw [← before]
    rfl
  obtain ⟨p, sent, options⟩ := request_asks fresh works
  have asked : ∃ p, (sentState MsgType.request e.sending c).sent.getLast? = some p ∧
      optionOf Code.serverId p.bytes = some (Mem.wordBytes (sentState MsgType.request e.sending c).serverid) := by
    refine ⟨p, by rw [sent, List.getLast?_concat], ?_⟩
    rw [serverid, optionOf, options]
    rfl
  have fields (f : Field) : f.get (dhcpcParsemsg (bytes.take Msg.size).length (answered e c bytes) c.presult).2 = f.get (saidBy bytes) ↔
      f.get (reading (bytes.take Msg.size).length (answered e c bytes)) = f.get (saidBy bytes) ∧
        (f.code ∈ codesIn (bytes.take Msg.size).length (answered e c bytes) ∨ f.get c.presult = 0) := by
    rw [parsemsg_get typed]
    by_cases met : f.code ∈ codesIn (bytes.take Msg.size).length (answered e c bytes)
    · rw [if_pos met, and_iff_left (Or.inl met)]
    · rw [if_neg met, reading_absent met, or_iff_right met, alone_absent met]
      exact ⟨fun zero => ⟨rfl, zero⟩, And.right⟩
  constructor
  · rintro ⟨ipaddr, all, locked, -⟩
    rw [presult] at ipaddr all
    rw [parsemsg_ipaddr typed] at ipaddr
    exact ⟨ipaddr, fun f => ((fields f).1 (all f)).1, fun f => ((fields f).1 (all f)).2, locked.trans serverid⟩
  · rintro ⟨ipaddr, whole, absent, server⟩
    refine ⟨?_, fun f => ?_, server.trans serverid.symm, asked⟩
    · rw [presult, parsemsg_ipaddr typed, ipaddr]
    · rw [presult]
      exact (fields f).2 ⟨whole f, absent f⟩

/-- The options that are read as words. -/
def Valued (code : Byte) : Prop := code = Code.serverId ∨ ∃ f : Field, f.code = code

/-- The datagram carries the options `os`, those that are read with four bytes at least. -/
structure Lists (bytes : List Byte) (os : List Tlv.Opt) : Prop where
  fits : bytes.length ≤ Msg.size
  inside : Msg.options + 5 + (Tlv.encode os).length ≤ bytes.length
  area : Mem.Holds (Mem.ofList bytes) (Msg.options + 4) (Tlv.encode os ++ [Code.fin])
  plain : ∀ o ∈ os, Tlv.Plain Code.pad Code.fin o
  valued : ∀ o ∈ os, Valued o.1 → 4 ≤ o.2.length

/-- Only the word in the data of an option counts. -/
theorem apply_congr {code : Byte} {data data' : List Byte} (same : Valued code → wordOf data = wordOf data') (r : DhcpcState) :
    r.apply (code, data) = r.apply (code, data') := by
  unfold DhcpcState.apply
  dsimp only
  split
  · rename_i mask
    rw [same (.inr ⟨.netmask, mask.symm⟩)]
  split
  · rename_i router
    rw [same (.inr ⟨.defaultRouter, router.symm⟩)]
  split
  · rename_i dns
    rw [same (.inr ⟨.dnsaddr, dns.symm⟩)]
  split
  · rename_i server
    rw [same (.inl server)]
  split
  · rename_i lease
    rw [same (.inr ⟨.leaseTime, lease.symm⟩)]
  · rfl

theorem parseOption_encode {m : Mem} {optptr : Nat} {o : Tlv.Opt} (holds : Mem.Holds m optptr (Tlv.encodeOne o))
    (valued : Valued o.1 → 4 ≤ o.2.length) (r : DhcpcState) : parseOption m optptr r = r.apply o := by
  rw [Tlv.encodeOne, Mem.holds_cons, Mem.holds_cons] at holds
  obtain ⟨code, -, data⟩ := holds
  rw [parseOption_apply, code]
  apply apply_congr
  intro isValued
  rw [← word_of_data data (valued isValued), ← word_of_data (Mem.holds_load m (optptr + 2) 4) (by simp)]

/-- One option is met, and the loop goes on behind it. -/
theorem parseLoop_option {m : Mem} {fin optptr : Nat} {o : Tlv.Opt} (holds : Mem.Holds m optptr (Tlv.encodeOne o))
    (plain : Tlv.Plain Code.pad Code.fin o) (valued : Valued o.1 → 4 ≤ o.2.length) (more : optptr < fin) (fuel : Nat)
    (r : DhcpcState) (type : Byte) :
    parseLoop m fin (fuel + 1) optptr r type =
        parseLoop m fin fuel (optptr + (Tlv.encodeOne o).length) (r.apply o) (if o.1 = Code.msgType then m (optptr + 2) else type) ∧
      codesFrom m fin (fuel + 1) optptr = o.1 :: codesFrom m fin fuel (optptr + (Tlv.encodeOne o).length) := by
  obtain ⟨-, notFin, short⟩ := plain
  have option := parseOption_encode holds valued r
  rw [Tlv.encodeOne, Mem.holds_cons, Mem.holds_cons] at holds
  obtain ⟨code, length, -⟩ := holds
  have size : (m (optptr + 1)).toNat = o.2.length := by
    rw [length, BitVec.toNat_ofNat]
    omega
  rw [parseLoop, codesFrom, if_pos more, if_pos more, code, if_neg notFin, if_neg notFin, size, option, Tlv.encodeOne_length]
  exact ⟨rfl, rfl⟩

/-- The loop meets the options of a list one after the other. -/
theorem parseLoop_encode {m : Mem} {fin : Nat} {os : List Tlv.Opt} (plain : ∀ o ∈ os, Tlv.Plain Code.pad Code.fin o)
    (valued : ∀ o ∈ os, Valued o.1 → 4 ≤ o.2.length) :
    ∀ (fuel optptr : Nat) (r : DhcpcState) (type : Byte), os.length < fuel → Mem.Holds m optptr (Tlv.encode os ++ [Code.fin]) →
      optptr + (Tlv.encode os).length < fin →
        (parseLoop m fin fuel optptr r type).2 = os.foldl DhcpcState.apply r ∧ codesFrom m fin fuel optptr = os.map Prod.fst := by
  induction os with
  | nil =>
    intro fuel optptr r type enough holds room
    obtain ⟨fuel, rfl⟩ : ∃ k, fuel = k + 1 := ⟨fuel - 1, by simp only [List.length_nil] at enough; omega⟩
    rw [Tlv.encode_nil, List.nil_append, Mem.holds_cons] at holds
    rw [Tlv.encode_nil, List.length_nil] at room
    have more : optptr < fin := by omega
    rw [parseLoop, codesFrom, if_pos more, if_pos more, if_pos holds.1, if_pos holds.1]
    exact ⟨rfl, rfl⟩
  | cons o os ih =>
    intro fuel optptr r type enough holds room
    obtain ⟨fuel, rfl⟩ : ∃ k, fuel = k + 1 := ⟨fuel - 1, by omega⟩
    rw [Tlv.encode_cons, List.append_assoc, Mem.holds_append] at holds
    rw [Tlv.encode_cons, List.length_append] at room
    obtain ⟨goes, met⟩ := parseLoop_option holds.1 (plain o (List.mem_cons_self ..)) (valued o (List.mem_cons_self ..))
      (show optptr < fin by omega) fuel r type
    obtain ⟨state, codes⟩ := ih (fun p member => plain p (List.mem_cons_of_mem _ member))
      (fun p member => valued p (List.mem_cons_of_mem _ member)) fuel _ (r.apply o)
      (if o.1 = Code.msgType then m (optptr + 2) else type) (by simp only [List.length_cons] at enough; omega) holds.2 (by omega)
    rw [goes, met, codes]
    exact ⟨state, rfl⟩

/-- Options of other codes leave the type. -/
theorem parseLoop_untyped {m : Mem} {fin : Nat} {os : List Tlv.Opt} (plain : ∀ o ∈ os, Tlv.Plain Code.pad Code.fin o)
    (valued : ∀ o ∈ os, Valued o.1 → 4 ≤ o.2.length) (untyped : ∀ o ∈ os, o.1 ≠ Code.msgType) :
    ∀ (fuel optptr : Nat) (r : DhcpcState) (type : Byte), os.length < fuel → Mem.Holds m optptr (Tlv.encode os ++ [Code.fin]) →
      optptr + (Tlv.encode os).length < fin → (parseLoop m fin fuel optptr r type).1 = type := by
  induction os with
  | nil =>
    intro fuel optptr r type enough holds room
    obtain ⟨fuel, rfl⟩ : ∃ k, fuel = k + 1 := ⟨fuel - 1, by simp only [List.length_nil] at enough; omega⟩
    rw [Tlv.encode_nil, List.nil_append, Mem.holds_cons] at holds
    rw [Tlv.encode_nil, List.length_nil] at room
    rw [parseLoop, if_pos (show optptr < fin by omega), if_pos holds.1]
  | cons o os ih =>
    intro fuel optptr r type enough holds room
    obtain ⟨fuel, rfl⟩ : ∃ k, fuel = k + 1 := ⟨fuel - 1, by omega⟩
    rw [Tlv.encode_cons, List.append_assoc, Mem.holds_append] at holds
    rw [Tlv.encode_cons, List.length_append] at room
    obtain ⟨goes, -⟩ := parseLoop_option holds.1 (plain o (List.mem_cons_self ..)) (valued o (List.mem_cons_self ..))
      (show optptr < fin by omega) fuel r type
    rw [goes, if_neg (untyped o (List.mem_cons_self ..))]
    exact ih (fun p member => plain p (List.mem_cons_of_mem _ member)) (fun p member => valued p (List.mem_cons_of_mem _ member))
      (fun p member => untyped p (List.mem_cons_of_mem _ member)) fuel _ _ type
      (by simp only [List.length_cons] at enough; omega) holds.2 (by omega)

/-- The last option of a field decides. -/
theorem applied_get (f : Field) (os : List Tlv.Opt) (r : DhcpcState) :
    f.get (os.foldl DhcpcState.apply r) = ((Tlv.last f.code os).map f.read).getD (f.get r) := by
  induction os using List.reverseRecOn with
  | nil => rfl
  | append_singleton os o ih =>
    rw [List.foldl_concat, apply_get, Tlv.last_concat, ih]
    split <;> rfl

theorem applied_serverid (os : List Tlv.Opt) (r : DhcpcState) :
    (os.foldl DhcpcState.apply r).serverid = ((Tlv.last Code.serverId os).map wordOf).getD r.serverid := by
  induction os using List.reverseRecOn with
  | nil => rfl
  | append_singleton os o ih =>
    rw [List.foldl_concat, apply_serverid, Tlv.last_concat, ih]
    split <;> rfl

theorem applied_ipaddr (os : List Tlv.Opt) (r : DhcpcState) : (os.foldl DhcpcState.apply r).ipaddr = r.ipaddr := by
  induction os generalizing r with
  | nil => rfl
  | cons o os ih => rw [List.foldl_cons, ih, apply_ipaddr]

/-- The bytes of a datagram that fits are those of `packet`. -/
theorem received_byte {bytes : List Byte} (fits : bytes.length ≤ Msg.size) (beyond packet : Mem) {k : Nat} (inside : k < bytes.length) :
    received bytes beyond packet k = Mem.ofList bytes k := by
  unfold received
  rw [if_pos (by omega), List.take_of_length_le fits, Mem.store_inside _ (Nat.zero_le k) (by omega), Mem.ofList_getElem inside]
  rfl

theorem received_holds {bytes : List Byte} (fits : bytes.length ≤ Msg.size) (beyond packet : Mem) {a : Nat} {bs : List Byte}
    (holds : Mem.Holds (Mem.ofList bytes) a bs) (inside : a + bs.length ≤ bytes.length) :
    Mem.Holds (received bytes beyond packet) a bs := by
  apply holds.congr
  intro k lo hi
  exact received_byte fits beyond packet (by omega)

/-- What `packet` holds of a datagram with options. -/
theorem Lists.received {bytes : List Byte} {os : List Tlv.Opt} (lists : Lists bytes os) (beyond packet : Mem) :
    Mem.Holds (Client.received bytes beyond packet) (Msg.options + 4) (Tlv.encode os ++ [Code.fin]) ∧
      (Client.received bytes beyond packet).word Msg.yiaddr = yiaddrOf bytes := by
  obtain ⟨fits, inside, area, -, -⟩ := lists
  refine ⟨received_holds fits beyond packet area ?_, ?_⟩
  · rw [List.length_append, List.length_singleton]
    omega
  · apply Mem.word_of_holds
    refine received_holds fits beyond packet (Mem.holds_word _ _) ?_
    simp only [Msg.options, Msg.yiaddr, Mem.wordBytes_length] at inside ⊢
    omega

/-- `dhcpc_parsemsg` reads the options of a datagram, whatever lies behind it. -/
theorem Lists.read {bytes : List Byte} {os : List Tlv.Opt} (lists : Lists bytes os) (beyond packet : Mem) :
    codesIn (bytes.take Msg.size).length (Client.received bytes beyond packet) = os.map Prod.fst ∧
      reading (bytes.take Msg.size).length (Client.received bytes beyond packet) =
        os.foldl DhcpcState.apply { DhcpcState.zero with ipaddr := yiaddrOf bytes } := by
  obtain ⟨holds, address⟩ := lists.received beyond packet
  obtain ⟨fits, inside, -, plain, valued⟩ := lists
  have few := Tlv.length_le_encode os
  rw [List.take_of_length_le fits, codesIn, reading, dhcpcParseoptions, address]
  obtain ⟨state, codes⟩ := parseLoop_encode plain valued bytes.length (Msg.options + 4)
    { DhcpcState.zero with ipaddr := yiaddrOf bytes } 0 (by omega) holds
    (show Msg.options + 4 + (Tlv.encode os).length < Msg.options + 4 + bytes.length by omega)
  exact ⟨codes, state⟩

/-- What a list of options says. -/
theorem Lists.says {bytes : List Byte} {os : List Tlv.Opt} (lists : Lists bytes os) :
    (saidBy bytes).ipaddr = yiaddrOf bytes ∧ (saidBy bytes).serverid = ((Tlv.last Code.serverId os).map wordOf).getD 0 ∧
      ∀ f : Field, f.get (saidBy bytes) = ((Tlv.last f.code os).map f.read).getD 0 := by
  have read := (lists.read (fun _ => 0) fun _ => 0).2
  refine ⟨?_, ?_, fun f => ?_⟩
  · rw [saidBy, read, applied_ipaddr]
  · rw [saidBy, read, applied_serverid]
    rfl
  · rw [saidBy, read, applied_get]
    cases f <;> rfl

/-- An ACK that is a list of options is received alone exactly where every field that it leaves out was left
out before, and its server identifier is that of the server that was asked. -/
theorem alone_iff {bytes : List Byte} {os : List Tlv.Opt} (lists : Lists bytes os) (beyond packet : Mem) (c : State) :
    Alone bytes (received bytes beyond packet) c ↔
      (∀ f : Field, Tlv.last f.code os = none → f.get c.presult = 0) ∧
        ((Tlv.last Code.serverId os).map wordOf).getD 0 = c.serverid := by
  obtain ⟨codes, read⟩ := lists.read beyond packet
  have same : reading (bytes.take Msg.size).length (received bytes beyond packet) = saidBy bytes :=
    read.trans (lists.read (fun _ => 0) fun _ => 0).2.symm
  have met (f : Field) : f.code ∈ codesIn (bytes.take Msg.size).length (received bytes beyond packet) ∨ f.get c.presult = 0 ↔
      (Tlv.last f.code os = none → f.get c.presult = 0) := by
    rw [codes, Tlv.last_eq_none_iff]
    exact Decidable.or_iff_not_imp_left
  rw [← lists.says.2.1]
  constructor
  · rintro ⟨-, -, absent, server⟩
    exact ⟨fun f => (met f).1 (absent f), server⟩
  · rintro ⟨absent, server⟩
    refine ⟨?_, fun f => by rw [same], fun f => (met f).2 (absent f), server⟩
    rw [← same, reading_ipaddr]

/-! ## An OFFER and an ACK -/

/-- The client 02:00:00:00:00:01. -/
def clientMac : Mac := ⟨[2, 0, 0, 0, 0, 1], exampleMac_length⟩

/-- A reply of the type `type` for 192.168.1.100, with the options `os`. -/
def reply (type : Byte) (os : List Tlv.Opt) : List Byte :=
  message dhcpReply xid 0 0x6401a8c0 clientMac ((Code.msgType, [type]) :: os)

theorem reply_lists {type : Byte} {os : List Tlv.Opt} (plain : ∀ o ∈ os, Tlv.Plain Code.pad Code.fin o)
    (valued : ∀ o ∈ os, Valued o.1 → 4 ≤ o.2.length) (room : (Tlv.encode os).length < 305) :
    Lists (reply type os) ((Code.msgType, [type]) :: os) := by
  have length : (reply type os).length = Msg.options + 5 + (Tlv.encode ((Code.msgType, [type]) :: os)).length :=
    message_length xid_length 0 0x6401a8c0 clientMac _
  have count : (Tlv.encode ((Code.msgType, [type]) :: os)).length = 3 + (Tlv.encode os).length := by
    rw [Tlv.encode_cons, List.length_append, Tlv.encodeOne_length]
    rfl
  refine ⟨?_, le_of_eq length.symm, (Mem.holds_append.1 (message_area xid_length 0 0x6401a8c0 clientMac _)).2, ?_, ?_⟩
  · rw [length, count, Msg.options, Msg.size]
    omega
  · intro o member
    obtain rfl | member := List.mem_cons.1 member
    · exact ⟨by simp, by simp, by simp⟩
    · exact plain o member
  · intro o member isValued
    obtain rfl | member := List.mem_cons.1 member
    · obtain server | ⟨f, code⟩ := isValued
      · cases server
      · cases f <;> cases code
    · exact valued o member isValued

/-- The DISCOVER is answered with an OFFER, the REQUEST with an ACK. -/
def offerThenAck (offered acked : List Tlv.Opt) (n : Nat) : Turn :=
  answers (some clientMac) (.datagram (if n = 0 then reply MsgType.offer offered else reply MsgType.ack acked))

/-- A client without an address. -/
def newClient : State := State.enter 0 true DhcpcState.zero 0 0 (fun _ => 0) false

/-- The two turns of such a request, computed. -/
theorem last_computed (offered acked : List Tlv.Opt) (before behind : State → Bool)
    (first : (match after (round 0) (offerThenAck offered acked) newClient 1 with
      | .inl c => before c
      | .inr _ => false) = true)
    (second : (match after (round 0) (offerThenAck offered acked) newClient 2 with
      | .inr (.ok, c') => behind c'
      | _ => false) = true) :
    ∃ c c', Last (round 0) (offerThenAck offered acked) newClient 1 c (.ok, c') ∧ before c = true ∧ behind c' = true := by
  split at first
  · rename_i c here
    split at second
    · rename_i c' there
      rw [after_succ here] at there
      exact ⟨c, c', ⟨here, there⟩, first, second⟩
    · cases second
  · cases first

/-- The server 192.168.1.1 with a router. -/
def routed : List Tlv.Opt := [(Code.serverId, [192, 168, 1, 1]), (Code.router, [192, 168, 1, 1])]

/-- The server 192.168.1.1 without a router. -/
def unrouted : List Tlv.Opt := [(Code.serverId, [192, 168, 1, 1])]

end ArtikSdk.Dhcp.Client
