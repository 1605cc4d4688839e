import ArtikSdk.Dhcp.Client.Request
import ArtikSdk.Lib.View

/-!
# DHCP client: the bytes that a parse uses

`dhcpc_parsemsg` reads the header of `packet` however short the datagram was, and gives the
length of the whole datagram to `dhcpc_parseoptions`, which starts 240 bytes into it and takes
every option to have the data that its code asks for. The parser is written here once more, as
a scan of the bytes that it is shown; `scanParsemsg_eq` says that it is the same parser. Shown
the datagram alone, it answers exactly where the datagram is `Covered`.
-/

namespace ArtikSdk.Dhcp.Client
open Lib Scan

/-! ## The parser, byte by byte -/

/-- The `switch` of `dhcpc_parseoptions`, but for the END. -/
def scanOption (optptr : Nat) (r : DhcpcState) (type : Byte) : Scan (Byte × DhcpcState) := do
  let code ← byte optptr
  if code = Code.subnetMask then
    let netmask ← word (optptr + 2)
    return (type, { r with netmask })
  else if code = Code.router then
    let defaultRouter ← word (optptr + 2)
    return (type, { r with defaultRouter })
  else if code = Code.dnsServer then
    let dnsaddr ← word (optptr + 2)
    return (type, { r with dnsaddr })
  else if code = Code.msgType then
    let type ← byte (optptr + 2)
    return (type, r)
  else if code = Code.serverId then
    let serverid ← word (optptr + 2)
    return (type, { r with serverid })
  else if code = Code.leaseTime then
    let tmp0 ← half (optptr + 2)
    let tmp1 ← half (optptr + 4)
    return (type, { r with leaseTime := (Mem.swapHalf tmp0).setWidth 32 <<< 16 ||| (Mem.swapHalf tmp1).setWidth 32 })
  else
    return (type, r)

/-- The loop of `dhcpc_parseoptions`, for at most `fuel` rounds. -/
def scanLoop (fin : Nat) : Nat → Nat → DhcpcState → Byte → Scan (Byte × DhcpcState)
  | 0, _, _, _ => fun _ => none
  | fuel + 1, optptr, r, type => do
    if optptr < fin then
      let code ← byte optptr
      if code = Code.fin then
        return (type, r)
      else
        let (type, r) ← scanOption optptr r type
        let len ← byte (optptr + 1)
        scanLoop fin fuel (optptr + (len.toNat + 2)) r type
    else
      return (type, r)

/-- `memcmp(pdhcpc->packet.xid, xid, sizeof(xid)) == 0` -/
def xidMatches : Scan Bool := do
  let b0 ← byte Msg.xid
  let b1 ← byte (Msg.xid + 1)
  let b2 ← byte (Msg.xid + 2)
  let b3 ← byte (Msg.xid + 3)
  return [b0, b1, b2, b3] = xid

/-- `dhcpc_parsemsg` -/
def scanParsemsg (buflen : Nat) (r : DhcpcState) : Scan (Byte × DhcpcState) := do
  let op ← byte Msg.op
  if op = dhcpReply then
    if ← xidMatches then
      let ipaddr ← word Msg.yiaddr
      scanLoop (Msg.options + 4 + buflen) (buflen + 1) (Msg.options + 4) { r with ipaddr } 0
    else
      return (0, r)
  else
    return (0, r)

/-- Every byte of `packet` and behind it is shown. -/
def whole (m : Mem) : View := fun k => some (m k)

/-- What `recv` has stored in `packet`. -/
def datagram (bytes : List Byte) : List Byte := bytes.take Msg.size

/-- The parse of a datagram ends, whatever is in memory around it, and the bytes of the datagram are
all that it takes. -/
structure UsesOnly (bytes : List Byte) : Prop where
  ends : ∀ m r, scanParsemsg (datagram bytes).length r (whole m) = some (dhcpcParsemsg (datagram bytes).length m r)
  received : ∀ r, ∃ answer, scanParsemsg (datagram bytes).length r (View.ofList (datagram bytes)) = some answer

/-- How many bytes of data the `switch` takes from an option. -/
def needs (code : Byte) : Nat :=
  if code = Code.subnetMask ∨ code = Code.router ∨ code = Code.dnsServer ∨ code = Code.serverId ∨ code = Code.leaseTime then 4
  else if code = Code.msgType then 1
  else 0

/-- From here on the loop looks at bytes that are there: it comes to an END, each option on the way having
its length and the data taken from it; or an option jumps 240 bytes past the last byte of all. -/
inductive Complete : List Byte → Prop where
  | fin {bs : List Byte} : Complete (Code.fin :: bs)
  | option {code len : Byte} {bs : List Byte} (notFin : code ≠ Code.fin) (data : needs code ≤ bs.length)
      (rest : Complete (bs.drop len.toNat)) : Complete (code :: len :: bs)
  | jump {code len : Byte} {bs : List Byte} (notFin : code ≠ Code.fin) (data : needs code ≤ bs.length)
      (far : bs.length + (Msg.options + 4) ≤ len.toNat) : Complete (code :: len :: bs)

/-- The bytes of a datagram are all that its parse looks at. -/
structure Covered (bs : List Byte) : Prop where
  op : 1 ≤ bs.length
  xid : bs.head? = some dhcpReply → Msg.xid + 4 ≤ bs.length
  yiaddr : bs.head? = some dhcpReply → (bs.drop Msg.xid).take 4 = Client.xid → Msg.yiaddr + 4 ≤ bs.length
  options : bs.head? = some dhcpReply → (bs.drop Msg.xid).take 4 = Client.xid → Complete (bs.drop (Msg.options + 4))

variable {m : Mem} {r : DhcpcState} {type code len : Byte} {bs : List Byte} {fin optptr : Nat} {v : View}

/-! ## It is the same parser -/

theorem word_whole (m : Mem) (a : Nat) : word a (whole m) = some (m.word a) := rfl

theorem half_whole (m : Mem) (a : Nat) : half a (whole m) = some (m.half a) := rfl

theorem scanOption_eq (m : Mem) (optptr : Nat) (r : DhcpcState) (type : Byte) :
    scanOption optptr r type (whole m) =
      some (if m optptr = Code.msgType then m (optptr + 2) else type, parseOption m optptr r) := by
  have code : byte optptr (whole m) = some (m optptr) := rfl
  have value : byte (optptr + 2) (whole m) = some (m (optptr + 2)) := rfl
  rw [scanOption, bind_apply_of_some code]
  unfold parseOption
  dsimp only
  by_cases isNetmask : m optptr = Code.subnetMask
  · rw [if_pos isNetmask, if_pos isNetmask, bind_apply_of_some (word_whole m _), if_neg (by rw [isNetmask]; decide)]
    rfl
  by_cases isRouter : m optptr = Code.router
  · rw [if_neg isNetmask, if_pos isRouter, if_neg isNetmask, if_pos isRouter, bind_apply_of_some (word_whole m _),
      if_neg (by rw [isRouter]; decide)]
    rfl
  by_cases isDns : m optptr = Code.dnsServer
  · rw [if_neg isNetmask, if_neg isRouter, if_pos isDns, if_neg isNetmask, if_neg isRouter, if_pos isDns,
      bind_apply_of_some (word_whole m _), if_neg (by rw [isDns]; decide)]
    rfl
  rw [if_neg isNetmask, if_neg isRouter, if_neg isDns, if_neg isNetmask, if_neg isRouter, if_neg isDns]
  by_cases isType : m optptr = Code.msgType
  · rw [if_pos isType, bind_apply_of_some value, if_pos isType, if_neg (by rw [isType]; decide), if_neg (by rw [isType]; decide)]
    rfl
  rw [if_neg isType, if_neg isType]
  by_cases isServer : m optptr = Code.serverId
  · rw [if_pos isServer, if_pos isServer, bind_apply_of_some (word_whole m _)]
    rfl
  rw [if_neg isServer, if_neg isServer]
  by_cases isLease : m optptr = Code.leaseTime
  · rw [if_pos isLease, if_pos isLease, bind_apply_of_some (half_whole m _), bind_apply_of_some (half_whole m _)]
    rfl
  · rw [if_neg isLease, if_neg isLease]
    rfl

/-- A round moves by two bytes at least, so `len` rounds reach the end. -/
theorem scanLoop_eq (m : Mem) (fin : Nat) : ∀ {fuel optptr : Nat} {r : DhcpcState} {type : Byte}, fin ≤ optptr + 2 * fuel →
    scanLoop fin (fuel + 1) optptr r type (whole m) = some (parseLoop m fin fuel optptr r type) := by
  intro fuel
  induction fuel with
  | zero =>
    intro optptr r type enough
    rw [scanLoop, if_neg (by omega), parseLoop]
    rfl
  | succ fuel ih =>
    intro optptr r type enough
    rw [scanLoop, parseLoop]
    split
    · have code : byte optptr (whole m) = some (m optptr) := rfl
      have length : byte (optptr + 1) (whole m) = some (m (optptr + 1)) := rfl
      rw [bind_apply_of_some code]
      split
      · rfl
      · rw [bind_apply_of_some (scanOption_eq m optptr r type)]
        dsimp only
        rw [bind_apply_of_some length]
        exact ih (by omega)
    · rfl

theorem scanParsemsg_eq (buflen : Nat) (m : Mem) (r : DhcpcState) :
    scanParsemsg buflen r (whole m) = some (dhcpcParsemsg buflen m r) := by
  have op : byte Msg.op (whole m) = some (m Msg.op) := rfl
  have xid' : xidMatches (whole m) = some (decide (m.load Msg.xid 4 = xid)) := rfl
  rw [scanParsemsg, bind_apply_of_some op, dhcpcParsemsg]
  by_cases reply : m Msg.op = dhcpReply
  · rw [if_pos reply, bind_apply_of_some xid']
    by_cases same : m.load Msg.xid 4 = xid
    · rw [if_pos (decide_eq_true same), if_pos ⟨reply, same⟩, bind_apply_of_some (word_whole m Msg.yiaddr)]
      exact scanLoop_eq m _ (by omega)
    · rw [if_neg fun yes => same (of_decide_eq_true yes), if_neg fun both => same both.2]
      rfl
  · rw [if_neg reply, if_neg fun both => reply both.1]
    rfl

/-! ## What it looks at -/

theorem mono_xidMatches : Mono xidMatches :=
  (mono_byte _).bind fun _ => (mono_byte _).bind fun _ => (mono_byte _).bind fun _ => (mono_byte _).bind fun _ => mono_pure _

theorem mono_scanOption (optptr : Nat) (r : DhcpcState) (type : Byte) : Mono (scanOption optptr r type) := by
  have four {f : BitVec 32 → Byte × DhcpcState} : Mono (word (optptr + 2) >>= fun w => pure (f w)) :=
    (mono_word _).bind fun _ => mono_pure _
  refine (mono_byte _).bind fun code => Mono.ite four (Mono.ite four (Mono.ite four (Mono.ite ?_ (Mono.ite four (Mono.ite ?_ ?_)))))
  · exact (mono_byte _).bind fun _ => mono_pure _
  · exact (mono_half _).bind fun _ => (mono_half _).bind fun _ => mono_pure _
  · exact mono_pure _

theorem mono_scanLoop (fin fuel optptr : Nat) (r : DhcpcState) (type : Byte) : Mono (scanLoop fin fuel optptr r type) := by
  induction fuel generalizing optptr r type with
  | zero =>
    intro v v' answer _ h
    cases h
  | succ fuel ih =>
    refine Mono.ite ((mono_byte _).bind fun code => Mono.ite (mono_pure _) ?_) (mono_pure _)
    exact (mono_scanOption _ _ _).bind fun p => (mono_byte _).bind fun len => ih _ _ _

theorem mono_scanParsemsg (buflen : Nat) (r : DhcpcState) : Mono (scanParsemsg buflen r) := by
  refine (mono_byte _).bind fun op => Mono.ite (mono_xidMatches.bind fun b => Mono.ite ?_ (mono_pure _)) (mono_pure _)
  exact (mono_word _).bind fun _ => mono_scanLoop _ _ _ _ _

/-- What is answered from the datagram alone is the result whatever else is in memory. -/
theorem UsesOnly.alone {bytes : List Byte} (uses : UsesOnly bytes) {m m' : Mem} (holds : Mem.Holds m 0 (datagram bytes))
    (holds' : Mem.Holds m' 0 (datagram bytes)) (r : DhcpcState) :
    dhcpcParsemsg (datagram bytes).length m r = dhcpcParsemsg (datagram bytes).length m' r := by
  obtain ⟨answer, read⟩ := uses.received r
  have sub {m : Mem} (holds : Mem.Holds m 0 (datagram bytes)) : View.Sub (View.ofList (datagram bytes)) (whole m) := by
    intro k b found
    have := holds k b found
    rw [Nat.zero_add] at this
    rw [whole, this]
  have left := mono_scanParsemsg _ r _ _ answer (sub holds) read
  have right := mono_scanParsemsg _ r _ _ answer (sub holds') read
  rw [scanParsemsg_eq] at left right
  exact Option.some.inj (left.trans right.symm)

theorem xid_ofList : (∃ b, xidMatches (View.ofList bs) = some b) ↔ Msg.xid + 4 ≤ bs.length :=
  bytes_ofList (n := 2) fun _ => bytes_ofList (n := 1) fun _ => bytes_ofList (n := 0) fun _ =>
    reads_iff.trans byte_ofList

theorem xidMatches_eq (inside : Msg.xid + 4 ≤ bs.length) :
    xidMatches (View.ofList bs) = some (decide ((bs.drop Msg.xid).take 4 = xid)) := by
  match bs, inside with
  | _ :: _ :: _ :: _ :: _ :: _ :: _ :: _ :: bs, _ => rfl

theorem complete_option_iff (notFin : code ≠ Code.fin) :
    Complete (code :: len :: bs) ↔
      needs code ≤ bs.length ∧ (bs.length + (Msg.options + 4) ≤ len.toNat ∨ Complete (bs.drop len.toNat)) := by
  constructor
  · intro complete
    cases complete with
    | fin => exact absurd rfl notFin
    | option _ data rest => exact ⟨data, Or.inr rest⟩
    | jump _ data far => exact ⟨data, Or.inl far⟩
  · rintro ⟨data, far | rest⟩
    · exact .jump notFin data far
    · exact .option notFin data rest

/-- The `switch` answers where the data is there. -/
theorem scanOption_iff (here : bs[optptr]? = some code) (r : DhcpcState) (type : Byte) :
    (∃ answer, scanOption optptr r type (View.ofList bs) = some answer) ↔ needs code = 0 ∨ optptr + 2 + needs code ≤ bs.length := by
  have four {f : BitVec 32 → Byte × DhcpcState} :
      (∃ answer, (word (optptr + 2) >>= fun w => pure (f w)) (View.ofList bs) = some answer) ↔ 4 = 0 ∨ optptr + 2 + 4 ≤ bs.length := by
    rw [reads_iff, word_ofList, or_iff_right (by decide)]
  rw [scanOption, bind_apply_of_some here]
  by_cases isNetmask : code = Code.subnetMask
  · subst isNetmask
    exact four
  by_cases isRouter : code = Code.router
  · subst isRouter
    exact four
  by_cases isDns : code = Code.dnsServer
  · subst isDns
    exact four
  rw [if_neg isNetmask, if_neg isRouter, if_neg isDns]
  by_cases isType : code = Code.msgType
  · subst isType
    rw [if_pos rfl, reads_iff, byte_ofList]
    exact (or_iff_right (by decide)).symm
  rw [if_neg isType]
  by_cases isServer : code = Code.serverId
  · subst isServer
    exact four
  rw [if_neg isServer]
  by_cases isLease : code = Code.leaseTime
  · subst isLease
    rw [if_pos rfl, or_iff_right (by decide)]
    constructor
    · rintro ⟨answer, read⟩
      obtain ⟨_, -, second⟩ := bind_some.1 read
      exact half_ofList.1 (reads_iff.1 ⟨answer, second⟩)
    · intro inside
      have short : needs Code.leaseTime = 4 := rfl
      obtain ⟨tmp0, first⟩ := half_ofList.2 (show optptr + 2 + 2 ≤ bs.length by omega)
      obtain ⟨tmp1, second⟩ := half_ofList.2 (show optptr + 4 + 2 ≤ bs.length by omega)
      exact ⟨_, by rw [bind_apply_of_some first, bind_apply_of_some second]; rfl⟩
  · rw [if_neg isLease]
    have nothing : needs code = 0 := by
      rw [needs, if_neg (by rintro (h | h | h | h | h) <;> contradiction), if_neg isType]
    exact iff_of_true ⟨_, rfl⟩ (Or.inl nothing)

/-- A round on an option answers where the data and the length are there, and what follows answers. -/
theorem option_round_iff {answers : Prop} {k : Byte → Byte → DhcpcState → Scan (Byte × DhcpcState)} {rest : List Byte}
    (left : bs.drop optptr = code :: len :: rest)
    (further : ∀ type r, (∃ answer, k len type r (View.ofList bs) = some answer) ↔ answers) (type : Byte) (r : DhcpcState) :
    (∃ answer,
      (do
        let (type, r) ← scanOption optptr r type
        let len ← byte (optptr + 1)
        k len type r) (View.ofList bs) = some answer) ↔
      needs code ≤ rest.length ∧ answers := by
  have size := congrArg List.length left
  rw [List.length_drop, List.length_cons, List.length_cons] at size
  have behind : bs.drop (optptr + 1) = len :: rest := by
    rw [← List.tail_drop, left, List.tail_cons]
  have length := byte_of_drop behind
  have data := scanOption_iff (byte_of_drop left) r type
  constructor
  · rintro ⟨answer, read⟩
    obtain ⟨⟨type', r'⟩, first, second⟩ := bind_some.1 read
    dsimp only at second
    rw [bind_apply_of_some length] at second
    refine ⟨?_, (further type' r').1 ⟨_, second⟩⟩
    obtain none' | inside := data.1 ⟨_, first⟩
    · omega
    · omega
  · rintro ⟨enough, after⟩
    obtain ⟨⟨type', r'⟩, first⟩ := data.2 (by omega)
    obtain ⟨answer, second⟩ := (further type' r').2 after
    refine ⟨answer, ?_⟩
    rw [bind_apply_of_some first]
    dsimp only
    rw [bind_apply_of_some length]
    exact second

/-- The last byte is the code of an option: its length is missing. -/
theorem option_round_none {k : Byte → Byte → DhcpcState → Scan (Byte × DhcpcState)} (left : bs.drop optptr = [code]) (type : Byte)
    (r : DhcpcState) :
    ¬ ∃ answer,
      (do
        let (type, r) ← scanOption optptr r type
        let len ← byte (optptr + 1)
        k len type r) (View.ofList bs) = some answer := by
  have behind : bs.drop (optptr + 1) = [] := by
    rw [← List.tail_drop, left, List.tail_cons]
  rintro ⟨answer, read⟩
  obtain ⟨_, -, second⟩ := bind_some.1 read
  dsimp only at second
  rw [bind_apply_of_none (byte_of_drop_nil behind)] at second
  cases second

/-- The loop looks at bytes that are there exactly where it is at its end or they are complete. -/
theorem scanLoop_iff : ∀ {fuel optptr : Nat} {r : DhcpcState} {type : Byte}, Msg.options + 4 + bs.length ≤ optptr + 2 * fuel →
    ((∃ answer, scanLoop (Msg.options + 4 + bs.length) (fuel + 1) optptr r type (View.ofList bs) = some answer) ↔
      (Msg.options + 4 + bs.length ≤ optptr ∨ Complete (bs.drop optptr))) := by
  intro fuel
  induction fuel with
  | zero =>
    intro optptr r type enough
    rw [scanLoop, if_neg (by omega)]
    exact iff_of_true ⟨_, rfl⟩ (Or.inl (by omega))
  | succ fuel ih =>
    intro optptr r type enough
    rw [scanLoop]
    by_cases inside : optptr < Msg.options + 4 + bs.length
    swap
    · rw [if_neg inside]
      exact iff_of_true ⟨_, rfl⟩ (Or.inl (by omega))
    rw [if_pos inside, or_iff_right (by omega)]
    cases left : bs.drop optptr with
    | nil =>
      -- the code itself is missing
      rw [bind_apply_of_none (byte_of_drop_nil left)]
      exact iff_of_false (fun ⟨_, no⟩ => by cases no) fun complete => by cases complete
    | cons code rest =>
      rw [bind_apply_of_some (byte_of_drop left)]
      by_cases isFin : code = Code.fin
      · rw [if_pos isFin, isFin]
        exact iff_of_true ⟨_, rfl⟩ .fin
      rw [if_neg isFin]
      cases rest with
      | nil =>
        refine iff_of_false (option_round_none (k := fun len type r => scanLoop _ _ (optptr + (len.toNat + 2)) r type) left type r) fun complete => ?_
        cases complete
        exact isFin rfl
      | cons len rest =>
        have size := congrArg List.length left
        rw [List.length_drop, List.length_cons, List.length_cons] at size
        have behind : bs.drop (optptr + (len.toNat + 2)) = rest.drop len.toNat := by
          rw [← List.drop_drop, left, List.drop_succ_cons, List.drop_succ_cons]
        have past : Msg.options + 4 + bs.length ≤ optptr + (len.toNat + 2) ↔ rest.length + (Msg.options + 4) ≤ len.toNat := by
          omega
        rw [complete_option_iff isFin]
        refine option_round_iff (k := fun len type r => scanLoop _ _ (optptr + (len.toNat + 2)) r type) left (fun type' r' => ?_) type r
        rw [ih (by omega), behind, past]

theorem scanParsemsg_iff (r : DhcpcState) :
    (∃ answer, scanParsemsg bs.length r (View.ofList bs) = some answer) ↔ Covered bs := by
  cases bs with
  | nil => exact iff_of_false (fun ⟨_, no⟩ => by cases no) fun covered => absurd covered.op (by decide)
  | cons op bs =>
    have first : byte Msg.op (View.ofList (op :: bs)) = some op := rfl
    rw [scanParsemsg, bind_apply_of_some first]
    by_cases isReply : op = dhcpReply
    swap
    · have other : (op :: bs).head? ≠ some dhcpReply := fun same => isReply (Option.some.inj same)
      rw [if_neg isReply]
      exact iff_of_true ⟨_, rfl⟩ ⟨by simp, fun h => absurd h other, fun h => absurd h other, fun h => absurd h other⟩
    have head : (op :: bs).head? = some dhcpReply := congrArg some isReply
    rw [if_pos isReply]
    by_cases inside : Msg.xid + 4 ≤ (op :: bs).length
    swap
    · refine iff_of_false ?_ fun covered => inside (covered.xid head)
      rintro ⟨answer, read⟩
      obtain ⟨b, matched, -⟩ := bind_some.1 read
      exact inside (xid_ofList.1 ⟨b, matched⟩)
    rw [bind_apply_of_some (xidMatches_eq inside)]
    by_cases same : ((op :: bs).drop Msg.xid).take 4 = xid
    swap
    · rw [if_neg fun yes => same (of_decide_eq_true yes)]
      exact iff_of_true ⟨_, rfl⟩ ⟨by simp, fun _ => inside, fun _ h => absurd h same, fun _ h => absurd h same⟩
    rw [if_pos (decide_eq_true same)]
    have loop (w : BitVec 32) : (∃ answer, scanLoop (Msg.options + 4 + (op :: bs).length) ((op :: bs).length + 1) (Msg.options + 4)
        { r with ipaddr := w } 0 (View.ofList (op :: bs)) = some answer) ↔ _ :=
      scanLoop_iff (by omega)
    have started : ¬ Msg.options + 4 + (op :: bs).length ≤ Msg.options + 4 := by
      rw [List.length_cons]
      omega
    constructor
    · rintro ⟨answer, read⟩
      obtain ⟨ipaddr, yiaddr, options⟩ := bind_some.1 read
      refine ⟨by simp, fun _ => inside, fun _ _ => word_ofList.1 ⟨ipaddr, yiaddr⟩, fun _ _ => ?_⟩
      exact ((loop ipaddr).1 ⟨answer, options⟩).resolve_left started
    · intro covered
      obtain ⟨ipaddr, yiaddr⟩ := word_ofList.2 (covered.yiaddr head same)
      obtain ⟨answer, options⟩ := (loop ipaddr).2 (Or.inr (covered.options head same))
      exact ⟨answer, by rw [bind_apply_of_some yiaddr]; exact options⟩

/-- **The bytes of a datagram.** The parse uses only what was received exactly where the datagram is covered. -/
theorem usesOnly_iff (bytes : List Byte) : UsesOnly bytes ↔ Covered (datagram bytes) :=
  ⟨fun uses => (scanParsemsg_iff DhcpcState.zero).1 (uses.received _),
    fun covered => ⟨fun m r => scanParsemsg_eq _ m r, fun r => (scanParsemsg_iff r).2 covered⟩⟩

/-! ## An answer without options -/

/-- The header of an answer to the client, and the magic cookie. -/
def bare : List Byte := header dhcpReply xid 0 0 ⟨[2, 0, 0, 0, 0, 1], exampleMac_length⟩ ++ magicCookie

/-- The options of such an answer are read behind its last byte. -/
theorem bare_overread : ¬ UsesOnly bare := by
  intro uses
  have covered := (scanParsemsg_iff DhcpcState.zero).1 (uses.received _)
  have options := covered.options (by decide +kernel) (by decide +kernel)
  have none' : (datagram bare).drop (Msg.options + 4) = [] := by decide +kernel
  rw [none'] at options
  cases options

end ArtikSdk.Dhcp.Client
