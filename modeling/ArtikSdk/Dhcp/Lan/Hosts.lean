import ArtikSdk.Dhcp.Handshake.Messages
import ArtikSdk.Dhcp.Lan.System

/-!
# DHCP: what a host sends, and when it is back

Whatever a host has been told, each of its datagrams carries the `xid` that all hosts
share and the host's own MAC address, and none comes from the broadcast address, as long
as the host is not told to take that address. `dhcpc_request` returns `OK` in one place,
with the ACK that its last `recv` has brought.
-/

namespace ArtikSdk.Dhcp.Lan
open Lib Handshake

/-- A datagram of the host `mac`. -/
structure Mine (mac : Mac) (bytes : List Byte) : Prop where
  fits : bytes.length ≤ Msg.size
  inside : Msg.options ≤ bytes.length
  xid : Mem.Holds (Mem.ofList bytes) Msg.xid Client.xid
  chaddr : chaddrOf bytes = mac
  ciaddr : (Mem.ofList bytes).word Msg.ciaddr ≠ everyone

/-- The host has sent such datagrams only, and is about to send such ones. -/
structure Orderly (mac : Mac) (c : Client.State) : Prop where
  ipaddr : c.ipaddr ≠ everyone
  presult : c.presult.ipaddr ≠ everyone
  sent : ∀ s ∈ c.sent, Mine mac s.bytes

/-- The state that a phase leaves, with or without a result. -/
def leaves (r : Client.State ⊕ (Client.Status × Client.State)) : Client.State := r.elim id Prod.snd

/-! ## Messages under construction -/

/-- A message with `ciaddr` set to `a`. -/
structure Draft (mac : Mac) (a : Addr) (bs : List Byte) (b : Client.Buffer) : Prop where
  composed : Composed mac bs b
  ciaddr : Mem.Holds b.1 Msg.ciaddr (Mem.wordBytes a)

variable {mac : Mac} {a : Addr} {bs : List Byte} {b : Client.Buffer} {c c' : Client.State}

theorem commonHeader_draft (mac : Mac) (packet : Mem) :
    Draft mac 0 magicCookie (Client.commonHeader mac packet, Msg.options + 4) := by
  refine ⟨commonHeader_composed mac packet, ?_⟩
  have six := mac.length_eq
  have clear : Mem.Holds (fun k => if k < Msg.size then 0 else packet k) Msg.ciaddr (Mem.wordBytes 0) := by
    refine (show Mem.Holds (fun _ => 0) Msg.ciaddr (Mem.wordBytes 0) from Mem.holds_load (fun _ => 0) Msg.ciaddr 4).congr fun k _ high => ?_
    simp only [Mem.wordBytes_length, Msg.ciaddr] at high
    rw [if_pos (by simp only [Msg.size]; omega)]
  refine ((((((clear.store ?_).store ?_).store ?_).store ?_).store ?_).store ?_).store ?_
  all_goals simp [six]

theorem Draft.put (draft : Draft mac a bs b) (more : List Byte) : Draft mac a (bs ++ more) (Client.put more b) := by
  obtain ⟨composed, ciaddr⟩ := draft
  have behind := composed.behind
  refine ⟨composed.put more, ciaddr.store (Or.inl ?_)⟩
  simp only [Mem.wordBytes_length, Msg.ciaddr, Msg.options] at *
  omega

theorem Draft.setBroadcast (draft : Draft mac a bs b) : Draft mac a bs (Client.setBroadcast b) :=
  ⟨draft.composed.field [0x80, 0] (by simp) (by simp), draft.ciaddr.store (by simp)⟩

theorem Draft.setCiaddr (draft : Draft mac a bs b) (a' : Addr) : Draft mac a' bs (Client.setCiaddr a' b) :=
  ⟨draft.composed.field (Mem.wordBytes a') (by simp) (by simp), Mem.holds_store _ _ _⟩

/-- What goes out is the host's, unless it is to come from the broadcast address. -/
theorem Draft.mine (draft : Draft mac a bs b) (addressed : a ≠ everyone) (short : bs.length ≤ optionsSize) :
    Mine mac (b.1.load 0 b.2) := by
  obtain ⟨⟨⟨area, len⟩, behind, xid, chaddr⟩, ciaddr⟩ := draft
  have held {k : Nat} {ds : List Byte} (holds : Mem.Holds b.1 k ds) (inside : k + ds.length ≤ b.2) :
      Mem.Holds (Mem.ofList (b.1.load 0 b.2)) k ds := by
    refine holds.congr fun i low high => ?_
    rw [Mem.ofList_load _ (by omega)]
  have six := mac.length_eq
  simp only [Msg.options, optionsSize] at behind len short
  refine ⟨?_, ?_, held xid ?_, macAt_of_holds (held chaddr ?_), ?_⟩
  · rw [Mem.load_length, len, Msg.size]
    omega
  · rwa [Mem.load_length]
  · simp only [Client.xid_length, Msg.xid]
    omega
  · simp only [six, Msg.chaddr]
    omega
  · rwa [Mem.word_of_holds (held ciaddr (by simp only [Mem.wordBytes_length, Msg.ciaddr]; omega))]

/-! ## `dhcpc_sendmsg` -/

/-- Every message that `dhcpc_request` sends is composed so. -/
theorem settings_draft {msgtype : Byte} (known : Client.Known msgtype) (ipaddr : c.ipaddr ≠ everyone)
    (presult : c.presult.ipaddr ≠ everyone) :
    ∃ a bs b dest, Client.specificSettings msgtype c (Client.commonMessage msgtype mac c.packet) = some (b, dest) ∧
      Draft mac a bs b ∧ a ≠ everyone ∧ bs.length < optionsSize := by
  have typed := (commonHeader_draft mac c.packet).put [Code.msgType, 1, msgtype]
  rcases known with rfl | rfl | rfl
  · exact ⟨_, _, _, _, Client.settings_discover c _, typed.setBroadcast.put _, by decide, by decide⟩
  · have addressed := typed.setBroadcast.setCiaddr c.ipaddr
    cases renew : c.renew with
    | false =>
      exact ⟨_, _, _, _, Client.settings_request renew _, (addressed.put _).put _, ipaddr, by simp⟩
    | true => exact ⟨_, _, _, _, Client.settings_renewal renew _, addressed, ipaddr, by decide⟩
  · exact ⟨_, _, _, _, rfl, (typed.setCiaddr c.presult.ipaddr).put _, presult, by simp⟩

theorem Orderly.congr (orderly : Orderly mac c) (ipaddr : c'.ipaddr = c.ipaddr) (presult : c'.presult.ipaddr = c.presult.ipaddr)
    (sent : c'.sent = c.sent) : Orderly mac c' :=
  ⟨by rw [ipaddr]; exact orderly.ipaddr, by rw [presult]; exact orderly.presult, by rw [sent]; exact orderly.sent⟩

theorem Orderly.sendmsg (orderly : Orderly mac c) {msgtype : Byte} (known : Client.Known msgtype) {answer : Option Mac}
    (own : Own mac answer) (sendto : Bool) : Orderly mac (Client.dhcpcSendmsg msgtype answer sendto c).2 := by
  rcases own with rfl | rfl
  · exact orderly
  · obtain ⟨a, bs, b, dest, settings, draft, addressed, short⟩ := @settings_draft mac c msgtype known orderly.ipaddr orderly.presult
    simp only [Client.dhcpcSendmsg, settings]
    cases sendto with
    | false => exact orderly.congr rfl rfl rfl
    | true =>
      refine ⟨orderly.ipaddr, orderly.presult, fun s member => ?_⟩
      rcases List.mem_append.1 member with before | last
      · exact orderly.sent s before
      · rw [List.mem_singleton.1 last]
        refine (draft.put [Code.fin]).mine addressed ?_
        rw [List.length_append, List.length_singleton]
        omega

/-! ## The phases of a turn -/

variable {addr : Addr}

theorem Orderly.sendPhase (orderly : Orderly mac c) {e : Client.Sending} (own : Own mac e.getmacaddr) (renewed : addr ≠ everyone) :
    Orderly mac (leaves (Client.sendPhase addr e c)) := by
  have ways := Client.sendPhase_entered addr e c
  generalize Client.sendPhase addr e c = r at ways
  cases ways with
  | clearFails => exact orderly
  | routeFails => exact orderly.congr rfl rfl rfl
  | @discover c₀ entered =>
    have here : Orderly mac c₀ := by
      obtain ⟨-, rfl⟩ | ⟨-, -, -, -, rfl⟩ := entered
      · exact orderly
      · exact orderly.congr rfl rfl rfl
    have sent : Orderly mac (Client.sentState MsgType.discover e c₀) := here.sendmsg (Or.inl rfl) own _
    rw [Client.sendDiscover_eq]
    split
    · exact sent
    split
    · exact sent.congr rfl rfl rfl
    · rw [leaves, Sum.elim_inr, Client.State.setIpv4addr]
      split
      · exact sent.congr rfl rfl rfl
      · exact sent
  | @request c₀ entered =>
    have here : Orderly mac (Client.asking addr c₀) := by
      have start : Orderly mac c₀ := by
        obtain ⟨-, rfl⟩ | ⟨-, -, rfl⟩ := entered
        · exact orderly
        · exact orderly.congr rfl rfl rfl
      rw [Client.asking]
      split
      · exact ⟨renewed, start.presult, start.sent⟩
      · exact start
    have sent : Orderly mac (Client.sentState MsgType.request e (Client.asking addr c₀)) := here.sendmsg (Or.inr (Or.inl rfl)) own _
    rw [Client.sendRequest_eq]
    split
    · exact sent
    · exact sent.congr rfl rfl rfl

theorem Orderly.nextRequest (orderly : Orderly mac c) : Orderly mac (Client.nextRequest c) := by
  rw [Client.nextRequest]
  split <;> split <;> exact orderly.congr rfl rfl rfl

theorem Orderly.receive (orderly : Orderly mac c) {bytes : List Byte} {beyond : Mem}
    (told : (Client.receive bytes beyond c).2.presult.ipaddr ≠ everyone) : Orderly mac (Client.receive bytes beyond c).2 :=
  ⟨orderly.ipaddr, told, orderly.sent⟩

theorem Orderly.setIpv4addr (orderly : Orderly mac c) (answer : Bool) (a : Addr) : Orderly mac (c.setIpv4addr answer a) := by
  rw [Client.State.setIpv4addr]
  split
  · exact orderly.congr rfl rfl rfl
  · exact orderly

theorem Orderly.recvPhase (orderly : Orderly mac c) {e : Client.Receiving} (own : Own mac e.getmacaddr)
    (told : ∀ bytes, e.recv = .datagram bytes → (Client.receive bytes e.beyond c).2.presult.ipaddr ≠ everyone) :
    Orderly mac (leaves (Client.recvPhase e c)) := by
  rw [Client.recvPhase]
  split
  · unfold Client.recvAck
    split
    · rename_i bytes arrived
      have heard := orderly.receive (told bytes arrived)
      dsimp only
      split
      · exact heard
      split
      · exact heard.congr rfl rfl rfl
      split
      · exact (heard.sendmsg (Or.inr (Or.inr rfl)) own e.sendto).nextRequest
      · exact heard.nextRequest
    · exact orderly.nextRequest
    · exact orderly.setIpv4addr _ _
  · unfold Client.recvOffer
    split
    · rename_i bytes arrived
      have heard := orderly.receive (told bytes arrived)
      dsimp only
      split
      · have taken : Orderly mac { (Client.receive bytes e.beyond c).2 with
            ipaddr := (Client.receive bytes e.beyond c).2.presult.ipaddr
            serverid := (Client.receive bytes e.beyond c).2.presult.serverid } := ⟨heard.presult, heard.presult, heard.sent⟩
        exact (taken.setIpv4addr _ _).congr rfl rfl rfl
      · exact heard
    · exact orderly
    · exact orderly

/-- No phase before a `recv` ends with `OK`. -/
theorem sendPhase_ok {e : Client.Sending} : Client.sendPhase addr e c ≠ .inr (.ok, c') := by
  intro ok
  have ways := Client.sendPhase_entered addr e c
  rw [ok] at ways
  generalize result : (Sum.inr (Client.Status.ok, c') : Client.State ⊕ (Client.Status × Client.State)) = r at ways
  cases ways with
  | clearFails => cases result
  | routeFails => cases result
  | discover entered =>
    rw [Client.sendDiscover_eq] at result
    split at result
    · cases result
    split at result <;> cases result
  | request entered =>
    rw [Client.sendRequest_eq] at result
    split at result <;> cases result

/-- `OK` comes with an ACK, which has just been read. -/
theorem recvPhase_ok {e : Client.Receiving} (ok : Client.recvPhase e c = .inr (.ok, c')) :
    ∃ bytes, e.recv = .datagram bytes ∧ (Client.receive bytes e.beyond c).1 = MsgType.ack ∧ c' = (Client.receive bytes e.beyond c).2 := by
  rw [Client.recvPhase] at ok
  split at ok
  · have ways := Client.recvAck_acknowledged e c
    rw [ok] at ways
    cases ways with
    | accepted bytes arrived type => exact ⟨bytes, arrived, (Client.receive_type ..).trans type, rfl⟩
  · have ways := Client.recvOffer_offered e c
    rw [ok] at ways
    cases ways

/-! ## Hosts -/

@[simp] theorem goes_client (h : Host) (phase : Phase) (r : Client.State ⊕ (Client.Status × Client.State)) :
    (h.goes phase r).client = leaves r := by
  cases r <;> rfl

@[simp] theorem goes_heard (h : Host) (phase : Phase) (r : Client.State ⊕ (Client.Status × Client.State)) :
    (h.goes phase r).heard = h.heard := by
  cases r <;> rfl

theorem goes_returned {h : Host} {phase : Phase} {r : Client.State ⊕ (Client.Status × Client.State)} {status : Client.Status}
    (on : phase ≠ .returned status) (returned : (h.goes phase r).phase = .returned status) :
    r = .inr (status, leaves r) := by
  cases r with
  | inl c => exact absurd returned on
  | inr p =>
    cases returned
    rfl

end ArtikSdk.Dhcp.Lan
