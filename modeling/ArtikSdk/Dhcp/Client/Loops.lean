import ArtikSdk.Dhcp.Client.Request

/-!
# DHCP client: the ways through a turn

What the two phases of a turn do to the variables that control the loops and to the
interface. Sending changes the packet and the log, receiving the packet and `presult`;
the type of a received message depends on the packet alone.
-/

namespace ArtikSdk.Dhcp.Client
open Lib

/-! ## Sending -/

/-- The message types `dhcpc_request` sends. -/
def Known (msgtype : Byte) : Prop := msgtype = MsgType.discover ∨ msgtype = MsgType.request ∨ msgtype = MsgType.decline

theorem settings_known {msgtype : Byte} (known : Known msgtype) (c : State) (b : Buffer) :
    ∃ p, specificSettings msgtype c b = some p := by
  rcases known with rfl | rfl | rfl
  · exact ⟨_, rfl⟩
  · exact ⟨_, rfl⟩
  · exact ⟨_, rfl⟩

theorem sendmsg_result {msgtype : Byte} (known : Known msgtype) (mac : Option Mac) (sendto : Bool) (c : State) :
    (dhcpcSendmsg msgtype mac sendto c).1 = (mac.isSome && sendto) := by
  cases mac with
  | none => rfl
  | some mac =>
    obtain ⟨p, settings⟩ := settings_known known c (commonMessage msgtype mac c.packet)
    simp only [dhcpcSendmsg, settings]
    cases sendto <;> rfl

theorem sendmsg_keeps (msgtype : Byte) (mac : Option Mac) (sendto : Bool) (c : State) :
    (dhcpcSendmsg msgtype mac sendto c).2 =
      { c with
        packet := (dhcpcSendmsg msgtype mac sendto c).2.packet
        sent := (dhcpcSendmsg msgtype mac sendto c).2.sent } := by
  unfold dhcpcSendmsg
  split
  · rfl
  · dsimp only
    split
    · rfl
    · cases sendto <;> rfl

/-- `dhcpc_sendmsg` succeeds on the way to a `recv`. -/
def Sending.works (e : Sending) : Bool := e.getmacaddr.isSome && e.sendto

/-- The state in the DISCOVER loop, when a DISCOVER is due. -/
def Discovering (e : Sending) (c c' : State) : Prop :=
  c.loop = .discover ∧ c' = c ∨
    c.loop = .outer ∧ c.renew = false ∧ e.setAny = true ∧ (c.oldaddr = 0 ∨ e.setDefaultroute = true) ∧
      c' = { c with ifaddr := 0, loop := .discover }

/-- The state in the REQUEST loop, when a REQUEST is due. -/
def Requesting (c c' : State) : Prop :=
  c.loop = .request ∧ c' = c ∨ c.loop = .outer ∧ c.renew = true ∧ c' = { c with loop := .request, retries := 0 }

/-- The ways of a turn up to its `recv`. -/
inductive Entered (addr : Addr) (e : Sending) (c : State) : State ⊕ (Status × State) → Prop where
  | clearFails : c.loop = .outer → c.renew = false → e.setAny = false → Entered addr e c (.inr (.error, c))
  | routeFails : c.loop = .outer → c.renew = false → e.setAny = true → c.oldaddr ≠ 0 → e.setDefaultroute = false →
      Entered addr e c (.inr (.error, { c with ifaddr := 0 }))
  | discover {c' : State} : Discovering e c c' → Entered addr e c (sendDiscover e c')
  | request {c' : State} : Requesting c c' → Entered addr e c (sendRequest addr e c')

theorem sendPhase_entered (addr : Addr) (e : Sending) (c : State) : Entered addr e c (sendPhase addr e c) := by
  unfold sendPhase
  split
  · rename_i outer
    unfold enterLoops
    by_cases renew : c.renew = true
    · rw [if_pos renew]
      exact .request (Or.inr ⟨outer, renew, rfl⟩)
    rw [if_neg renew]
    have fresh : c.renew = false := by simpa using renew
    by_cases unset : e.setAny = false
    · rw [if_pos unset]
      exact .clearFails outer fresh unset
    rw [if_neg unset]
    have any : e.setAny = true := by simpa using unset
    dsimp only [State.setIpv4addr]
    rw [if_pos any]
    by_cases route : c.oldaddr ≠ 0 ∧ e.setDefaultroute = false
    · rw [if_pos route]
      exact .routeFails outer fresh any route.1 route.2
    rw [if_neg route]
    refine .discover (Or.inr ⟨outer, fresh, any, ?_, rfl⟩)
    by_cases zero : c.oldaddr = 0
    · exact Or.inl zero
    · refine Or.inr ?_
      by_contra unrouted
      exact route ⟨zero, by simpa using unrouted⟩
  · rename_i discover
    exact .discover (Or.inl ⟨discover, rfl⟩)
  · rename_i request
    exact .request (Or.inl ⟨request, rfl⟩)

theorem Discovering.loop {e : Sending} {c c' : State} (entered : Discovering e c c') : c'.loop = .discover := by
  obtain ⟨here, rfl⟩ | ⟨-, -, -, -, rfl⟩ := entered
  · exact here
  · rfl

theorem Requesting.loop {c c' : State} (entered : Requesting c c') : c'.loop = .request := by
  obtain ⟨here, rfl⟩ | ⟨-, -, rfl⟩ := entered
  · exact here
  · rfl

/-- Sending changed nothing but the packet and the log. -/
def SentFrom (c c' : State) : Prop := c' = { c with packet := c'.packet, sent := c'.sent }

/-- What `dhcpc_sendmsg` makes of the state. -/
def sentState (msgtype : Byte) (e : Sending) (c : State) : State := (dhcpcSendmsg msgtype e.getmacaddr e.sendto c).2

theorem sentState_from (msgtype : Byte) (e : Sending) (c : State) : SentFrom c (sentState msgtype e c) :=
  sendmsg_keeps _ _ _ _

theorem works_mac {e : Sending} (works : e.works = true) : ∃ mac, e.getmacaddr = some mac ∧ e.sendto = true := by
  rw [Sending.works, Bool.and_eq_true] at works
  obtain ⟨some, sendto⟩ := works
  obtain ⟨mac, known⟩ := Option.isSome_iff_exists.1 some
  exact ⟨mac, known, sendto⟩

/-- A message that is sent, with its END. -/
theorem sentState_works {msgtype : Byte} {e : Sending} {mac : Mac} {c : State} {b : Buffer} {dest : Addr}
    (known : e.getmacaddr = some mac) (sendto : e.sendto = true)
    (settings : specificSettings msgtype c (commonMessage msgtype mac c.packet) = some (b, dest)) :
    sentState msgtype e c =
      { c with
        packet := (dhcpcAddend b).1
        sent := c.sent ++ [⟨(dhcpcAddend b).1.load 0 (dhcpcAddend b).2, dest⟩] } := by
  simp only [sentState, dhcpcSendmsg, known, settings, sendto, if_true]

/-- What the loops and the interface are controlled by, in the state that `recv` finds. -/
theorem sentState_address (msgtype : Byte) (e : Sending) (c : State) :
    (sentState msgtype e c).ifaddr = c.ifaddr ∧ (sentState msgtype e c).oldaddr = c.oldaddr ∧
      (sentState msgtype e c).renew = c.renew ∧ (sentState msgtype e c).loop = c.loop := by
  rw [sentState_from]
  exact ⟨rfl, rfl, rfl, rfl⟩

theorem settings_discover (c : State) (b : Buffer) :
    specificSettings MsgType.discover c b = some (dhcpcAddreqoptions (setBroadcast b), 0xffffffff) := rfl

theorem settings_request {c : State} (fresh : c.renew = false) (b : Buffer) :
    specificSettings MsgType.request c b =
      some (dhcpcAddreqipaddr c.ipaddr (dhcpcAddserverid c.serverid (setCiaddr c.ipaddr (setBroadcast b))), 0xffffffff) := by
  rw [specificSettings, if_neg (by decide), if_pos rfl]
  dsimp only
  rw [if_pos fresh]

theorem settings_renewal {c : State} (renew : c.renew = true) (b : Buffer) :
    specificSettings MsgType.request c b = some (setCiaddr c.ipaddr (setBroadcast b), 0xffffffff) := by
  rw [specificSettings, if_neg (by decide), if_pos rfl]
  dsimp only
  rw [if_neg (by rw [renew]; decide)]

theorem sendDiscover_eq (e : Sending) (c : State) :
    sendDiscover e c =
      if e.works = false then .inr (.error, sentState MsgType.discover e c)
      else if 0 < c.count then .inl { sentState MsgType.discover e c with count := c.count - 1 }
      else .inr (.error, (sentState MsgType.discover e c).setIpv4addr e.restore c.oldaddr) := by
  have result := sendmsg_result (Or.inl rfl) e.getmacaddr e.sendto c
  have count : (sentState MsgType.discover e c).count = c.count := by rw [sentState_from]
  have oldaddr : (sentState MsgType.discover e c).oldaddr = c.oldaddr := by rw [sentState_from]
  rw [← count, ← oldaddr, Sending.works, ← result]
  rfl

/-- The state from which a REQUEST is sent: a renewal asks for `addr`. -/
def asking (addr : Addr) (c : State) : State := if c.renew then { c with ipaddr := addr } else c

theorem asking_fresh {addr : Addr} {c : State} (renew : c.renew = false) : asking addr c = c := by
  rw [asking, if_neg (by rw [renew]; decide)]

theorem asking_address (addr : Addr) (c : State) :
    (asking addr c).ifaddr = c.ifaddr ∧ (asking addr c).oldaddr = c.oldaddr ∧ (asking addr c).renew = c.renew ∧
      (asking addr c).loop = c.loop := by
  unfold asking
  split <;> exact ⟨rfl, rfl, rfl, rfl⟩

theorem asking_retries (addr : Addr) (c : State) : (asking addr c).retries = c.retries := by
  unfold asking
  split <;> rfl

theorem sendRequest_eq (addr : Addr) (e : Sending) (c : State) :
    sendRequest addr e c =
      if e.works = false then .inr (.error, sentState MsgType.request e (asking addr c))
      else .inl { sentState MsgType.request e (asking addr c) with retries := c.retries + 1 } := by
  have result := sendmsg_result (Or.inr (Or.inl rfl)) e.getmacaddr e.sendto (asking addr c)
  have retries : (sentState MsgType.request e (asking addr c)).retries = c.retries := by
    rw [sentState_from, asking_retries]
  rw [← retries, Sending.works, ← result]
  rfl

/-! ## Receiving -/

/-- The message type `dhcpc_parsemsg` finds in a packet. -/
def typeIn (buflen : Nat) (m : Mem) : Byte := (dhcpcParsemsg buflen m DhcpcState.zero).1

theorem parseLoop_type (m : Mem) (fin fuel optptr : Nat) (r r' : DhcpcState) (type : Byte) :
    (parseLoop m fin fuel optptr r type).1 = (parseLoop m fin fuel optptr r' type).1 := by
  induction fuel generalizing optptr r r' type with
  | zero => rfl
  | succ fuel ih =>
    rw [parseLoop, parseLoop]
    split
    · split
      · rfl
      · exact ih _ _ _ _
    · rfl

/-- The message type does not depend on what `presult` holds. -/
theorem parsemsg_type (buflen : Nat) (m : Mem) (r : DhcpcState) : (dhcpcParsemsg buflen m r).1 = typeIn buflen m := by
  rw [typeIn, dhcpcParsemsg, dhcpcParsemsg]
  split
  · exact parseLoop_type _ _ _ _ _ _ _
  · rfl

/-- The type of the message `bytes` once received over `packet`. -/
def typeOver (bytes : List Byte) (beyond packet : Mem) : Byte :=
  typeIn (bytes.take Msg.size).length (received bytes beyond packet)

theorem receive_type (bytes : List Byte) (beyond : Mem) (c : State) : (receive bytes beyond c).1 = typeOver bytes beyond c.packet :=
  parsemsg_type _ _ _

theorem receive_keeps (bytes : List Byte) (beyond : Mem) (c : State) :
    (receive bytes beyond c).2 =
      { c with packet := (receive bytes beyond c).2.packet, presult := (receive bytes beyond c).2.presult } := rfl

/-- Nothing has changed but the packet, `presult` and the log. -/
def HeardFrom (c c' : State) : Prop := c' = { c with packet := c'.packet, presult := c'.presult, sent := c'.sent }

/-- The ways of the DISCOVER loop from its `recv` on. -/
inductive Offered (e : Receiving) (c : State) : State ⊕ (Status × State) → Prop where
  | fails : e.recv = .error → Offered e c (.inr (.error, c))
  | again {c' : State} : e.recv ≠ .error → HeardFrom c c' → Offered e c (.inl c')
  | taken {c' : State} (bytes : List Byte) : e.recv = .datagram bytes → typeOver bytes e.beyond c.packet = MsgType.offer →
      HeardFrom { c with ipaddr := c'.presult.ipaddr, serverid := c'.presult.serverid, loop := .request, retries := 0 }
        { c' with ifaddr := c.ifaddr } →
      c'.presult = (receive bytes e.beyond c).2.presult → Offered e c (.inl c')

theorem recvOffer_offered (e : Receiving) (c : State) : Offered e c (recvOffer e c) := by
  unfold recvOffer
  split
  · rename_i bytes arrived
    dsimp only
    have type := receive_type bytes e.beyond c
    split
    · rename_i offer
      refine .taken bytes arrived (type.symm.trans offer) ?_ ?_
      · rw [HeardFrom]
        cases set : e.setOffered <;> rfl
      · cases set : e.setOffered <;> rfl
    · exact .again (by rw [arrived]; simp) rfl
  · rename_i silent
    exact .again (by rw [silent]; simp) rfl
  · rename_i error
    exact .fails error

/-- The ways of the REQUEST loop from its `recv` on. -/
inductive Acknowledged (e : Receiving) (c : State) : State ⊕ (Status × State) → Prop where
  | fails : e.recv = .error → Acknowledged e c (.inr (.error, c.setIpv4addr e.restore c.oldaddr))
  | accepted (bytes : List Byte) : e.recv = .datagram bytes → typeOver bytes e.beyond c.packet = MsgType.ack →
      Acknowledged e c (.inr (.ok, (receive bytes e.beyond c).2))
  | refused {c' : State} (bytes : List Byte) : e.recv = .datagram bytes → typeOver bytes e.beyond c.packet = MsgType.nak →
      HeardFrom { c with loop := .outer } c' → Acknowledged e c (.inl c')
  | ignored {c' : State} : e.recv ≠ .error →
      (∀ bytes, e.recv = .datagram bytes →
        typeOver bytes e.beyond c.packet ≠ MsgType.ack ∧ typeOver bytes e.beyond c.packet ≠ MsgType.nak) →
      HeardFrom c c' → Acknowledged e c (.inl (nextRequest c'))

theorem recvAck_acknowledged (e : Receiving) (c : State) : Acknowledged e c (recvAck e c) := by
  unfold recvAck
  split
  · rename_i bytes arrived
    dsimp only
    have type := receive_type bytes e.beyond c
    split
    · rename_i ack
      exact .accepted bytes arrived (type.symm.trans ack)
    rename_i notAck
    split
    · rename_i nak
      exact .refused bytes arrived (type.symm.trans nak) rfl
    rename_i notNak
    have other : ∀ bytes, e.recv = .datagram bytes →
        typeOver bytes e.beyond c.packet ≠ MsgType.ack ∧ typeOver bytes e.beyond c.packet ≠ MsgType.nak := by
      intro bytes' arrived'
      rw [arrived] at arrived'
      cases arrived'
      rw [← type]
      exact ⟨notAck, notNak⟩
    split
    · refine .ignored (by rw [arrived]; simp) other ?_
      rw [HeardFrom, sendmsg_keeps, receive_keeps]
    · exact .ignored (by rw [arrived]; simp) other rfl
  · rename_i silent
    refine .ignored (by rw [silent]; simp) (fun bytes arrived => ?_) rfl
    rw [silent] at arrived
    cases arrived
  · rename_i error
    exact .fails error

/-! ## Turns -/

/-- The ways of a whole turn. -/
inductive Turned (addr : Addr) (e : Turn) (c : State) : State ⊕ (Status × State) → Prop where
  | clearFails : c.loop = .outer → c.renew = false → e.sending.setAny = false → Turned addr e c (.inr (.error, c))
  | routeFails : c.loop = .outer → c.renew = false → e.sending.setAny = true → c.oldaddr ≠ 0 → e.sending.setDefaultroute = false →
      Turned addr e c (.inr (.error, { c with ifaddr := 0 }))
  | discoverFails {c₀ : State} : Discovering e.sending c c₀ → e.sending.works = false →
      Turned addr e c (.inr (.error, sentState MsgType.discover e.sending c₀))
  | limit {c₀ : State} : Discovering e.sending c c₀ → e.sending.works = true → c₀.count = 0 →
      Turned addr e c (.inr (.error, (sentState MsgType.discover e.sending c₀).setIpv4addr e.sending.restore c₀.oldaddr))
  | discover {c₀ : State} {r : State ⊕ (Status × State)} : Discovering e.sending c c₀ → e.sending.works = true → 0 < c₀.count →
      Offered e.receiving { sentState MsgType.discover e.sending c₀ with count := c₀.count - 1 } r → Turned addr e c r
  | requestFails {c₀ : State} : Requesting c c₀ → e.sending.works = false →
      Turned addr e c (.inr (.error, sentState MsgType.request e.sending (asking addr c₀)))
  | request {c₀ : State} {r : State ⊕ (Status × State)} : Requesting c c₀ → e.sending.works = true →
      Acknowledged e.receiving { sentState MsgType.request e.sending (asking addr c₀) with retries := c₀.retries + 1 } r →
      Turned addr e c r

theorem round_turned (addr : Addr) (e : Turn) (c : State) : Turned addr e c (round addr e c) := by
  have ways := sendPhase_entered addr e.sending c
  unfold round
  generalize sendPhase addr e.sending c = r at ways
  cases ways with
  | clearFails outer fresh unset => exact .clearFails outer fresh unset
  | routeFails outer fresh any nonzero unrouted => exact .routeFails outer fresh any nonzero unrouted
  | @discover c₀ entered =>
    rw [sendDiscover_eq]
    cases works : e.sending.works with
    | false => exact .discoverFails entered works
    | true =>
      rw [if_neg (by decide)]
      by_cases left : 0 < c₀.count
      · have offered : (sentState MsgType.discover e.sending c₀).loop ≠ .request := by
          rw [(sentState_address ..).2.2.2, entered.loop]
          decide
        rw [if_pos left]
        dsimp only
        rw [recvPhase, if_neg offered]
        exact .discover entered works left (recvOffer_offered ..)
      · rw [if_neg left]
        exact .limit entered works (Nat.eq_zero_of_not_pos left)
  | @request c₀ entered =>
    rw [sendRequest_eq]
    cases works : e.sending.works with
    | false => exact .requestFails entered works
    | true =>
      have loop : (sentState MsgType.request e.sending (asking addr c₀)).loop = .request := by
        rw [(sentState_address ..).2.2.2, (asking_address addr c₀).2.2.2, entered.loop]
      rw [if_neg (by decide)]
      dsimp only
      rw [recvPhase, if_pos loop]
      exact .request entered works (recvAck_acknowledged ..)

end ArtikSdk.Dhcp.Client
