import ArtikSdk.Dhcp.Server.Bounds
import ArtikSdk.Dhcp.Client.Source

/-!
# DHCP: the two option parsers on the same options

`dhcpd_parseoptions` steps over a PAD as the one byte that it is. `dhcpc_parseoptions` has no
case for it and takes it for an option, whose length is the byte behind it: two PADs are an
option without data, but a PAD in front of an option makes it skip as many bytes as the code of
that option says. So the parsers agree on all options where every run of PADs is of even length.
Where one is not, there are options between the PADs on which they differ: the client jumps over the
END, and takes what lies behind the area for options.
-/

namespace ArtikSdk.Dhcp
open Lib

/-- An option with the length that its code asks for. -/
structure WellFormed (o : Tlv.Opt) : Prop extends Server.Simple o where
  valued : Client.Valued o.1 → 4 ≤ o.2.length

def pads (k : Nat) : List Byte := List.replicate k Code.pad

/-- Options, each behind a run of PADs of the length given. -/
def front (ps : List (Nat × Tlv.Opt)) : List Byte := ps.flatMap fun p => pads p.1 ++ Tlv.encodeOne p.2

/-- An option area, with `k` PADs in front of its END. -/
def optionArea (ps : List (Nat × Tlv.Opt)) (k : Nat) : List Byte := front ps ++ (pads k ++ [Code.fin])

theorem front_cons (q : Nat × Tlv.Opt) (ps : List (Nat × Tlv.Opt)) :
    front (q :: ps) = pads q.1 ++ (Tlv.encodeOne q.2 ++ front ps) := by
  simp [front]

theorem front_cons_length (q : Nat × Tlv.Opt) (ps : List (Nat × Tlv.Opt)) :
    (front (q :: ps)).length = q.1 + ((Tlv.encodeOne q.2).length + (front ps).length) := by
  rw [front_cons, List.length_append, List.length_append, pads, List.length_replicate]

/-- The server has found what the client has; its addresses are in host order. -/
structure Agree (opt : Server.Options) (answer : Byte × Client.DhcpcState) : Prop where
  msgtype : opt.msgtype = answer.1
  serverip : opt.serverip = htonl answer.2.serverid
  leasetime : opt.leasetime = answer.2.leaseTime.toNat

/-- The server accepts the option area and the client finds the same in it, if it had nothing found before,
whatever follows the area in the memory of either. -/
def Agreed (area : List Byte) : Prop :=
  ∀ (g : Server.State) (m : Mem) (len : Nat) (r : Client.DhcpcState),
    Mem.Holds g.inpacket Msg.options (magicCookie ++ area) → Mem.Holds m (Msg.options + 4) area → area.length ≤ len →
    r.serverid = 0 → r.leaseTime = 0 →
      ∃ g', Server.dhcpdParseoptions g g.view = some (true, g') ∧ Agree g'.opt (Client.dhcpcParseoptions m (Msg.options + 4) len r)

/-- The parsers agree on every area with runs of PADs of these lengths. -/
def AgreedFor (ks : List Nat) (k : Nat) : Prop :=
  ∀ ps, ps.map Prod.fst = ks → (∀ p ∈ ps, WellFormed p.2) → (optionArea ps k).length ≤ optionsSize - 4 → Agreed (optionArea ps k)

/-! ## The server -/

section Server
open Server Scan

variable {v : View} {c : Cursor}

/-- A run of PADs is stepped over. -/
theorem server_pads : ∀ {k : Nat} {c : Cursor}, View.Reads v c.ptr (pads k) → k < c.remaining → ∀ fuel, ∃ optlen,
    parseLoop (fuel + k) c v = parseLoop fuel { c with ptr := c.ptr + k, remaining := c.remaining - k, optlen := optlen } v := by
  intro k
  induction k with
  | zero =>
    intro c _ _ fuel
    exact ⟨c.optlen, by simp⟩
  | succ k ih =>
    intro c reads room fuel
    have rest := reads
    rw [pads, List.replicate_succ, View.reads_cons] at rest
    obtain ⟨optlen, goes⟩ := ih (c := { c with ptr := c.ptr + 1, remaining := c.remaining - 1, optlen := 1 }) rest.2
      (by simp only; omega) fuel
    refine ⟨optlen, ?_⟩
    rw [← Nat.add_assoc, parseLoop, bind_apply_of_some (round_pad reads)]
    simp only [Bool.false_eq_true, if_false]
    rw [if_pos (by push_cast; omega)]
    refine goes.trans ?_
    simp only [Nat.add_assoc, Nat.add_comm 1 k, Int.sub_sub, Int.natCast_add, Int.natCast_one, Int.add_comm 1 (k : Int)]

/-- The options of an area are found, whatever PADs are between them. -/
theorem server_area {k : Nat} : ∀ {ps : List (Nat × Tlv.Opt)} {fuel : Nat} {c : Cursor}, (∀ p ∈ ps, Simple p.2) →
    c.currfield = .options → c.overloaded = 0 → View.Reads v c.ptr (optionArea ps k) → (optionArea ps k).length ≤ c.remaining →
    (optionArea ps k).length ≤ fuel → parseLoop fuel c v = some (true, (ps.map Prod.snd).foldl Options.apply c.opt) := by
  intro ps
  induction ps with
  | nil =>
    intro fuel c _ options single reads room enough
    have size : (optionArea [] k).length = k + 1 := by simp [optionArea, front, pads]
    rw [size] at room enough
    have runs : View.Reads v c.ptr (pads k ++ [Code.fin]) := reads
    rw [View.reads_append] at runs
    obtain ⟨optlen, goes⟩ := server_pads runs.1 (by omega) (fuel - k)
    have last : View.Reads v (c.ptr + k) [Code.fin] := by
      have := runs.2
      rwa [pads, List.length_replicate] at this
    obtain ⟨more, same⟩ : ∃ more, fuel - k = more + 1 := ⟨fuel - k - 1, by omega⟩
    rw [show fuel = fuel - k + k by omega, goes, same, parseLoop,
      bind_apply_of_some (round_fin (c := { c with ptr := c.ptr + k, remaining := c.remaining - k, optlen := optlen }) last options),
      if_neg (by simp [single])]
    rfl
  | cons p ps ih =>
    intro fuel c simple options single reads room enough
    have split : optionArea (p :: ps) k = pads p.1 ++ (Tlv.encodeOne p.2 ++ optionArea ps k) := by
      simp [optionArea, front]
    have size : (optionArea (p :: ps) k).length = p.1 + (p.2.2.length + 2 + (optionArea ps k).length) := by
      rw [split, List.length_append, List.length_append, Tlv.encodeOne_length, pads, List.length_replicate]
    have some' : 0 < (optionArea ps k).length := by simp [optionArea]
    rw [size] at room enough
    rw [split, View.reads_append, View.reads_append, pads, List.length_replicate, ← pads] at reads
    obtain ⟨run, option, rest⟩ := reads
    obtain ⟨optlen, goes⟩ := server_pads run (by omega) (fuel - p.1)
    obtain ⟨more, same⟩ : ∃ more, fuel - p.1 = more + 1 := ⟨fuel - p.1 - 1, by omega⟩
    have round := parseSwitch_option (c := { c with ptr := c.ptr + p.1, remaining := c.remaining - p.1, optlen := optlen })
      (simple p (List.mem_cons_self ..)) option (by simp only; omega)
    rw [show fuel = fuel - p.1 + p.1 by omega, goes, same, parseLoop, bind_apply_of_some round]
    simp only [Bool.false_eq_true, if_false]
    rw [if_pos (by push_cast; omega), List.map_cons, List.foldl_cons]
    rw [Tlv.encodeOne_length] at rest
    exact ih (c := ⟨_, _, _, _, _, _⟩) (fun q member => simple q (List.mem_cons_of_mem _ member)) options single rest
      (by push_cast; omega) (by omega)

end Server

/-! ## The client -/

section Client
open Client

variable {m : Mem} {fin p : Nat} {r : DhcpcState} {type : Byte}

/-- Enough fuel is enough. -/
theorem parseLoop_fuel (m : Mem) (fin : Nat) : ∀ {fuel fuel' p : Nat} {r : DhcpcState} {type : Byte}, fin ≤ p + 2 * fuel →
    fin ≤ p + 2 * fuel' → parseLoop m fin fuel p r type = parseLoop m fin fuel' p r type := by
  intro fuel
  induction fuel with
  | zero =>
    intro fuel' p r type enough _
    cases fuel' with
    | zero => rfl
    | succ fuel' =>
      rw [parseLoop, parseLoop, if_neg (by omega)]
  | succ fuel ih =>
    intro fuel' p r type enough enough'
    cases fuel' with
    | zero =>
      rw [parseLoop, parseLoop, if_neg (by omega)]
    | succ fuel' =>
      rw [parseLoop, parseLoop]
      split
      · split
        · rfl
        · exact ih (by omega) (by omega)
      · rfl

/-- The loop from `p` on, run to its end. -/
def walk (m : Mem) (fin p : Nat) (r : DhcpcState) (type : Byte) : Byte × DhcpcState := parseLoop m fin fin p r type

theorem walk_eq {fuel : Nat} (enough : fin ≤ p + 2 * fuel) : walk m fin p r type = parseLoop m fin fuel p r type :=
  parseLoop_fuel m fin (by omega) enough

theorem parseoptions_walk (m : Mem) (p len : Nat) (r : DhcpcState) : dhcpcParseoptions m p len r = walk m (p + len) p r 0 :=
  (walk_eq (by omega)).symm

theorem walk_fin (inside : p < fin) (isFin : m p = Code.fin) : walk m fin p r type = (type, r) := by
  rw [walk_eq (show fin ≤ p + 2 * (fin + 1) by omega), parseLoop, if_pos inside, if_pos isFin]

theorem walk_option (inside : p < fin) (notFin : m p ≠ Code.fin) :
    walk m fin p r type =
      walk m fin (p + ((m (p + 1)).toNat + 2)) (parseOption m p r) (if m p = Code.msgType then m (p + 2) else type) := by
  rw [walk_eq (show fin ≤ p + 2 * (fin + 1) by omega), parseLoop, if_pos inside, if_neg notFin]
  rfl

/-- A PAD is an option that says nothing. -/
theorem walk_pad (inside : p < fin) (isPad : m p = Code.pad) :
    walk m fin p r type = walk m fin (p + ((m (p + 1)).toNat + 2)) r type := by
  have nothing : parseOption m p r = r := by
    unfold parseOption
    rw [isPad]
    rfl
  rw [walk_option inside (by rw [isPad]; decide), nothing, if_neg (by rw [isPad]; decide)]

/-- Two PADs are an option without data. -/
theorem walk_pads {k : Nat} (even : Even k) (holds : Mem.Holds m p (pads k)) (room : p + k ≤ fin) :
    walk m fin p r type = walk m fin (p + k) r type := by
  obtain ⟨i, rfl⟩ := even
  induction i generalizing p with
  | zero => rfl
  | succ i ih =>
    have split : pads (i + 1 + (i + 1)) = Code.pad :: Code.pad :: pads (i + i) := by
      rw [show i + 1 + (i + 1) = i + i + 1 + 1 by omega, pads, List.replicate_succ, List.replicate_succ, ← pads]
    rw [split, Mem.holds_cons, Mem.holds_cons] at holds
    obtain ⟨first, second, rest⟩ := holds
    rw [walk_pad (by omega) first, second]
    refine (ih rest (by omega)).trans ?_
    congr 1
    change p + (0 + 2) + (i + i) = _
    omega

/-- The message type behind an option. -/
def typed (type : Byte) (o : Tlv.Opt) : Byte := if o.1 = Code.msgType then o.2.headD 0 else type

theorem walk_one {o : Tlv.Opt} (wellFormed : WellFormed o) (holds : Mem.Holds m p (Tlv.encodeOne o)) (inside : p < fin) :
    walk m fin p r type = walk m fin (p + (Tlv.encodeOne o).length) (r.apply o) (typed type o) := by
  have goes := (parseLoop_option holds wellFormed.toPlain wellFormed.valued inside fin r type).1
  rw [walk_eq (show fin ≤ p + 2 * (fin + 1) by omega), goes, walk]
  congr 1
  rw [typed]
  split
  · rename_i isType
    obtain ⟨b, one⟩ := List.length_eq_one_iff.1 (wellFormed.byte isType)
    rw [Tlv.encodeOne, Mem.holds_cons, Mem.holds_cons, one, Mem.holds_cons] at holds
    rw [one]
    exact holds.2.2.1
  · rfl

/-- Options with even runs of PADs are met one after the other. -/
theorem walk_front {ps : List (Nat × Tlv.Opt)} (even : ∀ q ∈ ps, Even q.1) (wellFormed : ∀ q ∈ ps, WellFormed q.2) :
    ∀ {p : Nat} {r : DhcpcState} {type : Byte}, Mem.Holds m p (front ps) → p + (front ps).length ≤ fin →
      walk m fin p r type =
        walk m fin (p + (front ps).length) ((ps.map Prod.snd).foldl DhcpcState.apply r) ((ps.map Prod.snd).foldl typed type) := by
  induction ps with
  | nil =>
    intro p r type _ _
    rfl
  | cons q ps ih =>
    intro p r type holds room
    have some' : 0 < (Tlv.encodeOne q.2).length := by simp
    rw [front_cons, Mem.holds_append, Mem.holds_append, pads, List.length_replicate, ← pads] at holds
    rw [front_cons_length] at room ⊢
    rw [walk_pads (even q (List.mem_cons_self ..)) holds.1 (by omega),
      walk_one (wellFormed q (List.mem_cons_self ..)) holds.2.1 (by omega),
      ih (fun x member => even x (List.mem_cons_of_mem _ member)) (fun x member => wellFormed x (List.mem_cons_of_mem _ member))
        holds.2.2 (by omega), List.map_cons, List.foldl_cons, List.foldl_cons]
    congr 1
    omega

/-! ## They agree -/

theorem Agree.apply {opt : Server.Options} {o : Tlv.Opt} (h : Agree opt (type, r)) :
    Agree (opt.apply o) (typed type o, r.apply o) := by
  obtain ⟨msgtype, serverip, leasetime⟩ := h
  unfold Server.Options.apply DhcpcState.apply typed
  by_cases request : o.1 = Code.reqIpaddr
  · simp only [request]
    exact ⟨msgtype, serverip, leasetime⟩
  by_cases lease : o.1 = Code.leaseTime
  · simp only [lease]
    exact ⟨msgtype, serverip, rfl⟩
  by_cases isType : o.1 = Code.msgType
  · simp only [isType]
    exact ⟨rfl, serverip, leasetime⟩
  by_cases server : o.1 = Code.serverId
  · simp only [server]
    exact ⟨msgtype, rfl, leasetime⟩
  rw [if_neg request, if_neg lease, if_neg isType, if_neg server, if_neg isType, if_neg server, if_neg lease]
  split
  · exact ⟨msgtype, serverip, leasetime⟩
  split
  · exact ⟨msgtype, serverip, leasetime⟩
  split
  · exact ⟨msgtype, serverip, leasetime⟩
  · exact ⟨msgtype, serverip, leasetime⟩

theorem Agree.foldl {os : List Tlv.Opt} {opt : Server.Options} (h : Agree opt (type, r)) :
    Agree (os.foldl Server.Options.apply opt) (os.foldl typed type, os.foldl DhcpcState.apply r) := by
  induction os generalizing opt type r with
  | nil => exact h
  | cons o os ih => exact ih h.apply

/-- What the server finds in an area. -/
theorem server_finds {ps : List (Nat × Tlv.Opt)} {k : Nat} {g : Server.State} (simple : ∀ q ∈ ps, Server.Simple q.2)
    (holds : Mem.Holds g.inpacket Msg.options (magicCookie ++ optionArea ps k)) (room : (optionArea ps k).length ≤ optionsSize - 4) :
    Server.dhcpdParseoptions g g.view =
      some (true, { g with opt := Server.optionsIn (ps.map Prod.snd), optend := none }) := by
  simp only [optionsSize] at room
  have reads := Server.view_reads holds (by rw [List.length_append, magicCookie_length]; simp only [Msg.options, Msg.size]; omega)
  rw [View.reads_append] at reads
  have loop : Server.parseLoop 512 Server.Cursor.start g.view = some (true, Server.optionsIn (ps.map Prod.snd)) :=
    server_area simple rfl rfl reads.2 (by simp only [Server.Cursor.start, optionsSize]; omega) (by omega)
  rw [Server.dhcpdParseoptions, Scan.bind_apply_of_some (Server.cookie_of_reads reads.1), if_pos rfl, Scan.bind_apply_of_some loop]
  rfl

/-- A server that has received these options. -/
def carrying (area : List Byte) : Server.State :=
  { Server.State.boot Server.oneAddress 0 with inpacket := Mem.store (fun _ => 0) Msg.options (magicCookie ++ area) }

theorem carrying_holds (area : List Byte) : Mem.Holds (carrying area).inpacket Msg.options (magicCookie ++ area) :=
  Mem.holds_store _ _ _

/-- With even runs of PADs the parsers agree. -/
theorem agreed_of_even {ps : List (Nat × Tlv.Opt)} {k : Nat} (even : ∀ q ∈ ps, Even q.1) (last : Even k)
    (wellFormed : ∀ q ∈ ps, WellFormed q.2) (room : (optionArea ps k).length ≤ optionsSize - 4) : Agreed (optionArea ps k) := by
  intro g m len r holds area enough serverid leaseTime
  refine ⟨_, server_finds (fun q member => (wellFormed q member).toSimple) holds room, ?_⟩
  have size : (optionArea ps k).length = (front ps).length + (k + 1) := by simp [optionArea, pads]
  rw [optionArea, Mem.holds_append, Mem.holds_append, pads, List.length_replicate, ← pads, Mem.holds_cons] at area
  obtain ⟨options, run, fin, -⟩ := area
  rw [parseoptions_walk, walk_front even wellFormed options (by omega), walk_pads last run (by omega), walk_fin (by omega) fin]
  exact Agree.foldl ⟨rfl, by rw [serverid]; rfl, by rw [leaseTime]; rfl⟩

/-! ## The client strays

Over bytes that are even the client moves by an even number, so an END at an odd distance is not
met. -/

theorem walk_end (outside : fin ≤ p) : walk m fin p r type = (type, r) := by
  rw [walk_eq (show fin ≤ p + 2 * 0 by omega), parseLoop]

/-- Where all bytes are 53 a message type is found. -/
theorem walk_behind (filled : ∀ i, p ≤ i → m i = Code.msgType) (found : p < fin ∨ type = Code.msgType) :
    (walk m fin p r type).1 = Code.msgType := by
  obtain ⟨n, size⟩ : ∃ n, fin - p = n := ⟨_, rfl⟩
  induction n using Nat.strong_induction_on generalizing p r type with
  | _ n ih =>
    by_cases inside : p < fin
    · have here := filled p le_rfl
      rw [walk_option inside (by rw [here]; decide), if_pos here]
      exact ih _ (by omega) (fun i le => filled i (by omega)) (.inr (filled _ (by omega))) rfl
    · rw [walk_end (by omega)]
      exact found.resolve_left inside

theorem walk_strays {e : Nat} (even : ∀ i, p ≤ i → i < e → Even (m i).toNat) (isFin : m e = Code.fin)
    (filled : ∀ i, e < i → m i = Code.msgType) (off : (p + e) % 2 = 1 ∨ e < p) (near : p ≤ e + 256) (room : e + 256 < fin) :
    (walk m fin p r type).1 = Code.msgType := by
  obtain ⟨n, size⟩ : ∃ n, e - p = n := ⟨_, rfl⟩
  induction n using Nat.strong_induction_on generalizing p r type with
  | _ n ih =>
    by_cases before : p < e
    · have notFin : m p ≠ Code.fin := by
        intro is
        have := even p le_rfl before
        rw [is] at this
        exact absurd this (by decide)
      rw [walk_option (by omega) notFin]
      by_cases last : p + 1 = e
      · -- The length of this option is the END.
        have long : (m (p + 1)).toNat = 255 := by
          rw [last, isFin]
          rfl
        exact ih _ (by omega) (fun i le lt => even i (by omega) lt) (.inr (by omega)) (by omega) rfl
      · obtain ⟨half, twice⟩ := even (p + 1) (by omega) (by omega)
        have short := (m (p + 1)).isLt
        exact ih _ (by omega) (fun i le lt => even i (by omega) lt) (by omega) (by omega) rfl
    · exact walk_behind (fun i le => filled i (by omega)) (.inl (by omega))

/-- An option without data, of a code that neither parser knows. -/
def blank (code : Byte) : Tlv.Opt := (code, [])

/-- A blank option behind a run of PADs. -/
def blankAfter (k : Nat) : Nat × Tlv.Opt := (k, blank 224)

theorem blank_wellFormed {code : Byte} (unknown : code = 224 ∨ code = 225) : WellFormed (blank code) := by
  have valued : ¬ Client.Valued code := by
    rintro (isServer | ⟨f, is⟩)
    · obtain rfl | rfl := unknown <;> exact absurd isServer (by decide)
    · obtain rfl | rfl := unknown <;> cases f <;> exact absurd is (by decide)
  refine { notPad := ?_, notFin := ?_, short := by simp [blank], notOverload := ?_, word := ?_, byte := ?_,
           valued := fun h => absurd h valued }
  all_goals obtain rfl | rfl := unknown <;> decide

theorem blank_apply {code : Byte} (unknown : code = 224 ∨ code = 225) (opt : Server.Options) : opt.apply (blank code) = opt := by
  obtain rfl | rfl := unknown
  · rfl
  · rfl

theorem front_length (ps : List (Nat × Tlv.Opt)) :
    (front ps).length = (ps.map Prod.fst).sum + 2 * ps.length + (ps.map fun q => q.2.2.length).sum := by
  induction ps with
  | nil => rfl
  | cons q ps ih =>
    rw [front_cons_length, Tlv.encodeOne_length, ih]
    simp only [List.map_cons, List.sum_cons, List.length_cons]
    ring

theorem front_blanks_length (ks : List Nat) : (front (ks.map blankAfter)).length = ks.sum + 2 * ks.length := by
  rw [front_length]
  simp [Function.comp_def, blankAfter, blank]

theorem pads_even (k : Nat) : ∀ b ∈ pads k, Even b.toNat := by
  intro b member
  rw [List.eq_of_mem_replicate member]
  decide

theorem front_blanks_even (ks : List Nat) : ∀ b ∈ front (ks.map blankAfter), Even b.toNat := by
  intro b member
  simp only [front, List.mem_flatMap, List.mem_map, exists_exists_and_eq_and, List.mem_append] at member
  obtain ⟨k, -, run | option⟩ := member
  · exact pads_even k b run
  · have : b = 224 ∨ b = 0 := by simpa [Tlv.encodeOne, blankAfter, blank] using option
    obtain rfl | rfl := this
    · decide
    · decide

/-- The area, with bytes 53 behind it. -/
def filledBehind (area : List Byte) : Mem := fun i => (area[i - (Msg.options + 4)]?).getD Code.msgType

theorem filledBehind_holds (area : List Byte) : Mem.Holds (filledBehind area) (Msg.options + 4) area := by
  intro k b found
  rw [filledBehind, Nat.add_sub_cancel_left, found, Option.getD_some]

theorem filledBehind_filled {area : List Byte} {i : Nat} (behind : Msg.options + 4 + area.length ≤ i) :
    filledBehind area i = Code.msgType := by
  rw [filledBehind, List.getElem?_eq_none (by omega), Option.getD_none]

/-- Bytes that are even, then END, then bytes 53: an area of odd length in front of its END is left. -/
theorem walk_leaves {bs : List Byte} (even : ∀ b ∈ bs, Even b.toNat) (holds : Mem.Holds m p (bs ++ [Code.fin]))
    (filled : ∀ i, p + bs.length < i → m i = Code.msgType) {q : Nat} (after : p ≤ q)
    (off : (q + (p + bs.length)) % 2 = 1) (near : q ≤ p + bs.length + 256) (room : p + bs.length + 256 < fin) :
    (walk m fin q r type).1 = Code.msgType := by
  rw [Mem.holds_append, Mem.holds_cons] at holds
  refine walk_strays (fun i le lt => ?_) holds.2.1 filled (.inl off) near room
  have inside : i - p < bs.length := by omega
  have here := holds.1 (i - p) bs[i - p] (List.getElem?_eq_getElem inside)
  rw [show p + (i - p) = i by omega] at here
  rw [here]
  exact even _ (List.getElem_mem inside)

/-- A client that finds a message type in an area without one. -/
theorem not_agreed {ps : List (Nat × Tlv.Opt)} {k : Nat} (wellFormed : ∀ q ∈ ps, WellFormed q.2)
    (room : (optionArea ps k).length ≤ optionsSize - 4) (silent : ∀ q ∈ ps, q.2 = blank 224 ∨ q.2 = blank 225)
    (strays : ∀ len r, (optionArea ps k).length + 256 < len →
      (walk (filledBehind (optionArea ps k)) (Msg.options + 4 + len) (Msg.options + 4) r 0).1 = Code.msgType) :
    ¬ Agreed (optionArea ps k) := by
  intro agreed
  have quiet : ∀ {qs : List (Nat × Tlv.Opt)} {opt : Server.Options}, (∀ q ∈ qs, q.2 = blank 224 ∨ q.2 = blank 225) →
      (qs.map Prod.snd).foldl Server.Options.apply opt = opt := by
    intro qs opt
    induction qs with
    | nil => exact fun _ => rfl
    | cons q qs ih =>
      intro all
      rw [List.map_cons, List.foldl_cons]
      have same : opt.apply q.2 = opt := by
        obtain is | is := all q (List.mem_cons_self ..)
        · rw [is, blank_apply (.inl rfl)]
        · rw [is, blank_apply (.inr rfl)]
      rw [same, ih fun x member => all x (List.mem_cons_of_mem _ member)]
  obtain ⟨g', parsed, agree⟩ := agreed (carrying _) (filledBehind (optionArea ps k)) ((optionArea ps k).length + 257)
    DhcpcState.zero (carrying_holds _) (filledBehind_holds _) (by omega) rfl rfl
  rw [server_finds (fun q member => (wellFormed q member).toSimple) (carrying_holds _) room] at parsed
  have found := agree.msgtype
  rw [parseoptions_walk, strays _ _ (by omega), ← (Prod.mk.inj (Option.some.inj parsed)).2] at found
  rw [Server.optionsIn, quiet silent] at found
  have wrong : (0 : Byte) = Code.msgType := found
  exact absurd wrong (by decide)

/-- An odd number of bytes before the END: the client goes past it. -/
theorem not_agreed_of_odd {ks : List Nat} {k : Nat} (odd : (ks.sum + k) % 2 = 1) (room : ks.sum + k + 2 * ks.length < optionsSize - 4) :
    ¬ Agreed (optionArea (ks.map blankAfter) k) := by
  have size : (front (ks.map blankAfter) ++ pads k).length = ks.sum + 2 * ks.length + k := by
    rw [List.length_append, front_blanks_length, pads, List.length_replicate]
  have area : optionArea (ks.map blankAfter) k = front (ks.map blankAfter) ++ pads k ++ [Code.fin] := by
    rw [optionArea, List.append_assoc]
  have length : (optionArea (ks.map blankAfter) k).length = ks.sum + 2 * ks.length + k + 1 := by
    rw [area, List.length_append, size]
    rfl
  have even : ∀ b ∈ front (ks.map blankAfter) ++ pads k, Even b.toNat := fun b member =>
    (List.mem_append.1 member).elim (front_blanks_even ks b) (pads_even k b)
  apply not_agreed
  · simp only [List.mem_map]
    rintro q ⟨j, -, rfl⟩
    exact blank_wellFormed (.inl rfl)
  · omega
  · simp only [List.mem_map]
    rintro q ⟨j, -, rfl⟩
    exact .inl rfl
  intro len r enough
  refine walk_leaves even (area ▸ filledBehind_holds _) (fun i behind => filledBehind_filled ?_) le_rfl ?_ ?_ ?_
  all_goals omega

/-- An odd run in front of an option of code 225: the client jumps an odd distance, and goes past the END. -/
theorem not_agreed_of_run {as bs : List Nat} {j k : Nat} (evens : ∀ i ∈ as, Even i) (odd : Odd j)
    (total : ((as ++ j :: bs).sum + k) % 2 = 0) (room : (as ++ j :: bs).sum + k + 2 * (as ++ j :: bs).length < optionsSize - 4) :
    ¬ Agreed (optionArea (as.map blankAfter ++ (j, blank 225) :: bs.map blankAfter) k) := by
  obtain ⟨i, rfl⟩ := odd
  simp only [List.sum_append, List.sum_cons, List.length_append, List.length_cons] at total room
  have known : ∀ q ∈ as.map blankAfter ++ (2 * i + 1, blank 225) :: bs.map blankAfter, q.2 = blank 224 ∨ q.2 = blank 225 := by
    simp only [List.mem_append, List.mem_cons, List.mem_map]
    rintro q (⟨_, -, rfl⟩ | rfl | ⟨_, -, rfl⟩)
    · exact .inl rfl
    · exact .inr rfl
    · exact .inl rfl
  -- The area, cut in front of the last PAD of the odd run.
  have area : optionArea (as.map blankAfter ++ (2 * i + 1, blank 225) :: bs.map blankAfter) k =
      front (as.map blankAfter) ++ (pads (2 * i) ++ (Code.pad :: 225 :: ((0 :: front (bs.map blankAfter) ++ pads k) ++ [Code.fin]))) := by
    simp [optionArea, front, pads, blank, Tlv.encodeOne, List.replicate_succ']
  have rest : (0 :: front (bs.map blankAfter) ++ pads k).length = bs.sum + 2 * bs.length + k + 1 := by
    rw [List.cons_append, List.length_cons, List.length_append, front_blanks_length, pads, List.length_replicate]
  have length : (optionArea (as.map blankAfter ++ (2 * i + 1, blank 225) :: bs.map blankAfter) k).length =
      as.sum + 2 * as.length + (2 * i + (bs.sum + 2 * bs.length + k + 4)) := by
    rw [area]
    simp only [List.length_append, List.length_cons, front_blanks_length, pads, List.length_replicate, List.length_nil]
    omega
  have even : ∀ b ∈ 0 :: front (bs.map blankAfter) ++ pads k, Even b.toNat := by
    simp only [List.mem_append, List.mem_cons]
    rintro b ((rfl | member) | member)
    · decide
    · exact front_blanks_even bs b member
    · exact pads_even k b member
  have evenSum : Even as.sum := even_iff_two_dvd.2 (List.dvd_sum fun x member => even_iff_two_dvd.1 (evens x member))
  apply not_agreed
  · intro q member
    obtain is | is := known q member
    · exact is ▸ blank_wellFormed (.inl rfl)
    · exact is ▸ blank_wellFormed (.inr rfl)
  · omega
  · exact known
  intro len r enough
  have holds := filledBehind_holds (optionArea (as.map blankAfter ++ (2 * i + 1, blank 225) :: bs.map blankAfter) k)
  generalize filled : filledBehind _ = m at holds ⊢
  rw [area, Mem.holds_append, Mem.holds_append, Mem.holds_cons, Mem.holds_cons] at holds
  obtain ⟨options, run, pad, code, tail⟩ := holds
  simp only [front_blanks_length, pads, List.length_replicate] at run pad code tail
  rw [walk_front (by simpa [blankAfter] using evens) (by simp [blankAfter, blank_wellFormed]) options
    (by rw [front_blanks_length]; omega), front_blanks_length, walk_pads (even_two_mul i) run (by omega), walk_pad (by omega) pad, code]
  have jump : (225 : Byte).toNat = 225 := rfl
  obtain ⟨half, twice⟩ := evenSum
  refine walk_leaves even tail (fun x behind => filled ▸ filledBehind_filled ?_) ?_ ?_ ?_ ?_
  all_goals omega

end Client

/-- Where every run of PADs is of even length, and only there, the two parsers agree on whatever options are
between them. -/
theorem agreedFor_iff (ks : List Nat) (k : Nat) :
    AgreedFor ks k ↔ (ks.sum + k + 2 * ks.length < optionsSize - 4 → ∀ j ∈ k :: ks, Even j) := by
  constructor
  · intro agreed room
    by_contra uneven
    by_cases total : (ks.sum + k) % 2 = 1
    · refine not_agreed_of_odd total room (agreed _ ?_ ?_ ?_)
      · simp [Function.comp_def, blankAfter]
      · simp [blankAfter, blank_wellFormed]
      · simp only [optionArea, List.length_append, front_blanks_length, pads, List.length_replicate, List.length_singleton]
        omega
    · -- The first run that is odd; the one before END is not the only one.
      have first : (ks.find? fun j => decide (Odd j)).isSome := by
        by_contra none'
        simp only [List.find?_isSome, not_exists, not_and, decide_eq_true_eq, Nat.not_odd_iff_even] at none'
        have evenSum : Even ks.sum := even_iff_two_dvd.2 (List.dvd_sum fun x member => even_iff_two_dvd.1 (none' x member))
        have evenLast : Even k := by
          rw [Nat.even_iff] at evenSum ⊢
          omega
        exact uneven (List.forall_mem_cons.2 ⟨evenLast, none'⟩)
      obtain ⟨j, found⟩ := Option.isSome_iff_exists.1 first
      obtain ⟨odd, as, bs, rfl, before⟩ := List.find?_eq_some_iff_append.1 found
      refine not_agreed_of_run (fun i member => ?_) (of_decide_eq_true odd) (by omega) room (agreed _ ?_ ?_ ?_)
      · simpa using before i member
      · simp [Function.comp_def, blankAfter]
      · simp only [List.mem_append, List.mem_cons, List.mem_map]
        rintro q (⟨_, -, rfl⟩ | rfl | ⟨_, -, rfl⟩)
        · exact blank_wellFormed (.inl rfl)
        · exact blank_wellFormed (.inr rfl)
        · exact blank_wellFormed (.inl rfl)
      · simp only [List.sum_append, List.sum_cons, List.length_append, List.length_cons, optionsSize] at room
        simp only [optionArea, List.length_append, front_length, List.map_append, List.map_cons, List.map_map, Function.comp_def, blankAfter,
          blank, List.length_nil, List.sum_append, List.sum_cons, List.length_cons, List.length_map, pads, List.length_replicate]
        simp
        omega
  · rintro even ps rfl wellFormed room
    have size : (optionArea ps k).length = (front ps).length + (k + 1) := by simp [optionArea, pads]
    have least := front_length ps
    have all := even (by rw [List.length_map]; omega)
    rw [List.forall_mem_cons, List.forall_mem_map] at all
    exact agreed_of_even all.2 all.1 wellFormed room

/-- A DISCOVER behind one PAD. -/
def discoverBehindPad : List (Nat × Tlv.Opt) := [(1, (Code.msgType, [MsgType.discover]))]

/-- The server finds the DISCOVER, the client nothing. -/
theorem discoverBehindPad_disagrees :
    (∀ q ∈ discoverBehindPad, WellFormed q.2) ∧ (optionArea discoverBehindPad 0).length ≤ optionsSize - 4 ∧
      ¬ Agreed (optionArea discoverBehindPad 0) := by
  have valued : ¬ Client.Valued Code.msgType := by
    rintro (isServer | ⟨f, is⟩)
    · exact absurd isServer (by decide)
    · cases f <;> exact absurd is (by decide)
  have wellFormed : ∀ q ∈ discoverBehindPad, WellFormed q.2 := by
    intro q member
    rw [List.mem_singleton.1 member]
    exact { notPad := by decide, notFin := by decide, short := by decide, notOverload := by decide, word := by decide, byte := by decide,
            valued := fun h => absurd h valued }
  have room : (optionArea discoverBehindPad 0).length ≤ optionsSize - 4 := by decide
  refine ⟨wellFormed, room, fun agreed => ?_⟩
  obtain ⟨g', parsed, agree⟩ := agreed (carrying _) (Mem.store (fun _ => 0) (Msg.options + 4) (optionArea discoverBehindPad 0)) 308
    Client.DhcpcState.zero (carrying_holds _) (Mem.holds_store _ _ _) (by decide) rfl rfl
  rw [server_finds (fun q member => (wellFormed q member).toSimple) (carrying_holds _) room] at parsed
  have found := agree.msgtype
  have nothing : (Client.dhcpcParseoptions (Mem.store (fun _ => 0) (Msg.options + 4) (optionArea discoverBehindPad 0))
      (Msg.options + 4) 308 Client.DhcpcState.zero).1 = 0 := by
    decide +kernel
  rw [nothing, ← (Prod.mk.inj (Option.some.inj parsed)).2] at found
  have wrong : MsgType.discover = 0 := found
  exact absurd wrong (by decide)

end ArtikSdk.Dhcp
