import ArtikSdk.Dhcp.Server.Input

/-!
# DHCP server: the option parser and the bounds of its fields

`dhcpd_parseoptions` always returns, but its cursor can leave the field it is parsing. The
length of an option is read without a test that there is a byte for it; the data of a word
is copied where the option has two bytes of data; and the switch to an overloaded field
advances once more by the length of the option before it. `Sound` says of the bytes behind
the magic cookie that none of this comes up.
-/

namespace ArtikSdk.Dhcp.Server
open Lib Scan

/-- The first byte of a field, and how many it has. -/
def Field.first : Field → Nat
  | .options => Msg.options
  | .file => Msg.file
  | .sname => Msg.sname

def Field.size : Field → Nat
  | .options => optionsSize
  | .file => 128
  | .sname => 64

/-- The bytes of one field of the incoming message. -/
def Field.view (f : Field) (g : State) : View := g.view.within f.first (f.first + f.size)

/-- `ptr += optlen; remaining -= optlen` -/
def Cursor.advance (c : Cursor) : Cursor := { c with ptr := c.ptr + c.optlen, remaining := c.remaining - c.optlen }

/-- The cursors with which the body of the loop is entered. -/
inductive Walk (g : State) : Cursor → Prop where
  | start (cookie : cookieMatches g.view = some true) : Walk g Cursor.start
  | next {c c' : Cursor} (walk : Walk g c) (round : parseSwitch c g.view = some (c', false)) (more : 0 < c'.advance.remaining) :
      Walk g c'.advance

/-- The parse returns; every round reads bytes of its field only, and a field is entered at
its first byte with its full length. -/
structure StaysInside (g : State) : Prop where
  returns : ∃ r, dhcpdParseoptions g g.view = some r
  cookie : ∃ b, cookieMatches (Field.options.view g) = some b
  reads : ∀ c, Walk g c → ∃ r, parseSwitch c (c.currfield.view g) = some r
  moves : ∀ c c', Walk g c → parseSwitch c g.view = some (c', false) → c'.currfield ≠ c.currfield →
    c'.advance.ptr = c'.currfield.first ∧ c'.advance.remaining = c'.currfield.size

/-- The options whose four bytes of data are copied. -/
def IsWord (code : Byte) : Prop := code = Code.reqIpaddr ∨ code = Code.leaseTime ∨ code = Code.serverId

/-- `overloaded` behind an option with `bs` behind its length. -/
def overloadBy (overloaded code len : Byte) (bs : List Byte) : Byte :=
  if code = Code.overload ∧ len.toNat < bs.length then bs.headD 0 else overloaded

/-- What can be parsed inside the field: every option has its length byte, no word of two bytes has
just three bytes behind its length, and no END is met that selects another field. -/
inductive Sound : Byte → List Byte → Prop where
  | nil {overloaded : Byte} : Sound overloaded []
  | pad {overloaded : Byte} {bs : List Byte} (rest : Sound overloaded bs) : Sound overloaded (Code.pad :: bs)
  | fin {overloaded : Byte} {bs : List Byte} (single : overloaded &&& 1 = 0) : Sound overloaded (Code.fin :: bs)
  | option {overloaded code len : Byte} {bs : List Byte} (notPad : code ≠ Code.pad) (notFin : code ≠ Code.fin)
      (fits : IsWord code → len = 2 → bs.length ≠ 3) (rest : Sound (overloadBy overloaded code len bs) (bs.drop len.toNat)) :
      Sound overloaded (code :: len :: bs)

/-- The bytes behind the magic cookie. -/
def State.area (g : State) : List Byte := g.inpacket.load (Msg.options + 4) (optionsSize - 4)

variable {g : State} {c c' : Cursor} {v : View} {code len : Byte} {bs : List Byte}

/-- A cursor of the loop is one with which `parseLoop` goes on. -/
theorem Walk.loop (walk : Walk g c) : ∃ fuel, parseLoop 512 Cursor.start g.view = parseLoop fuel c g.view := by
  obtain ⟨r, total⟩ : ∃ r, parseLoop 512 Cursor.start g.view = some r := parseLoop_total (total_view g) start_inside (by decide)
  induction walk with
  | start => exact ⟨512, rfl⟩
  | next _ round more ih =>
    obtain ⟨fuel, here⟩ := ih
    cases fuel with
    | zero =>
      rw [total] at here
      cases here
    | succ fuel =>
      refine ⟨fuel, here.trans ?_⟩
      rw [parseLoop, bind_apply_of_some round]
      simp only [Bool.false_eq_true, if_false]
      rw [Cursor.advance] at more
      rw [if_pos more]
      rfl

/-! ## One round -/

theorem round_pad (reads : View.Reads v c.ptr (Code.pad :: bs)) : parseSwitch c v = some ({ c with optlen := 1 }, false) := by
  rw [View.reads_cons] at reads
  rw [parseSwitch, bind_apply_of_some reads.1, if_pos rfl]
  rfl

theorem round_fin (reads : View.Reads v c.ptr (Code.fin :: bs)) (options : c.currfield = .options) :
    parseSwitch c v = some (if c.overloaded &&& 1 ≠ 0 then ({ c with ptr := Msg.file, remaining := 128, currfield := .file }, false)
      else (c, true)) := by
  have notFile : Field.options ≠ Field.file := by decide
  rw [View.reads_cons] at reads
  rw [parseSwitch, bind_apply_of_some reads.1, if_neg (by decide), if_neg (by decide), if_pos rfl]
  simp only [options, true_and, notFile, false_and, if_false]
  split <;> rfl

theorem wordOption_fits (reads : View.Reads v c.ptr (code :: len :: bs)) (left : c.remaining = bs.length + 2)
    (fits : len = 2 → bs.length ≠ 3) (set : Options → BitVec 32 → Options) :
    ∃ opt, wordOption c set v = some ({ c with optlen := len.toNat + 2, opt := opt }, false) := by
  rw [View.reads_cons, View.reads_cons] at reads
  obtain ⟨-, length, data⟩ := reads
  have optlen : optionLength c.ptr v = some (len.toNat + 2) := by
    rw [optionLength, bind_apply_of_some length]
    rfl
  rw [wordOption, bind_apply_of_some optlen]
  split
  · rename_i room
    have enough : 4 ≤ bs.length := by
      have two : len = 2 ↔ len.toNat = 2 := BitVec.toNat_inj.symm
      by_contra few
      exact fits (two.2 (by omega)) (by omega)
    obtain ⟨b0, b1, b2, b3, bs, rfl⟩ : ∃ b0 b1 b2 b3 rest, bs = b0 :: b1 :: b2 :: b3 :: rest := by
      rcases bs with _ | ⟨b0, _ | ⟨b1, _ | ⟨b2, _ | ⟨b3, rest⟩⟩⟩⟩
      iterate 4 simp at enough
      exact ⟨b0, b1, b2, b3, rest, rfl⟩
    simp only [View.reads_cons] at data
    obtain ⟨h0, h1, h2, h3, -⟩ := data
    have value : word (c.ptr + 2) v = some (Mem.join b0 b1 b2 b3) := by
      rw [word, bind_apply_of_some h0, bind_apply_of_some h1, bind_apply_of_some h2, bind_apply_of_some h3]
      rfl
    rw [bind_apply_of_some value]
    exact ⟨_, rfl⟩
  · exact ⟨c.opt, rfl⟩

theorem byteOption_fits (reads : View.Reads v c.ptr (code :: len :: bs)) (left : c.remaining = bs.length + 2)
    (set : Cursor → Byte → Cursor) :
    byteOption c set v = some (if len.toNat < bs.length then set { c with optlen := len.toNat + 2 } (bs.headD 0)
      else { c with optlen := len.toNat + 2 }, false) := by
  rw [View.reads_cons, View.reads_cons] at reads
  obtain ⟨-, length, data⟩ := reads
  have optlen : optionLength c.ptr v = some (len.toNat + 2) := by
    rw [optionLength, bind_apply_of_some length]
    rfl
  rw [byteOption, bind_apply_of_some optlen]
  by_cases room : len.toNat < bs.length
  · rw [if_pos (by omega), if_pos room]
    cases bs with
    | nil => exact absurd room (Nat.not_lt_zero _)
    | cons b bs =>
      rw [View.reads_cons] at data
      rw [bind_apply_of_some data.1]
      rfl
  · rw [if_neg (by omega), if_neg room]
    rfl

/-- An option that fits is consumed. -/
theorem round_option (reads : View.Reads v c.ptr (code :: len :: bs)) (left : c.remaining = bs.length + 2)
    (notPad : code ≠ Code.pad) (notFin : code ≠ Code.fin) (fits : IsWord code → len = 2 → bs.length ≠ 3) :
    ∃ opt, parseSwitch c v =
      some ({ c with optlen := len.toNat + 2, overloaded := overloadBy c.overloaded code len bs, opt := opt }, false) := by
  have here := reads
  rw [View.reads_cons] at here
  have same (other : code ≠ Code.overload) : overloadBy c.overloaded code len bs = c.overloaded :=
    if_neg fun overload => other overload.1
  rw [parseSwitch, bind_apply_of_some here.1, if_neg notPad]
  split
  · rename_i overload
    refine ⟨c.opt, ?_⟩
    rw [byteOption_fits reads left, overloadBy]
    simp only [overload, true_and]
    split <;> rfl
  rename_i other
  rw [same other]
  split
  · exact wordOption_fits reads left (fits (Or.inl ‹_›)) _
  split
  · exact wordOption_fits reads left (fits (Or.inr (Or.inl ‹_›))) _
  split
  · rw [byteOption_fits reads left]
    split
    · exact ⟨_, rfl⟩
    · exact ⟨c.opt, rfl⟩
  split
  · exact wordOption_fits reads left (fits (Or.inr (Or.inr ‹_›))) _
  · rw [View.reads_cons] at here
    have optlen : optionLength c.ptr v = some (len.toNat + 2) := by
      rw [optionLength, bind_apply_of_some here.2.1]
      rfl
    rw [bind_apply_of_some optlen]
    exact ⟨c.opt, rfl⟩

/-- Without its length byte an option is not read. -/
theorem round_cut (here : v c.ptr = some code) (notPad : code ≠ Code.pad) (notFin : code ≠ Code.fin) (hidden : v (c.ptr + 1) = none) :
    parseSwitch c v = none := by
  have optlen : optionLength c.ptr v = none := bind_apply_of_none hidden
  rw [parseSwitch, bind_apply_of_some here, if_neg notPad]
  split
  · exact bind_apply_of_none optlen
  split
  · exact bind_apply_of_none optlen
  split
  · exact bind_apply_of_none optlen
  split
  · exact bind_apply_of_none optlen
  split
  · exact bind_apply_of_none optlen
  · exact bind_apply_of_none optlen

/-- A word of two bytes is read to its fourth byte. -/
theorem round_short (reads : View.Reads v c.ptr (code :: 2 :: bs)) (left : c.remaining = 5) (isWord : IsWord code)
    (hidden : v (c.ptr + 5) = none) : parseSwitch c v = none := by
  rw [View.reads_cons, View.reads_cons] at reads
  have optlen : optionLength c.ptr v = some 4 := by
    rw [optionLength, bind_apply_of_some reads.2.1]
    rfl
  have short (set : Options → BitVec 32 → Options) : wordOption c set v = none := by
    rw [wordOption, bind_apply_of_some optlen, if_pos (by omega)]
    exact bind_apply_of_none (word_of_hidden hidden)
  rw [parseSwitch, bind_apply_of_some reads.1]
  rcases isWord with rfl | rfl | rfl
  · rw [if_neg (by decide), if_neg (by decide), if_neg (by decide), if_pos rfl]
    exact short _
  · rw [if_neg (by decide), if_neg (by decide), if_neg (by decide), if_neg (by decide), if_pos rfl]
    exact short _
  · rw [if_neg (by decide), if_neg (by decide), if_neg (by decide), if_neg (by decide), if_neg (by decide), if_neg (by decide),
      if_pos rfl]
    exact short _

/-! ## The walk through the options -/

/-- The cursor stands in the options, with the bytes `bs` of them left. -/
structure At (g : State) (c : Cursor) (bs : List Byte) : Prop where
  options : c.currfield = .options
  reads : View.Reads (Field.options.view g) c.ptr bs
  left : c.remaining = bs.length
  ends : c.ptr + bs.length = Msg.size

theorem options_view {k : Nat} (lo : Msg.options ≤ k) (hi : k < Msg.size) : Field.options.view g k = some (g.inpacket k) := by
  show (if Msg.options ≤ k ∧ k < Msg.options + optionsSize then g.view k else none) = _
  rw [if_pos ⟨lo, hi⟩, State.view, if_pos hi]

theorem start_at (g : State) : At g Cursor.start g.area := by
  refine ⟨rfl, ?_, by simp [Cursor.start, State.area], by simp [Cursor.start, State.area]⟩
  intro k b found
  have bound := (List.getElem?_eq_some_iff.1 found).1
  rw [State.area, Mem.load_length] at bound
  rw [State.area, Mem.load_getElem? _ bound] at found
  simp only [optionsSize] at bound
  rw [← found]
  exact options_view (by simp only [Cursor.start, Msg.options]; omega) (by simp only [Cursor.start, Msg.options, Msg.size]; omega)

theorem At.whole (h : At g c bs) : View.Reads g.view c.ptr bs := h.reads.sub (View.within_sub _ _ _)

/-- An option has been consumed. -/
theorem At.advance (h : At g c bs) (options : c'.currfield = c.currfield) (ptr : c'.ptr = c.ptr) (remaining : c'.remaining = c.remaining)
    (more : 0 < c'.advance.remaining) : At g c'.advance (bs.drop c'.optlen) := by
  obtain ⟨field, reads, left, ends⟩ := h
  simp only [Cursor.advance] at more
  refine ⟨options.trans field, ?_, ?_, ?_⟩
  · rw [Cursor.advance, ptr]
    exact reads.drop c'.optlen
  · rw [Cursor.advance, List.length_drop]
    simp only
    omega
  · rw [Cursor.advance, List.length_drop]
    simp only
    omega

/-- Nothing is left where the loop ends. -/
theorem At.spent (h : At g c bs) (remaining : c'.remaining = c.remaining) (ends : ¬ 0 < c'.advance.remaining) :
    bs.drop c'.optlen = [] := by
  have left := h.left
  simp only [Cursor.advance] at ends
  rw [List.drop_eq_nil_iff]
  omega

theorem At.hidden (h : At g c bs) : Field.options.view g (c.ptr + bs.length) = none := by
  rw [h.ends]
  exact View.within_outside _ (Or.inr (by simp [Field.first, Field.size]))

/-- What a round reads inside the field has its length byte, and is no word cut short. -/
theorem At.fits {r : Cursor × Bool} (h : At g c (code :: bs)) (notPad : code ≠ Code.pad) (notFin : code ≠ Code.fin)
    (read : parseSwitch c (Field.options.view g) = some r) :
    ∃ len bs', bs = len :: bs' ∧ (IsWord code → len = 2 → bs'.length ≠ 3) := by
  have reads := h.reads
  have hidden := h.hidden
  have left := h.left
  cases bs with
  | nil =>
    rw [View.reads_cons] at reads
    rw [round_cut reads.1 notPad notFin hidden] at read
    cases read
  | cons len bs =>
    refine ⟨len, bs, rfl, fun isWord two three => ?_⟩
    rw [List.length_cons, List.length_cons, three] at left hidden
    rw [two] at reads
    rw [round_short reads left isWord hidden] at read
    cases read

/-- A sound area is parsed inside its field. -/
theorem Sound.round (sound : Sound c.overloaded bs) (some' : bs ≠ []) (options : c.currfield = .options)
    (reads : View.Reads v c.ptr bs) (left : c.remaining = bs.length) :
    ∃ c' found, parseSwitch c v = some (c', found) ∧ (found = true ∨
      c'.currfield = c.currfield ∧ c'.ptr = c.ptr ∧ c'.remaining = c.remaining ∧ Sound c'.overloaded (bs.drop c'.optlen)) := by
  generalize same : c.overloaded = overloaded at sound
  cases sound with
  | nil => exact absurd rfl some'
  | pad rest => exact ⟨_, _, round_pad reads, Or.inr ⟨rfl, rfl, rfl, same ▸ rest⟩⟩
  | fin single =>
    rw [round_fin reads options, same, if_neg (not_not.2 single)]
    exact ⟨_, _, rfl, Or.inl rfl⟩
  | option notPad notFin fits rest =>
    obtain ⟨opt, round⟩ := round_option reads left notPad notFin fits
    exact ⟨_, _, round, Or.inr ⟨rfl, rfl, rfl, same ▸ rest⟩⟩

theorem Sound.option_inv {overloaded : Byte} (sound : Sound overloaded (code :: len :: bs)) (notPad : code ≠ Code.pad)
    (notFin : code ≠ Code.fin) : Sound (overloadBy overloaded code len bs) (bs.drop len.toNat) := by
  cases sound with
  | pad => exact absurd rfl notPad
  | fin => exact absurd rfl notFin
  | option _ _ _ rest => exact rest

theorem Sound.fin_inv {overloaded : Byte} (sound : Sound overloaded (code :: bs)) (isFin : code = Code.fin) : overloaded &&& 1 = 0 := by
  cases sound with
  | pad => cases isFin
  | fin single => exact single
  | option _ notFin => exact absurd isFin notFin

/-- The walk through a sound area stays in it. -/
theorem Walk.sound (walk : Walk g c) (sound : Sound 0 g.area) : ∃ bs, At g c bs ∧ bs ≠ [] ∧ Sound c.overloaded bs := by
  induction walk with
  | start =>
    refine ⟨g.area, start_at g, fun none' => ?_, sound⟩
    have length := congrArg List.length none'
    simp [State.area] at length
  | next _ round more ih =>
    obtain ⟨bs, here, some', rest⟩ := ih
    obtain ⟨c', found, same, returned | ⟨options, ptr, remaining, rest⟩⟩ := rest.round some' here.options here.whole here.left
    · rw [round] at same
      cases same
      cases returned
    · rw [round] at same
      cases same
      have next := here.advance options ptr remaining more
      refine ⟨_, next, fun none' => ?_, rest⟩
      rw [next.left, none'] at more
      cases more

/-- A walk that stays inside shows that what is left is sound. -/
theorem StaysInside.sound (inside : StaysInside g) :
    ∀ {n : Nat} {c : Cursor} {bs : List Byte}, bs.length ≤ n → Walk g c → At g c bs → (c.overloaded ≠ 0 → 1 ≤ c.optlen) →
      Sound c.overloaded bs := by
  intro n
  induction n with
  | zero =>
    intro c bs short _ _ _
    rw [List.length_eq_zero_iff.1 (Nat.le_zero.1 short)]
    exact .nil
  | succ n ih =>
    intro c bs short walk here taken
    -- the rest of the field behind an option of `c'.optlen` bytes
    have rest {c' : Cursor} (round : parseSwitch c g.view = some (c', false)) (options : c'.currfield = c.currfield)
        (ptr : c'.ptr = c.ptr) (remaining : c'.remaining = c.remaining) (positive : 1 ≤ c'.optlen) :
        Sound c'.overloaded (bs.drop c'.optlen) := by
      by_cases more : 0 < c'.advance.remaining
      · refine ih (c := c'.advance) ?_ (walk.next round more) (here.advance options ptr remaining more) fun _ => positive
        rw [List.length_drop]
        omega
      · rw [here.spent remaining more]
        exact .nil
    cases bs with
    | nil => exact .nil
    | cons code bs =>
      by_cases notPad : code = Code.pad
      · subst notPad
        exact .pad (rest (round_pad here.whole) rfl rfl rfl le_rfl)
      by_cases notFin : code = Code.fin
      · subst notFin
        refine .fin ?_
        by_contra overload
        have round := round_fin here.whole here.options
        rw [if_pos overload] at round
        obtain ⟨first, -⟩ := inside.moves _ _ walk round fun same => Field.noConfusion (same.trans here.options)
        have positive := taken fun zero => overload (by rw [zero]; decide)
        simp only [Cursor.advance, Field.first] at first
        omega
      obtain ⟨r, read⟩ := inside.reads c walk
      rw [here.options] at read
      obtain ⟨len, bs, rfl, fits⟩ := here.fits notPad notFin read
      obtain ⟨opt, round⟩ := round_option here.whole here.left notPad notFin fits
      refine .option notPad notFin fits ?_
      exact rest round rfl rfl rfl (by simp)

/-! ## The bounds -/

theorem cookie_inside (g : State) : ∃ b, cookieMatches (Field.options.view g) = some b := by
  rw [cookieMatches, bind_apply_of_some (options_view (by simp) (by simp)), bind_apply_of_some (options_view (by simp) (by simp)),
    bind_apply_of_some (options_view (by simp) (by simp)), bind_apply_of_some (options_view (by simp) (by simp))]
  exact ⟨_, rfl⟩

/-- **The bounds of the parser.** It stays in its fields exactly where the message has no magic
cookie or the options behind it are sound. -/
theorem parse_inside_iff (g : State) : StaysInside g ↔ (cookieMatches g.view = some true → Sound 0 g.area) := by
  constructor
  · intro inside cookie
    exact inside.sound le_rfl (.start cookie) (start_at g) fun set => absurd rfl set
  · intro sound
    have cookie {c : Cursor} (walk : Walk g c) : cookieMatches g.view = some true := by
      induction walk with
      | start cookie => exact cookie
      | next _ _ _ ih => exact ih
    refine ⟨parseoptions_total (total_view g) g, cookie_inside g, fun c walk => ?_, fun c c' walk round moved => ?_⟩
    · obtain ⟨bs, here, some', rest⟩ := walk.sound (sound (cookie walk))
      obtain ⟨c', found, read, -⟩ := rest.round some' here.options here.reads here.left
      rw [here.options]
      exact ⟨_, read⟩
    · obtain ⟨bs, here, some', rest⟩ := walk.sound (sound (cookie walk))
      obtain ⟨c'', found, same, returned | ⟨options, -⟩⟩ := rest.round some' here.options here.whole here.left
      · rw [round] at same
        cases same
        cases returned
      · rw [round] at same
        cases same
        exact absurd options moved

/-! ## An overloaded message -/

/-- The message of a client whose options are `os`, as `ds_inpacket` holds it. -/
def holding (os : List Tlv.Opt) : State :=
  { State.boot oneAddress 0 with inpacket := Mem.ofList (message dhcpRequest [0xad, 0xde, 0x12, 0x23] 0 0 firstMac os) }

/-- With the overload option the END moves to `file`, which is entered three bytes behind its first one. -/
theorem parse_leaves : ¬ StaysInside (holding [(Code.overload, [1])]) := by
  intro inside
  have cookie : cookieMatches (holding [(Code.overload, [1])]).view = some true := by decide +kernel
  have area : (holding [(Code.overload, [1])]).area = [Code.overload, 1, 1, Code.fin] ++ List.replicate 304 0 := by decide +kernel
  have sound := inside.sound le_rfl (.start cookie) (start_at _) fun set => absurd rfl set
  rw [area] at sound
  exact absurd ((sound.option_inv (by decide) (by decide)).fin_inv rfl) (by decide +kernel)

end ArtikSdk.Dhcp.Server
