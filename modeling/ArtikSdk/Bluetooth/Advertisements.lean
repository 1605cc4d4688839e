import ArtikSdk.Bluetooth.Gatt.Ids

/-!
# Advertisements

`advertisement.c`. An id is a position in a list that grows only: to unregister an advertisement
frees its record, which stays in the list. Next to the list runs a book of what the application was
told: the advertisement that each id stands for, and its path on the bus.
-/

namespace ArtikSdk.Bluetooth.Advertising
open Lib
open Gatt (GError btCheckError printed printed_inj printed_isDigit)

/-- An object path of the bus. -/
abbrev Path := List Char

/-- `ADVERTISEMENT_PREFIX` -/
def advertisementPrefix : Path := "/artik/advertisement".toList

/-- `%d` -/
def decimal : Int → List Char
  | .ofNat n => printed n
  | .negSucc n => '-' :: printed (n + 1)

/-- The path of a new advertisement: its id is printed as a signed number. -/
def objPath (advId : BitVec 32) : Path := advertisementPrefix ++ decimal advId.toInt

/-- `bt_advertisement`, with the string at `adv_path`, which is freed with it; nothing reads `adv_id`. -/
structure BtAdvertisement where
  advPath : Path
  userData : Nat

/-- `hci.advertisements`, the records, and the objects on the bus with their advertisements. -/
structure Hci where
  advertisements : List Nat
  records : Cells BtAdvertisement
  exported : List (Path × Nat)

def Hci.init : Hci := ⟨[], .empty, []⟩

/-- A store to null, or a use of a record that was freed. -/
inductive Fault where
  | nullPointer
  | freed

/-- A call to BlueZ. -/
inductive Message where
  | registerAdvertisement (path : Path)
  | unregisterAdvertisement (path : Path)
deriving DecidableEq

structure Output where
  result : ArtikError
  id : Option (BitVec 32)
  message : Option Message

/-- `g_dbus_connection_register_object`: a path is exported once. -/
def registerObject (path : Path) (error : Option GError) (s : Hci) : Option GError :=
  if error.isSome then error else if (s.exported.lookup path).isSome then some .other else none

/-- `bt_register_advertisement`; `granted`: there is memory for the path. -/
def btRegisterAdvertisement (userAdv : Nat) (error : Option GError) (granted : Bool) (s : Hci) : Except Fault (Hci × Output) :=
  let advId := BitVec.ofNat 32 s.advertisements.length
  let path := objPath advId
  match registerObject path error s with
  | some e => .ok (s, ⟨btCheckError (some e), none, none⟩)
  | none =>
    if granted = false then .error .nullPointer
    else
      .ok
        (⟨s.advertisements ++ [s.records.next], s.records.alloc ⟨path, userAdv⟩, (path, userAdv) :: s.exported⟩,
          ⟨.ok, some advId, some (.registerAdvertisement path)⟩)

/-- `bt_unregister_advertisement` -/
def btUnregisterAdvertisement (id : BitVec 32) (s : Hci) : Except Fault (Hci × Output) :=
  match s.advertisements[id.toNat]? with
  | none => .ok (s, ⟨.btError, none, none⟩)
  | some advInfo =>
    match s.records.cells advInfo, s.records.free advInfo with
    | some adv, some records => .ok ({ s with records }, ⟨.ok, none, some (.unregisterAdvertisement adv.advPath)⟩)
    | _, _ => .error .freed

/-- A call, with what its surroundings do. -/
inductive Operation where
  | register (userAdv : Nat) (error : Option GError) (granted : Bool)
  | unregister (id : BitVec 32)

def perform : Operation → Hci → Except Fault (Hci × Output)
  | .register userAdv error granted => btRegisterAdvertisement userAdv error granted
  | .unregister id => btUnregisterAdvertisement id

/-! ## What the application was told -/

/-- The record that an id stands for: its advertisement and its path. -/
def Hci.designates (id : BitVec 32) (s : Hci) : Option (Nat × Path) :=
  (s.advertisements[id.toNat]?.bind s.records.cells).map fun adv => (adv.userData, adv.advPath)

/-- The module, and the advertisements that were registered and not unregistered. -/
structure Registry where
  hci : Hci
  book : BitVec 32 → Option (Nat × Path)

def Registry.init : Registry := ⟨.init, fun _ => none⟩

/-- What a call that succeeds changes in the book. -/
def note : Operation → Output → (BitVec 32 → Option (Nat × Path)) → BitVec 32 → Option (Nat × Path)
  | .register userAdv _ _, ⟨.ok, some id, some (.registerAdvertisement path)⟩, book => Function.update book id (some (userAdv, path))
  | .unregister id, ⟨.ok, _, _⟩, book => Function.update book id none
  | _, _, book => book

def Registry.step (op : Operation) (w : Registry) : Except Fault (Registry × Output) :=
  (perform op w.hci).map fun r => (⟨r.1, note op r.2 w.book⟩, r.2)

/-- What the call itself has to do: an id is given that stands for nothing, and taken where it stands
for something. -/
def Answers (c : Lib.Call Operation Registry Output) : Prop :=
  match c.input with
  | .register _ _ _ => ∀ id, c.output.id = some id → c.before.book id = none ∧ c.after.book id ≠ none
  | .unregister id =>
    match c.before.book id with
    | some (_, path) => c.output.result = .ok ∧ c.output.message = some (.unregisterAdvertisement path)
    | none => c.output.result ≠ .ok ∧ c.output.message = none ∧ c.after = c.before

/-- Each id in the book designates its advertisement, which is the one at its path, and no two of them
have one path. -/
structure Keeps (c : Lib.Call Operation Registry Output) : Prop where
  answers : Answers c
  designated : ∀ id adv path, c.after.book id = some (adv, path) →
    c.after.hci.designates id = some (adv, path) ∧ c.after.hci.exported.lookup path = some adv
  paths : ∀ id id' adv adv' path, c.after.book id = some (adv, path) → c.after.book id' = some (adv', path) → id = id'

/-- There is memory, or the bus refuses; the id is in the book, or behind the list. -/
def Fits : Operation → Registry → Prop
  | .register _ error granted, w =>
    granted = true ∨ registerObject (objPath (BitVec.ofNat 32 w.hci.advertisements.length)) error w.hci ≠ none
  | .unregister id, w => w.book id ≠ none ∨ w.hci.advertisements.length ≤ id.toNat

/-- Records and objects come in order. -/
structure Registry.Inv (w : Registry) : Prop where
  listed : w.hci.advertisements = List.range w.hci.records.next
  bounded : w.hci.records.next ≤ 2 ^ 32
  exported : ∀ id, (w.hci.exported.lookup (objPath id)).isSome ↔ id.toNat < w.hci.records.next
  book : ∀ id, w.book id = w.hci.designates id
  paths : ∀ id adv path, w.hci.designates id = some (adv, path) → path = objPath id ∧ w.hci.exported.lookup path = some adv

/-! ## Paths -/

theorem decimal_inj {m n : Int} (same : decimal m = decimal n) : m = n := by
  have unsigned : ∀ k l : Nat, '-' :: printed k ≠ printed l := by
    intro k l same
    have minus : '-' ∈ printed l := same ▸ List.mem_cons_self ..
    exact absurd (printed_isDigit minus) (by decide)
  cases m with
  | ofNat m =>
    cases n with
    | ofNat n => rw [printed_inj same]
    | negSucc n => exact absurd same.symm (unsigned _ _)
  | negSucc m =>
    cases n with
    | ofNat n => exact absurd same (unsigned _ _)
    | negSucc n => rw [Nat.succ.inj (printed_inj (List.tail_eq_of_cons_eq same))]

/-- Different ids have different paths. -/
theorem objPath_inj {id id' : BitVec 32} (same : objPath id = objPath id') : id = id' :=
  BitVec.eq_of_toInt_eq (decimal_inj (List.append_cancel_left same))

variable {w w' : Registry} {s : Hci} {id : BitVec 32} {userAdv : Nat} {error : Option GError} {granted : Bool} {op : Operation}
  {o : Output} {a : BtAdvertisement}

theorem Registry.Inv.init : Registry.init.Inv where
  listed := rfl
  bounded := Nat.zero_le _
  exported _ := iff_of_false Bool.false_ne_true (Nat.not_lt_zero _)
  book _ := rfl
  paths _ _ _ designated := by cases designated

/-- Position and address are the same. -/
theorem designates_range (listed : s.advertisements = List.range s.records.next) (id : BitVec 32) :
    s.designates id = (s.records.cells id.toNat).map fun adv => (adv.userData, adv.advPath) := by
  rw [Hci.designates, listed]
  by_cases inside : id.toNat < s.records.next
  · rw [List.getElem?_range inside, Option.bind_some]
  · rw [List.getElem?_eq_none (by rw [List.length_range]; omega), s.records.fresh _ (by omega)]
    rfl

theorem Registry.Inv.designates_eq (inv : w.Inv) (id : BitVec 32) :
    w.hci.designates id = (w.hci.records.cells id.toNat).map fun adv => (adv.userData, adv.advPath) :=
  designates_range inv.listed id

theorem Registry.Inv.length (inv : w.Inv) : w.hci.advertisements.length = w.hci.records.next := by
  rw [inv.listed, List.length_range]

/-- Where the book is right, only the answer is left to look at. -/
theorem keeps_of_inv (inv : w'.Inv) (answers : Answers ⟨w, op, w', o⟩) : Keeps ⟨w, op, w', o⟩ where
  answers := answers
  designated id adv path noted := by
    rw [inv.book] at noted
    exact ⟨noted, (inv.paths id adv path noted).2⟩
  paths id id' adv adv' path first second := by
    rw [inv.book] at first second
    exact objPath_inj ((inv.paths id adv path first).1.symm.trans (inv.paths id' adv' path second).1)

theorem registerObject_none {path : Path} (free : registerObject path error s = none) : s.exported.lookup path = none := by
  rw [registerObject] at free
  split at free
  · rename_i refused
    rw [free] at refused
    cases refused
  · split at free
    · cases free
    · rename_i absent
      exact Option.not_isSome_iff_eq_none.1 absent

/-- The path of the next id is free as long as there are ids. -/
theorem Registry.Inv.next_lt (inv : w.Inv) (free : registerObject (objPath (BitVec.ofNat 32 w.hci.records.next)) error w.hci = none) :
    w.hci.records.next < 2 ^ 32 := by
  refine inv.bounded.lt_of_ne fun full => ?_
  have taken := (inv.exported (BitVec.ofNat 32 w.hci.records.next)).2 (by rw [full]; decide)
  rw [registerObject_none free] at taken
  cases taken

/-! ## One call -/

theorem register_keeps (inv : w.Inv) (fits : Fits (.register userAdv error granted) w) :
    ∃ w' o, w.step (.register userAdv error granted) = .ok (w', o) ∧ w'.Inv ∧ Keeps ⟨w, .register userAdv error granted, w', o⟩ := by
  have length := inv.length
  cases free : registerObject (objPath (BitVec.ofNat 32 w.hci.records.next)) error w.hci with
  | some e =>
    have refused : w.step (.register userAdv error granted) = .ok (w, ⟨btCheckError (some e), none, none⟩) := by
      simp only [Registry.step, perform, btRegisterAdvertisement, length, free, Except.map]
      cases e <;> rfl
    exact ⟨_, _, refused, inv, keeps_of_inv inv nofun⟩
  | none =>
    have memory : granted = true := by
      refine fits.resolve_right fun refused => ?_
      rw [length] at refused
      exact refused free
    have room := inv.next_lt free
    have here : (BitVec.ofNat 32 w.hci.records.next).toNat = w.hci.records.next := by
      rw [BitVec.toNat_ofNat, Nat.mod_eq_of_lt room]
    have apart : ∀ id : BitVec 32, id.toNat = w.hci.records.next ↔ id = BitVec.ofNat 32 w.hci.records.next := by
      intro id
      rw [← BitVec.toNat_inj, here]
    let next := BitVec.ofNat 32 w.hci.records.next
    let hci : Hci := ⟨w.hci.advertisements ++ [w.hci.records.next], w.hci.records.alloc ⟨objPath next, userAdv⟩,
      (objPath next, userAdv) :: w.hci.exported⟩
    have answered : w.step (.register userAdv error granted) =
        .ok (⟨hci, Function.update w.book next (some (userAdv, objPath next))⟩, ⟨.ok, some next, some (.registerAdvertisement (objPath next))⟩) := by
      simp only [Registry.step, perform, btRegisterAdvertisement, length, free, memory, Except.map]
      rfl
    have listed : hci.advertisements = List.range (w.hci.records.next + 1) := by
      rw [List.range_succ, ← inv.listed]
    have designated : ∀ id, hci.designates id = if id = next then some (userAdv, objPath next) else w.hci.designates id := by
      intro id
      rw [designates_range listed, inv.designates_eq]
      by_cases new : id = next
      · rw [if_pos new, new, here, Cells.alloc_self]
        rfl
      · rw [if_neg new, Cells.alloc_other _ fun same => new ((apart id).1 same)]
    have inv' : Registry.Inv ⟨hci, Function.update w.book next (some (userAdv, objPath next))⟩ := by
      refine ⟨listed, room, fun id => ?_, fun id => ?_, fun id adv path found => ?_⟩
      · change (((objPath next, userAdv) :: w.hci.exported).lookup (objPath id)).isSome ↔ id.toNat < w.hci.records.next + 1
        rw [List.lookup_cons, Nat.lt_succ_iff_lt_or_eq, apart id, ← inv.exported]
        by_cases new : id = next
        · simp [new, next]
        · have other : objPath id ≠ objPath next := fun same => new (objPath_inj same)
          simp [beq_false_of_ne other, new, next]
      · dsimp only
        rw [Function.update_apply, designated, inv.book]
      · dsimp only at found ⊢
        rw [designated] at found
        split at found
        · rename_i new
          cases found
          exact ⟨by rw [new], List.lookup_cons_self⟩
        · rename_i old
          obtain ⟨rfl, at_path⟩ := inv.paths id adv path found
          have other : objPath id ≠ objPath next := fun same => old (objPath_inj same)
          exact ⟨rfl, by rw [List.lookup_cons, beq_false_of_ne other]; exact at_path⟩
    refine ⟨_, _, answered, inv', keeps_of_inv inv' fun id given => ?_⟩
    obtain rfl : next = id := Option.some.inj given
    refine ⟨?_, ?_⟩
    · rw [inv.book, inv.designates_eq, here, w.hci.records.fresh _ (Nat.le_refl _)]
      rfl
    · dsimp only
      rw [Function.update_self]
      exact Option.some_ne_none _

theorem unregister_keeps (inv : w.Inv) (fits : Fits (.unregister id) w) :
    ∃ w' o, w.step (.unregister id) = .ok (w', o) ∧ w'.Inv ∧ Keeps ⟨w, .unregister id, w', o⟩ := by
  have noted := inv.book id
  rw [inv.designates_eq] at noted
  cases live : w.hci.records.cells id.toNat with
  | none =>
    rw [live] at noted
    have behind : w.hci.advertisements[id.toNat]? = none :=
      List.getElem?_eq_none (fits.resolve_left (not_not.2 noted))
    have refused : w.step (.unregister id) = .ok (w, ⟨.btError, none, none⟩) := by
      simp only [Registry.step, perform, btUnregisterAdvertisement, behind, Except.map]
      rfl
    refine ⟨_, _, refused, inv, keeps_of_inv inv ?_⟩
    simp only [Answers, noted, Option.map_none]
    exact ⟨nofun, trivial, trivial⟩
  | some adv =>
    rw [live] at noted
    have inside : id.toNat < w.hci.records.next := by
      by_contra beyond
      rw [w.hci.records.fresh _ (by omega)] at live
      cases live
    have position : w.hci.advertisements[id.toNat]? = some id.toNat := by rw [inv.listed, List.getElem?_range inside]
    let records : Cells BtAdvertisement := ⟨Function.update w.hci.records.cells id.toNat none, w.hci.records.next, fun b beyond => by
      rw [Function.update_of_ne (by omega), w.hci.records.fresh b beyond]⟩
    have freed : w.hci.records.free id.toNat = some records := if_pos (by rw [live]; rfl)
    have answered : w.step (.unregister id) = .ok (⟨{ w.hci with records }, Function.update w.book id none⟩,
        ⟨.ok, none, some (.unregisterAdvertisement adv.advPath)⟩) := by
      simp only [Registry.step, perform, btUnregisterAdvertisement, position, live, freed, Except.map]
      rfl
    have designated : ∀ id', Hci.designates id' { w.hci with records } = if id' = id then none else w.hci.designates id' := by
      intro id'
      have listed : ({ w.hci with records } : Hci).advertisements = List.range records.next := inv.listed
      rw [inv.designates_eq, designates_range listed]
      dsimp only [records]
      by_cases same : id' = id
      · rw [if_pos same, same, Function.update_self]
        rfl
      · rw [if_neg same, Function.update_of_ne fun eq => same (BitVec.eq_of_toNat_eq eq)]
    have inv' : Registry.Inv ⟨{ w.hci with records }, Function.update w.book id none⟩ := by
      refine ⟨inv.listed, inv.bounded, inv.exported, fun id' => ?_, fun id' adv path found => ?_⟩
      · dsimp only
        rw [Function.update_apply, designated, inv.book]
      · dsimp only at found
        rw [designated] at found
        split at found
        · cases found
        · exact inv.paths id' adv path found
    refine ⟨_, _, answered, inv', keeps_of_inv inv' ?_⟩
    simp only [Answers, noted, Option.map_some, and_self]

/-- **One call** that fits keeps the book right. -/
theorem step_keeps (inv : w.Inv) (fits : Fits op w) : ∃ w' o, w.step op = .ok (w', o) ∧ w'.Inv ∧ Keeps ⟨w, op, w', o⟩ := by
  cases op with
  | register userAdv error granted => exact register_keeps inv fits
  | unregister id => exact unregister_keeps inv fits

/-- A call that does not fit comes to grief. -/
theorem fits_of_answered (inv : w.Inv) (answered : w.step op = .ok (w', o)) : Fits op w := by
  cases op with
  | register userAdv error granted =>
    by_contra unfit
    rw [Fits, not_or, not_not] at unfit
    obtain ⟨memory, free⟩ := unfit
    rw [Registry.step, perform, btRegisterAdvertisement] at answered
    simp only [free, Bool.not_eq_true _ ▸ memory, if_true, Except.map] at answered
    cases answered
  | unregister id =>
    by_contra unfit
    rw [Fits, not_or, not_not, inv.length, Nat.not_le] at unfit
    obtain ⟨noted, inside⟩ := unfit
    rw [inv.book, inv.designates_eq, Option.map_eq_none_iff] at noted
    have position : w.hci.advertisements[id.toNat]? = some id.toNat := by rw [inv.listed, List.getElem?_range inside]
    simp only [Registry.step, perform, btUnregisterAdvertisement, position, noted, Except.map] at answered
    cases answered

/-- **Ids are right** throughout the runs in which nothing is unregistered twice, and there is memory
for the paths; and in no other. -/
theorem advertisements_iff (ops : List Operation) :
    (∃ cs w, exec Registry.step ops .init = .ok (cs, w) ∧ ∀ c ∈ cs, Keeps c) ↔ Along Fits Registry.step ops .init := by
  refine exec_along_iff (I := Registry.Inv) (fun op w inv => ⟨?_, fun fits => ?_⟩) (fun op w w' o inv fits answered => ?_) .init
  · rintro ⟨w', o, answered, -⟩
    exact fits_of_answered inv answered
  · obtain ⟨w', o, answered, -, keeps⟩ := step_keeps inv fits
    exact ⟨w', o, answered, keeps⟩
  · obtain ⟨w₁, o₁, answered', inv', -⟩ := step_keeps inv fits
    rw [answered] at answered'
    cases answered'
    exact inv'

/-- The second of two calls that unregister one advertisement uses its record. -/
theorem unregistered_twice : ¬ ∀ ops, ∃ cs w, exec Registry.step ops .init = .ok (cs, w) ∧ ∀ c ∈ cs, Keeps c := by
  intro all
  obtain ⟨cs, w, ran, -⟩ := all [.register 1 none true, .unregister 0, .unregister 0]
  cases ran

end ArtikSdk.Bluetooth.Advertising
