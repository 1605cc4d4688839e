import ArtikSdk.Base.Loop.State

/-!
# Registrations

`Registered` is what the vectors, the records and the handles have to do with each other when
nothing dangles. Removing an id from such a state takes out every registration of the kind
with that id, and adding puts one at the end of its vector; both keep `Registered`.
-/

namespace ArtikSdk.Loop
open Lib

/-- The records of the kind, in the order of its vector. -/
def State.live (s : State) (k : Kind) : List Record := (s.vector k).map fun p => (s.block p).contents

structure Registered (s : State) : Prop where
  entry : ∀ k, ∀ p ∈ s.vector k, (s.block p).allocated = true ∧ s.handle (s.block p).contents.handle = some (k, p)
  handle : ∀ k, ∀ p ∈ s.vector k, (s.block p).contents.handle ≠ 0
  owner : ∀ h k p, s.handle h = some (k, p) → p ∈ s.vector k ∧ (s.block p).contents.handle = h
  owned : ∀ p, (s.block p).allocated = true → ∃ k, p ∈ s.vector k
  once : ∀ k, (s.vector k).Nodup
  past : ∀ k, ∀ p ∈ s.vector k, (s.block p).contents.number < s.added k
  numbered : ∀ k, ∀ p ∈ s.vector k, ∀ q ∈ s.vector k, (s.block p).contents.number = (s.block q).contents.number → p = q

theorem Registered.init : Registered State.init where
  entry k p member := by cases member
  handle k p member := by cases member
  owner h k p held := by cases held
  owned p held := by cases held
  once k := List.nodup_nil
  past k p member := by cases member
  numbered k p member := by cases member

variable {s s' : State} {k k' : Kind} {p q h : Nat} {id : Int} {residue : Residue}

/-- A record is in one vector only. -/
theorem Registered.kind (here : Registered s) (left : p ∈ s.vector k) (right : p ∈ s.vector k') : k = k' := by
  have one := (here.entry k p left).2.symm.trans (here.entry k' p right).2
  cases one
  rfl

/-- Two records have two handles. -/
theorem Registered.handles (here : Registered s) (left : p ∈ s.vector k) (right : q ∈ s.vector k')
    (same : (s.block p).contents.handle = (s.block q).contents.handle) : p = q := by
  have one := (here.entry k p left).2
  rw [same, (here.entry k' q right).2] at one
  cases one
  rfl

/-! ## Removing -/

/-- What the loop over the entries `xs` leaves when `ys` stand behind them. -/
def swept (k : Kind) (id : Int) (residue : Residue) (xs ys : List Nat) (s : State) : State :=
  { s with
    block := fun p => if p ∈ xs ∧ (s.block p).contents.id = id ∧ (s.block p).contents.handle ≠ 0 then ⟨false, residue p⟩ else s.block p
    handle := fun h => if h ≠ 0 ∧ ∃ p ∈ xs, (s.block p).contents.id = id ∧ (s.block p).contents.handle = h then none else s.handle h
    vector := Function.update s.vector k (xs.filter (fun p => (s.block p).contents.id ≠ id) ++ ys) }

/-- The state after a removal. -/
def removed (k : Kind) (id : Int) (residue : Residue) (s : State) : State := swept k id residue (s.vector k) [] s

section Swept

variable (k id residue) (xs ys : List Nat) (s)

theorem swept_block (q : Nat) :
    (swept k id residue xs ys s).block q =
      if q ∈ xs ∧ (s.block q).contents.id = id ∧ (s.block q).contents.handle ≠ 0 then ⟨false, residue q⟩ else s.block q := rfl

theorem swept_handle (h : Nat) :
    (swept k id residue xs ys s).handle h =
      if h ≠ 0 ∧ ∃ p ∈ xs, (s.block p).contents.id = id ∧ (s.block p).contents.handle = h then none else s.handle h := rfl

theorem swept_vector :
    (swept k id residue xs ys s).vector =
      Function.update s.vector k (xs.filter (fun p => (s.block p).contents.id ≠ id) ++ ys) := rfl

end Swept

/-- The entries that the loop frees are live. -/
def Sweepable (s : State) (k : Kind) (id : Int) (xs : List Nat) : Prop :=
  ∀ p ∈ xs, (s.block p).contents.id = id → (s.block p).contents.handle ≠ 0 →
    (s.block p).allocated = true ∧ s.handle (s.block p).contents.handle = some (k, p)

theorem State.ext_iff' {s t : State} (block : s.block = t.block) (handle : s.handle = t.handle) (vector : s.vector = t.vector)
    (nextId : s.nextId = t.nextId) (added : s.added = t.added) : s = t := by
  cases s
  cases t
  cases block
  cases handle
  cases vector
  cases nextId
  cases added
  rfl

/-- One turn of the loop, at the last of the entries that are left. -/
theorem cleanupLoop_succ {xs ys : List Nat} (entries : s.vector k = xs ++ p :: ys) :
    cleanupLoop k id residue (xs.length + 1) s =
      if (s.block p).contents.id = id then
        (if (s.block p).contents.handle ≠ 0 then discard p residue s else .ok s).bind fun s =>
          cleanupLoop k id residue xs.length { s with vector := Function.update s.vector k ((s.vector k).eraseIdx xs.length) }
      else cleanupLoop k id residue xs.length s := by
  have last : (s.vector k)[xs.length]? = some p := by
    rw [entries, List.getElem?_append_right (Nat.le_refl _), Nat.sub_self, List.getElem?_cons_zero]
  rw [cleanupLoop, last]

/-- The state after a record and its handle are freed. -/
def discarded (p : Nat) (residue : Residue) (s : State) : State :=
  { s with
    block := Function.update s.block p ⟨false, residue p⟩
    handle := Function.update s.handle (s.block p).contents.handle none }

theorem discard_eq (live : (s.block p).allocated = true) (held : s.handle (s.block p).contents.handle = some (k, p)) :
    discard p residue s = .ok (discarded p residue s) := by
  rw [discard, closeHandle, held]
  show freeRecord p residue _ = _
  rw [freeRecord, if_pos live]
  rfl

theorem discard_ok (ends : discard p residue s = .ok s') :
    ∃ h, { s with handle := h, block := Function.update s.block p ⟨false, residue p⟩ } = s' := by
  rw [discard, closeHandle] at ends
  cases held : s.handle (s.block p).contents.handle with
  | none =>
    rw [held] at ends
    cases ends
  | some _ =>
    rw [held] at ends
    change freeRecord p residue _ = _ at ends
    unfold freeRecord at ends
    split at ends
    · cases ends
      exact ⟨_, rfl⟩
    · cases ends

theorem discard_fails (dead : (s.block p).allocated = false) : ∃ f, discard p residue s = .error f := by
  rw [discard, closeHandle]
  cases held : s.handle (s.block p).contents.handle with
  | none => exact ⟨_, rfl⟩
  | some _ =>
    refine ⟨.notAllocated, ?_⟩
    show freeRecord p residue _ = _
    rw [freeRecord, if_neg (by simpa using dead)]

theorem exists_snoc {α : Type} {P : α → Prop} {xs : List α} {p : α} (fails : ¬ P p) : (∃ q ∈ xs ++ [p], P q) ↔ ∃ q ∈ xs, P q := by
  constructor
  · rintro ⟨q, member, found⟩
    rcases List.mem_append.mp member with member | member
    · exact ⟨q, member, found⟩
    · rw [List.mem_singleton.mp member] at found
      exact absurd found fails
  · rintro ⟨q, member, found⟩
    exact ⟨q, List.mem_append_left _ member, found⟩

theorem eraseIdx_middle {α : Type} (xs ys : List α) (p : α) : (xs ++ p :: ys).eraseIdx xs.length = xs ++ ys := by
  rw [List.eraseIdx_append_of_length_le (Nat.le_refl _), Nat.sub_self, List.eraseIdx_cons_zero]

/-- The entry that the loop stands at is matched and freed: the rest of the loop goes on
behind `discarded`, over the entries before it. -/
theorem swept_discarded {xs ys : List Nat} (fresh : p ∉ xs) (matched : (s.block p).contents.id = id)
    (held : (s.block p).contents.handle ≠ 0) {t : State} (block : t.block = (discarded p residue s).block)
    (handle : t.handle = (discarded p residue s).handle) (vector : t.vector = Function.update s.vector k (xs ++ ys))
    (nextId : t.nextId = s.nextId) (added : t.added = s.added) :
    swept k id residue xs ys t = swept k id residue (xs ++ [p]) ys s := by
  have other : ∀ q, q ≠ p → t.block q = s.block q := fun q ne => block ▸ Function.update_of_ne ne _ _
  have behind : ∀ q ∈ xs, t.block q = s.block q := by
    intro q member
    apply other
    rintro rfl
    exact fresh member
  apply State.ext_iff'
  · funext q
    rw [swept_block, swept_block]
    by_cases same : q = p
    · subst same
      rw [if_neg (fun both => fresh both.1), if_pos ⟨by simp, matched, held⟩, block]
      exact Function.update_self ..
    · rw [other q same]
      simp only [List.mem_append, List.mem_singleton, same, or_false]
  · funext h
    rw [swept_handle, swept_handle, handle]
    have rest : (∃ q ∈ xs, (t.block q).contents.id = id ∧ (t.block q).contents.handle = h) ↔
        ∃ q ∈ xs, (s.block q).contents.id = id ∧ (s.block q).contents.handle = h := by
      constructor
      · rintro ⟨q, member, found⟩
        exact ⟨q, member, behind q member ▸ found⟩
      · rintro ⟨q, member, found⟩
        exact ⟨q, member, (behind q member).symm ▸ found⟩
    rw [if_congr (and_congr_right fun _ => rest) rfl rfl]
    by_cases mine : (s.block p).contents.handle = h
    · have now : (discarded p residue s).handle h = none := by
        subst mine
        exact Function.update_self ..
      rw [now, ite_self, if_pos ⟨mine ▸ held, p, by simp, matched, mine⟩]
    · have now : (discarded p residue s).handle h = s.handle h := Function.update_of_ne (Ne.symm mine) _ _
      rw [now]
      exact if_congr (and_congr_right fun _ => (exists_snoc fun found => mine found.2).symm) rfl rfl
  · rw [swept_vector, swept_vector, vector, Function.update_idem]
    congr 2
    rw [List.filter_append, List.filter_cons_of_neg (by simpa using matched), List.filter_nil, List.append_nil]
    apply List.filter_congr
    intro q member
    rw [behind q member]
  · exact nextId
  · exact added

/-- A matched entry without a handle only leaves the vector. -/
theorem swept_dropped {xs ys : List Nat} (matched : (s.block p).contents.id = id) (bare : (s.block p).contents.handle = 0)
    {t : State} (block : t.block = s.block) (handle : t.handle = s.handle)
    (vector : t.vector = Function.update s.vector k (xs ++ ys)) (nextId : t.nextId = s.nextId) (added : t.added = s.added) :
    swept k id residue xs ys t = swept k id residue (xs ++ [p]) ys s := by
  apply State.ext_iff'
  · funext q
    rw [swept_block, swept_block, block]
    by_cases same : q = p
    · subst same
      rw [if_neg (fun both => both.2.2 bare), if_neg (fun both => both.2.2 bare)]
    · simp only [List.mem_append, List.mem_singleton, same, or_false]
  · funext h
    rw [swept_handle, swept_handle, handle, block]
    refine if_congr (and_congr_right fun some => (exists_snoc fun found => ?_).symm) rfl rfl
    exact some (found.2.symm.trans bare)
  · rw [swept_vector, swept_vector, vector, block, Function.update_idem, List.filter_append,
      List.filter_cons_of_neg (by simpa using matched), List.filter_nil, List.append_nil]
  · exact nextId
  · exact added

/-- An entry with another id stays. -/
theorem swept_kept {xs ys : List Nat} (other : (s.block p).contents.id ≠ id) :
    swept k id residue xs (p :: ys) s = swept k id residue (xs ++ [p]) ys s := by
  apply State.ext_iff'
  · funext q
    rw [swept_block, swept_block]
    by_cases same : q = p
    · subst same
      rw [if_neg (fun both => other both.2.1), if_neg (fun both => other both.2.1)]
    · simp only [List.mem_append, List.mem_singleton, same, or_false]
  · funext h
    rw [swept_handle, swept_handle]
    exact if_congr (and_congr_right fun _ => (exists_snoc fun found => other found.1).symm) rfl rfl
  · rw [swept_vector, swept_vector, List.filter_append, List.filter_cons_of_pos (by simpa using other), List.filter_nil,
      List.append_assoc, List.singleton_append]
  · rfl
  · rfl

/-- **The removing loop**: over entries that are live where they are freed, it ends, and
`swept` is what it leaves. -/
theorem cleanupLoop_eq {xs ys : List Nat} (entries : s.vector k = xs ++ ys) (once : xs.Nodup) (live : Sweepable s k id xs) :
    cleanupLoop k id residue xs.length s = .ok (swept k id residue xs ys s) := by
  induction xs using List.reverseRecOn generalizing s ys with
  | nil =>
    rw [List.length_nil, cleanupLoop]
    congr 1
    apply State.ext_iff'
    · funext q
      simp [swept]
    · funext h
      simp [swept]
    · simp [swept, ← entries.trans (List.nil_append ys)]
    · rfl
    · rfl
  | append_singleton xs p ih =>
    have split : s.vector k = xs ++ p :: ys := by rw [entries, List.append_assoc, List.singleton_append]
    have fresh : p ∉ xs := fun member => (List.nodup_append.mp once).2.2 p member p (List.mem_singleton_self p) rfl
    have once' : xs.Nodup := (List.nodup_append.mp once).1
    have live' : Sweepable s k id xs := fun q member => live q (List.mem_append_left _ member)
    rw [List.length_append, List.length_singleton, cleanupLoop_succ split]
    by_cases matched : (s.block p).contents.id = id
    · rw [if_pos matched]
      by_cases held : (s.block p).contents.handle ≠ 0
      · obtain ⟨allocated, mine⟩ := live p (by simp) matched held
        rw [if_pos held, discard_eq allocated mine]
        show cleanupLoop k id residue xs.length _ = _
        have gone : (discarded p residue s).vector k = xs ++ p :: ys := split
        rw [gone, eraseIdx_middle]
        refine (ih (Function.update_self ..) once' ?_).trans ?_
        · -- the entries before are other records, with other handles
          intro q member same some
          have ne : q ≠ p := by
            rintro rfl
            exact fresh member
          have block : (discarded p residue s).block q = s.block q := Function.update_of_ne ne _ _
          dsimp only at same some ⊢
          rw [block] at same some ⊢
          obtain ⟨allocated', mine'⟩ := live' q member same some
          refine ⟨allocated', ?_⟩
          rw [← mine']
          apply Function.update_of_ne
          intro one
          rw [one, mine] at mine'
          cases mine'
          exact ne rfl
        · congr 1
          apply swept_discarded fresh matched held <;> rfl
      · rw [if_neg held]
        show cleanupLoop k id residue xs.length _ = _
        rw [split, eraseIdx_middle]
        refine (ih (Function.update_self ..) once' ?_).trans ?_
        · exact live'
        · congr 1
          apply swept_dropped matched (not_not.mp held) <;> rfl
    · rw [if_neg matched, ← swept_kept matched]
      exact ih split once' live'

/-- A matched entry that was freed already, with a handle in what is left of it, is not
survived. -/
theorem cleanupLoop_fails {xs ys : List Nat} (entries : s.vector k = xs ++ ys) (member : p ∈ xs)
    (matched : (s.block p).contents.id = id) (held : (s.block p).contents.handle ≠ 0) (dead : (s.block p).allocated = false) :
    ∃ f, cleanupLoop k id residue xs.length s = .error f := by
  induction xs using List.reverseRecOn generalizing s ys with
  | nil => cases member
  | append_singleton xs q ih =>
    have split : s.vector k = xs ++ q :: ys := by rw [entries, List.append_assoc, List.singleton_append]
    rw [List.length_append, List.length_singleton, cleanupLoop_succ split]
    by_cases same : q = p
    · subst same
      obtain ⟨f, fails⟩ : ∃ f, discard q residue s = .error f := discard_fails dead
      rw [if_pos matched, if_pos held, fails]
      exact ⟨f, rfl⟩
    · have member' : p ∈ xs := by
        rcases List.mem_append.mp member with member | member
        · exact member
        · exact absurd (List.mem_singleton.mp member).symm same
      by_cases also : (s.block q).contents.id = id
      · rw [if_pos also]
        by_cases some : (s.block q).contents.handle ≠ 0
        · rw [if_pos some]
          cases step : discard q residue s with
          | error f => exact ⟨f, rfl⟩
          | ok t =>
            show ∃ f, cleanupLoop k id residue xs.length _ = _
            obtain ⟨h, rest⟩ := discard_ok step
            subst rest
            have same' : ({ s with handle := h, block := Function.update s.block q ⟨false, residue q⟩ } : State).block p = s.block p :=
              Function.update_of_ne (Ne.symm same) _ _
            dsimp only
            rw [split, eraseIdx_middle]
            apply ih (Function.update_self ..) member'
            · rw [same']
              exact matched
            · rw [same']
              exact held
            · rw [same']
              exact dead
        · rw [if_neg some]
          show ∃ f, cleanupLoop k id residue xs.length _ = _
          rw [split, eraseIdx_middle]
          exact ih (Function.update_self ..) member' matched held dead
      · rw [if_neg also]
        exact ih split member' matched held dead

/-! ## What a removal keeps -/

/-- From `s` to `s'` the records that do not stay left, and nothing else happened. -/
structure Shrinks (stays : Kind → Nat → Bool) (s s' : State) : Prop where
  vector : ∀ k, s'.vector k = (s.vector k).filter (stays k)
  block : ∀ k, ∀ p ∈ s'.vector k, s'.block p = s.block p
  freed : ∀ p, (s'.block p).allocated = true → (s.block p).allocated = true ∧ ∀ k, p ∈ s.vector k → stays k p = true
  handle : ∀ h k p, s'.handle h = some (k, p) ↔ s.handle h = some (k, p) ∧ stays k p = true
  nextId : s'.nextId = s.nextId
  added : s'.added = s.added

/-- `s'` dangles nowhere, and has the records of `s` but for those that are `gone`. -/
def Unregisters (gone : Kind → Record → Bool) (s s' : State) : Prop :=
  Registered s' ∧ ∀ k, s'.live k = (s.live k).filter fun r => !gone k r

variable {stays : Kind → Nat → Bool}

theorem Shrinks.mem (less : Shrinks stays s s') : p ∈ s'.vector k ↔ p ∈ s.vector k ∧ stays k p = true := by
  rw [less.vector k, List.mem_filter]

theorem Shrinks.registered (less : Shrinks stays s s') (here : Registered s) : Registered s' where
  entry k p member := by
    obtain ⟨allocated, mine⟩ := here.entry k p (less.mem.mp member).1
    rw [less.block k p member]
    exact ⟨allocated, (less.handle _ k p).mpr ⟨mine, (less.mem.mp member).2⟩⟩
  handle k p member := by
    rw [less.block k p member]
    exact here.handle k p (less.mem.mp member).1
  owner h k p held := by
    obtain ⟨before, stay⟩ := (less.handle h k p).mp held
    obtain ⟨member, mine⟩ := here.owner h k p before
    have member' : p ∈ s'.vector k := less.mem.mpr ⟨member, stay⟩
    exact ⟨member', by rw [less.block k p member', mine]⟩
  owned p allocated := by
    obtain ⟨before, stay⟩ := less.freed p allocated
    obtain ⟨k, member⟩ := here.owned p before
    exact ⟨k, less.mem.mpr ⟨member, stay k member⟩⟩
  once k := by
    rw [less.vector k]
    exact (here.once k).filter _
  past k p member := by
    rw [less.block k p member, less.added]
    exact here.past k p (less.mem.mp member).1
  numbered k p left q right same := by
    rw [less.block k p left, less.block k q right] at same
    exact here.numbered k p (less.mem.mp left).1 q (less.mem.mp right).1 same

theorem Shrinks.live (less : Shrinks stays s s') (k : Kind) :
    s'.live k = ((s.vector k).filter (stays k)).map fun p => (s.block p).contents := by
  rw [State.live, less.vector k]
  apply List.map_congr_left
  intro p member
  rw [less.block k p (less.vector k ▸ member)]

/-- What stays is said of the records. -/
theorem Shrinks.unregisters (less : Shrinks stays s s') (here : Registered s) {gone : Kind → Record → Bool}
    (same : ∀ k, ∀ p ∈ s.vector k, stays k p = !gone k (s.block p).contents) : Unregisters gone s s' := by
  refine ⟨less.registered here, fun k => ?_⟩
  rw [less.live k, State.live, List.filter_map]
  congr 1
  exact List.filter_congr fun p member => same k p member

theorem removed_shrinks (here : Registered s) (k : Kind) (id : Int) (residue : Residue) :
    Shrinks (fun k' p => !(k' = k && (s.block p).contents.id = id)) s (removed k id residue s) := by
  have kept : ∀ k', ∀ p ∈ s.vector k', (!(decide (k' = k) && decide ((s.block p).contents.id = id))) = true →
      (removed k id residue s).block p = s.block p := by
    intro k' p member stay
    rw [removed, swept_block, if_neg]
    rintro ⟨mine, same, -⟩
    rw [here.kind member mine] at stay
    simp [same] at stay
  have vector : ∀ k', (removed k id residue s).vector k' =
      (s.vector k').filter fun p => !(decide (k' = k) && decide ((s.block p).contents.id = id)) := by
    intro k'
    rw [removed, swept_vector, List.append_nil]
    by_cases same : k' = k
    · subst same
      rw [Function.update_self]
      simp
    · rw [Function.update_of_ne same]
      simp [same]
  refine ⟨vector, ?_, ?_, ?_, rfl, rfl⟩
  · intro k' p member
    rw [vector k', List.mem_filter] at member
    exact kept k' p member.1 member.2
  · intro p allocated
    rw [removed, swept_block] at allocated
    split at allocated
    · cases allocated
    · rename_i spared
      refine ⟨allocated, fun k' member => ?_⟩
      by_contra leaves
      have both : k' = k ∧ (s.block p).contents.id = id := by simpa using leaves
      exact spared ⟨both.1 ▸ member, both.2, here.handle k' p member⟩
  · intro h k' p
    rw [removed, swept_handle]
    constructor
    · intro held
      split at held
      · cases held
      · rename_i spared
        refine ⟨held, ?_⟩
        by_contra leaves
        have both : k' = k ∧ (s.block p).contents.id = id := by simpa using leaves
        obtain ⟨member, mine⟩ := here.owner h k' p held
        exact spared ⟨mine ▸ here.handle k' p member, p, both.1 ▸ member, both.2, mine⟩
    · rintro ⟨held, stay⟩
      rw [if_neg]
      · exact held
      · rintro ⟨-, q, member, same, mine⟩
        have one := (here.entry k q member).2
        rw [mine, held] at one
        cases one
        simp [same] at stay

theorem cleanup_eq (here : Registered s) (k : Kind) (id : Int) (residue : Residue) :
    cleanup k id residue s = .ok (removed k id residue s) :=
  cleanupLoop_eq (List.append_nil _).symm (here.once k) fun p member _ _ => here.entry k p member

/-! ## Adding -/

/-- The new record, its handle and its place in the vector. -/
def entered (k : Kind) (p h : Nat) (contents : Record) (s : State) : State where
  block := Function.update s.block p ⟨true, contents⟩
  handle := Function.update s.handle h (some (k, p))
  vector := Function.update s.vector k (s.vector k ++ [p])
  nextId := Function.update s.nextId k (s.issue k + 1)
  added := Function.update s.added k (s.added k + 1)

/-- The record `contents` can be put at `p` with the handle `h`. -/
structure Fresh (s : State) (k : Kind) (p h : Nat) (contents : Record) : Prop where
  block : (s.block p).allocated = false
  null : h ≠ 0
  handle : s.handle h = none
  holds : contents.handle = h
  number : contents.number = s.added k

variable {contents : Record}

theorem Registered.absent (here : Registered s) (dead : (s.block p).allocated = false) (k : Kind) : p ∉ s.vector k := by
  intro member
  rw [(here.entry k p member).1] at dead
  cases dead

theorem entered_mem : q ∈ (entered k p h contents s).vector k' ↔ q ∈ s.vector k' ∨ k' = k ∧ q = p := by
  show q ∈ Function.update s.vector k (s.vector k ++ [p]) k' ↔ _
  by_cases same : k' = k
  · subst same
    rw [Function.update_self, List.mem_append, List.mem_singleton]
    simp
  · rw [Function.update_of_ne same]
    simp [same]

theorem entered_old (here : Registered s) (fresh : Fresh s k p h contents) (member : q ∈ s.vector k') :
    (entered k p h contents s).block q = s.block q := by
  apply Function.update_of_ne
  rintro rfl
  exact here.absent fresh.block k' member

theorem entered_new : (entered k p h contents s).block p = ⟨true, contents⟩ := Function.update_self ..

/-- The number of the new record is not that of another of its kind. -/
theorem Fresh.number_ne (fresh : Fresh s k p h contents) (here : Registered s) (member : q ∈ s.vector k) :
    (s.block q).contents.number ≠ contents.number := by
  rw [fresh.number]
  exact Nat.ne_of_lt (here.past k q member)

theorem le_entered_added (k' : Kind) : s.added k' ≤ (entered k p h contents s).added k' := by
  show _ ≤ Function.update s.added k (s.added k + 1) k'
  by_cases same : k' = k
  · subst same
    rw [Function.update_self]
    omega
  · rw [Function.update_of_ne same]

theorem entered_registered (here : Registered s) (fresh : Fresh s k p h contents) : Registered (entered k p h contents s) where
  entry k' q member := by
    rcases entered_mem.mp member with member | ⟨rfl, rfl⟩
    · rw [entered_old here fresh member]
      obtain ⟨allocated, mine⟩ := here.entry k' q member
      refine ⟨allocated, ?_⟩
      rw [← mine]
      apply Function.update_of_ne
      intro same
      rw [same, fresh.handle] at mine
      cases mine
    · rw [entered_new]
      refine ⟨rfl, ?_⟩
      show Function.update s.handle h _ contents.handle = _
      rw [fresh.holds, Function.update_self]
  handle k' q member := by
    rcases entered_mem.mp member with member | ⟨rfl, rfl⟩
    · rw [entered_old here fresh member]
      exact here.handle k' q member
    · rw [entered_new]
      exact fresh.holds ▸ fresh.null
  owner h' k' q held := by
    change Function.update s.handle h (some (k, p)) h' = _ at held
    by_cases same : h' = h
    · subst same
      rw [Function.update_self] at held
      cases held
      exact ⟨entered_mem.mpr (.inr ⟨rfl, rfl⟩), by rw [entered_new, fresh.holds]⟩
    · rw [Function.update_of_ne same] at held
      obtain ⟨member, mine⟩ := here.owner h' k' q held
      exact ⟨entered_mem.mpr (.inl member), by rw [entered_old here fresh member, mine]⟩
  owned q allocated := by
    by_cases same : q = p
    · exact ⟨k, entered_mem.mpr (.inr ⟨rfl, same⟩)⟩
    · change (Function.update s.block p _ q).allocated = true at allocated
      rw [Function.update_of_ne same] at allocated
      obtain ⟨k', member⟩ := here.owned q allocated
      exact ⟨k', entered_mem.mpr (.inl member)⟩
  once k' := by
    show (Function.update s.vector k _ k').Nodup
    by_cases same : k' = k
    · subst same
      rw [Function.update_self]
      apply (here.once k').append (List.nodup_singleton p)
      intro q member new
      rw [List.mem_singleton.mp new] at member
      exact here.absent fresh.block k' member
    · rw [Function.update_of_ne same]
      exact here.once k'
  past k' q member := by
    rcases entered_mem.mp member with member | ⟨rfl, rfl⟩
    · rw [entered_old here fresh member]
      exact Nat.lt_of_lt_of_le (here.past k' q member) (le_entered_added k')
    · rw [entered_new]
      show contents.number < Function.update s.added k' (s.added k' + 1) k'
      rw [Function.update_self, fresh.number]
      omega
  numbered k' q left r right same := by
    rcases entered_mem.mp left with before | ⟨rfl, rfl⟩
    · rw [entered_old here fresh before] at same
      rcases entered_mem.mp right with before' | ⟨rfl, rfl⟩
      · rw [entered_old here fresh before'] at same
        exact here.numbered k' q before r before' same
      · rw [entered_new] at same
        exact absurd same (fresh.number_ne here before)
    · rw [entered_new] at same
      rcases entered_mem.mp right with before | ⟨-, rfl⟩
      · rw [entered_old here fresh before] at same
        exact absurd same.symm (fresh.number_ne here before)
      · rfl

/-! ## Every call -/

/-- What the record of an add holds in `id`: for an idler, what was in its memory. -/
def storedId (k : Kind) (args : AddArgs) (s : State) : Int := if k = .idle then args.garbage.id else s.issue k

/-- The kind of an add, and the store that its function makes. -/
def store (args : AddArgs) : Kind → Int → Record → Record
  | .timeout, id, r => { r with id }
  | .periodic, id, r => { r with id }
  | .watch, id, r => { r with id, fd := args.fd }
  | .idle, _, r => r

theorem api_add (k : Kind) (args : AddArgs) (s : State) : api (.add k args) s = add k (store args k) args s := by
  cases k <;> rfl

theorem api_remove (k : Kind) (id : Int) (residue : Residue) (s : State) :
    api (.remove k id residue) s = (cleanup k id residue s).map (·, 0) := by
  cases k <;> rfl

variable {op : Op} {o : Int} {args : AddArgs}

/-- **What an add does.** -/
theorem add_cases (answered : api (.add k args) s = .ok (s', o)) :
    ∃ p h contents, Fresh s k p h contents ∧ s' = entered k p h contents s ∧ o = s.issue k ∧
      contents.issued = s.issue k ∧ contents.id = storedId k args s := by
  rw [api_add, add] at answered
  cases picked : args.record.pick fun a => (s.block a).allocated with
  | none =>
    rw [picked] at answered
    cases answered
  | some p =>
    cases taken : args.handle.pick fun a => (s.handle a).isSome with
    | none =>
      rw [picked, taken] at answered
      cases answered
    | some h =>
      rw [picked, taken] at answered
      dsimp only at answered
      obtain ⟨-, dead⟩ := args.record.fresh _ _ picked
      obtain ⟨null, unheld⟩ := args.handle.fresh _ _ taken
      by_cases full : (s.vector k).length ≥ 65535
      · rw [if_pos full] at answered
        cases answered
      · rw [if_neg full] at answered
        cases answered
        refine ⟨p, h, _, ⟨dead, null, by simpa using unheld, ?_, ?_⟩, rfl, rfl, ?_, ?_⟩ <;> cases k <;> rfl

/-- **What a removal does.** -/
theorem remove_cases (here : Registered s) (answered : api (.remove k id residue) s = .ok (s', o)) : s' = removed k id residue s := by
  rw [api_remove, cleanup_eq here] at answered
  cases answered
  rfl

theorem api_registered (here : Registered s) (answered : api op s = .ok (s', o)) : Registered s' := by
  cases op with
  | add k args =>
    obtain ⟨p, h, contents, fresh, rfl, -⟩ := add_cases answered
    exact entered_registered here fresh
  | remove k id residue =>
    rw [remove_cases here answered]
    exact (removed_shrinks here k id residue).registered here

theorem calls_registered {calls : List (Call Op State Int)} (run : Run api s calls s') (here : Registered s) : Registered s' :=
  run.invariant here fun _ _ _ _ inv answered => api_registered inv answered

end ArtikSdk.Loop
