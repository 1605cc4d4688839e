import ArtikSdk.Base.Loop.Registrations

/-!
# Completion

A callback that ends its registration frees the record, and then removes from the vector every
entry with the id that it reads in the freed record. The entry of the record itself is among
them; whether it is the only one, and whether the loop survives it, depends on what `free` left
there, on the other ids, and on what the user callback did before.
-/

namespace ArtikSdk.Loop
open Lib

/-- The kinds whose callback checks the function pointer. -/
def checks : Kind → Bool
  | .timeout => true
  | .periodic => true
  | .watch => false
  | .idle => false

/-- When the callback of a kind ends the registration. -/
def ends : Kind → Nat → Int → Bool
  | .timeout => timeoutEnds
  | .periodic => periodicEnds
  | .watch => watchEnds
  | .idle => idleEnds

theorem fire_eq (k : Kind) : fire k = callback k (checks k) (ends k) := by
  cases k <;> rfl

/-- The call removes this id of this kind. -/
def Op.removes (k : Kind) (id : Int) : Op → Bool
  | .add _ _ => false
  | .remove k' id' _ => k' = k && id' = id

variable {s s' s₁ : State} {k k' : Kind} {p q h : Nat} {ops : List Op} {ret : Int} {residue : Residue} {calls : List (Call Op State Int)}

theorem userCall_run (called : userCall (checks k) p ops s = .ok (calls, s₁)) : Run api s calls s₁ := by
  unfold userCall at called
  split at called
  · exact (exec_run called).1
  · split at called
    · cases called
      exact .nil s
    · cases called

/-- A callback that ends goes on to `complete` in the state that the user callback left. -/
theorem fire_ends (armed : s.handle h = some (k, p)) (called : userCall (checks k) p ops s = .ok (calls, s₁))
    (ended : ends k (s.block p).contents.func ret = true) :
    fire k h ops ret residue s = (complete k p residue s₁).map (·, calls) := by
  rw [fire_eq, callback, armed]
  dsimp only
  rw [if_neg (not_not.mpr rfl), called]
  dsimp only
  rw [if_pos ended]

theorem fire_goes_on (armed : s.handle h = some (k, p)) (called : userCall (checks k) p ops s = .ok (calls, s₁))
    (ended : ends k (s.block p).contents.func ret = false) : fire k h ops ret residue s = .ok (s₁, calls) := by
  rw [fire_eq, callback, armed]
  dsimp only
  rw [if_neg (not_not.mpr rfl), called]
  dsimp only
  rw [if_neg (by rw [ended]; exact Bool.false_ne_true)]

/-! ## During the user callback -/

/-- One call: a record stays where it is unless the call removes its id. -/
theorem api_keeps {op : Op} {o : Int} (here : Registered s) (answered : api op s = .ok (s', o)) (member : p ∈ s.vector k)
    (other : op.removes k (s.block p).contents.id = false) : p ∈ s'.vector k ∧ s'.block p = s.block p := by
  cases op with
  | add k' args =>
    obtain ⟨r, h, contents, fresh, rfl, -⟩ := add_cases answered
    exact ⟨entered_mem.mpr (.inl member), entered_old here fresh member⟩
  | remove k' id residue =>
    rw [remove_cases here answered]
    have less := removed_shrinks here k' id residue
    have stays : p ∈ (removed k' id residue s).vector k := by
      refine less.mem.mpr ⟨member, ?_⟩
      by_contra leaves
      have both : k = k' ∧ (s.block p).contents.id = id := by simpa using leaves
      simp [Op.removes, both.1, both.2] at other
    exact ⟨stays, less.block k p stays⟩

/-- The record of the `n`th add of the kind is not there, and will not be. -/
def Gone (k : Kind) (n : Nat) (s : State) : Prop := n < s.added k ∧ ∀ q ∈ s.vector k, (s.block q).contents.number ≠ n

theorem api_gone {op : Op} {o : Int} {n : Nat} (here : Registered s) (answered : api op s = .ok (s', o)) (gone : Gone k n s) :
    Gone k n s' := by
  cases op with
  | add k' args =>
    obtain ⟨r, h, contents, fresh, rfl, -⟩ := add_cases answered
    constructor
    · show n < Function.update s.added k' (s.added k' + 1) k
      by_cases same : k = k'
      · subst same
        rw [Function.update_self]
        exact Nat.lt_succ_of_lt gone.1
      · rw [Function.update_of_ne same]
        exact gone.1
    · intro q member
      rcases entered_mem.mp member with before | ⟨rfl, rfl⟩
      · rw [entered_old here fresh before]
        exact gone.2 q before
      · rw [entered_new]
        show contents.number ≠ n
        rw [fresh.number]
        exact Nat.ne_of_gt gone.1
  | remove k' id residue =>
    rw [remove_cases here answered]
    have less := removed_shrinks here k' id residue
    refine ⟨less.added ▸ gone.1, fun q member => ?_⟩
    rw [less.block k q member]
    exact gone.2 q (less.mem.mp member).1

theorem api_removes {op : Op} {o : Int} (here : Registered s) (answered : api op s = .ok (s', o)) (member : p ∈ s.vector k)
    (mine : op.removes k (s.block p).contents.id = true) : Gone k (s.block p).contents.number s' := by
  cases op with
  | add k' args => cases mine
  | remove k' id residue =>
    rw [remove_cases here answered]
    have less := removed_shrinks here k' id residue
    refine ⟨less.added ▸ here.past k p member, fun q left same => ?_⟩
    obtain ⟨before, stays⟩ := less.mem.mp left
    rw [less.block k q left] at same
    obtain rfl := here.numbered k q before p member same
    have both : k' = k ∧ id = (s.block q).contents.id := by simpa [Op.removes] using mine
    simp [both.1, both.2] at stays

/-- Over the calls of the user callback: no call removes the id, and the record is as it was. -/
theorem calls_keep (run : Run api s calls s₁) (here : Registered s) (member : p ∈ s.vector k)
    (none : ∀ c ∈ calls, c.input.removes k (s.block p).contents.id = false) : p ∈ s₁.vector k ∧ s₁.block p = s.block p := by
  induction run with
  | nil => exact ⟨member, rfl⟩
  | cons answered _ ih =>
    obtain ⟨member', block⟩ := api_keeps here answered member (none _ (List.mem_cons_self ..))
    obtain ⟨last, same⟩ := ih (api_registered here answered) member' fun c inside =>
      block ▸ none c (List.mem_cons_of_mem _ inside)
    exact ⟨last, same.trans block⟩

theorem calls_gone {n : Nat} (run : Run api s calls s₁) (here : Registered s) (gone : Gone k n s) : Gone k n s₁ :=
  (run.invariant (I := fun s => Registered s ∧ Gone k n s) ⟨here, gone⟩ fun _ _ _ _ inv answered =>
    ⟨api_registered inv.1 answered, api_gone inv.1 answered inv.2⟩).2

/-- Some call removes the id: the record is gone for good, whatever is at its address. -/
theorem calls_remove (run : Run api s calls s₁) (here : Registered s) (member : p ∈ s.vector k)
    (some : ∃ c ∈ calls, c.input.removes k (s.block p).contents.id = true) : Gone k (s.block p).contents.number s₁ := by
  induction run with
  | nil =>
    obtain ⟨c, inside, -⟩ := some
    cases inside
  | @cons s s' s'' op o cs answered rest ih =>
    by_cases mine : op.removes k (s.block p).contents.id = true
    · exact calls_gone rest (api_registered here answered) (api_removes here answered member mine)
    · obtain ⟨member', block⟩ := api_keeps here answered member (by simpa using mine)
      obtain ⟨c, inside, removes⟩ := some
      rw [← block]
      apply ih (api_registered here answered) member'
      rcases List.mem_cons.mp inside with rfl | inside
      · exact absurd removes mine
      · exact ⟨c, inside, block.symm ▸ removes⟩

/-! ## After it -/

theorem discarded_self (s : State) (p : Nat) (residue : Residue) : (discarded p residue s).block p = ⟨false, residue p⟩ :=
  Function.update_self ..

theorem discarded_other (s : State) (residue : Residue) (ne : q ≠ p) : (discarded p residue s).block q = s.block q :=
  Function.update_of_ne ne _ _

/-- What is left of a freed record holds no handle, or its entry is not in the vector: then the
sweep ends, with the entries taken out that have the id left in the record. -/
theorem complete_eq (here : Registered s) (member : p ∈ s.vector k') (quiet : p ∈ s.vector k → (residue p).handle = 0) :
    complete k p residue s = .ok (removed k (residue p).id residue (discarded p residue s)) := by
  obtain ⟨allocated, mine⟩ := here.entry k' p member
  rw [complete, discard_eq allocated mine]
  show cleanup k ((discarded p residue s).block p).contents.id residue (discarded p residue s) = _
  rw [discarded_self]
  refine cleanupLoop_eq (List.append_nil _).symm (here.once k) fun q inside _ held => ?_
  have ne : q ≠ p := by
    rintro rfl
    rw [discarded_self] at held
    exact held (quiet inside)
  rw [discarded_other s residue ne]
  obtain ⟨allocated', mine'⟩ := here.entry k q inside
  refine ⟨allocated', ?_⟩
  rw [← mine']
  apply Function.update_of_ne
  intro same
  exact ne (here.handles inside member same)

/-- Out go the record that completed, and with it every record that has the id left in it. -/
def spared (k : Kind) (p : Nat) (residue : Residue) (s : State) (k' : Kind) (q : Nat) : Bool :=
  !(k' = k && (q = p || (s.block q).contents.id = (residue p).id))

theorem spared_iff : spared k p residue s k' q = true ↔ (k' = k → q ≠ p ∧ (s.block q).contents.id ≠ (residue p).id) := by
  simp only [spared, Bool.not_eq_true', Bool.and_eq_false_imp, decide_eq_true_eq, Bool.or_eq_false_iff, decide_eq_false_iff_not, ne_eq]

theorem completed_vector (s : State) (k : Kind) (p : Nat) (residue : Residue) (k' : Kind) :
    (removed k (residue p).id residue (discarded p residue s)).vector k' = (s.vector k').filter (spared k p residue s k') := by
  rw [removed, swept_vector, List.append_nil]
  show Function.update s.vector k ((s.vector k).filter _) k' = _
  by_cases same : k' = k
  · subst same
    rw [Function.update_self]
    apply List.filter_congr
    intro q inside
    rw [Bool.eq_iff_iff, spared_iff, decide_eq_true_eq]
    by_cases mine : q = p
    · subst mine
      simp [discarded_self]
    · rw [discarded_other s residue mine]
      simp [mine]
  · rw [Function.update_of_ne same, eq_comm]
    exact List.filter_eq_self.mpr fun q _ => spared_iff.mpr fun this => absurd this same

theorem completed_block (here : Registered s) (member : p ∈ s.vector k) (inside : q ∈ s.vector k')
    (stays : spared k p residue s k' q = true) :
    (removed k (residue p).id residue (discarded p residue s)).block q = s.block q := by
  have ne : q ≠ p := by
    rintro rfl
    exact (spared_iff.mp stays (here.kind inside member)).1 rfl
  rw [removed, swept_block, discarded_other s residue ne, if_neg]
  rintro ⟨also, same, -⟩
  exact (spared_iff.mp stays (here.kind inside also)).2 same

/-- A record that is still there was there, and is spared where it is in a vector. -/
theorem completed_allocated (here : Registered s)
    (allocated : ((removed k (residue p).id residue (discarded p residue s)).block q).allocated = true) :
    (s.block q).allocated = true ∧ ∀ k', q ∈ s.vector k' → spared k p residue s k' q = true := by
  rw [removed, swept_block] at allocated
  split at allocated
  · cases allocated
  · rename_i stands
    have ne : q ≠ p := by
      rintro rfl
      rw [discarded_self] at allocated
      cases allocated
    rw [discarded_other s residue ne] at allocated stands
    refine ⟨allocated, fun k' inside => spared_iff.mpr ?_⟩
    rintro rfl
    exact ⟨ne, fun same => stands ⟨inside, same, here.handle k' q inside⟩⟩

/-- A handle that is still held is one of a record that is spared. -/
theorem completed_holds (here : Registered s)
    (held : (removed k (residue p).id residue (discarded p residue s)).handle h = some (k', q)) :
    s.handle h = some (k', q) ∧ spared k p residue s k' q = true := by
  rw [removed, swept_handle] at held
  split at held
  · cases held
  · rename_i stands
    change Function.update s.handle (s.block p).contents.handle none h = _ at held
    have ne : h ≠ (s.block p).contents.handle := by
      rintro rfl
      rw [Function.update_self] at held
      cases held
    rw [Function.update_of_ne ne] at held
    obtain ⟨inside, mine⟩ := here.owner h k' q held
    refine ⟨held, spared_iff.mpr ?_⟩
    rintro rfl
    have apart : q ≠ p := by
      rintro rfl
      exact ne mine.symm
    refine ⟨apart, fun same => stands ⟨mine ▸ here.handle k' q inside, q, inside, ?_⟩⟩
    rw [discarded_other s residue apart]
    exact ⟨same, mine⟩

theorem completed_keeps (here : Registered s) (member : p ∈ s.vector k) (quiet : (residue p).handle = 0)
    (held : s.handle h = some (k', q)) (stays : spared k p residue s k' q = true) :
    (removed k (residue p).id residue (discarded p residue s)).handle h = some (k', q) := by
  obtain ⟨inside, mine⟩ := here.owner h k' q held
  rw [removed, swept_handle, if_neg]
  · show Function.update s.handle (s.block p).contents.handle none h = _
    rw [Function.update_of_ne]
    · exact held
    · rintro rfl
      rw [(here.entry k p member).2] at held
      cases held
      exact (spared_iff.mp stays rfl).1 rfl
  · -- the handle that is swept is one of a record with the id, and this one's is spared
    rintro ⟨null, r, also, same, holds⟩
    by_cases it : r = p
    · subst it
      rw [discarded_self] at holds
      exact null (holds.symm.trans quiet)
    · rw [discarded_other s residue it] at same holds
      have one := (here.entry k r also).2
      rw [holds, held] at one
      cases one
      exact (spared_iff.mp stays rfl).2 same

theorem complete_shrinks (here : Registered s) (member : p ∈ s.vector k) (quiet : (residue p).handle = 0) :
    Shrinks (spared k p residue s) s (removed k (residue p).id residue (discarded p residue s)) where
  vector := completed_vector s k p residue
  block k' q inside := by
    rw [completed_vector, List.mem_filter] at inside
    exact completed_block here member inside.1 inside.2
  freed q allocated := completed_allocated here allocated
  handle h k' q := ⟨completed_holds here, fun both => completed_keeps here member quiet both.1 both.2⟩
  nextId := rfl
  added := rfl

/-- What is left of the record holds a handle: the sweep frees it a second time. -/
theorem complete_fails (here : Registered s) (member : p ∈ s.vector k) (loud : (residue p).handle ≠ 0) :
    ∃ f, complete k p residue s = .error f := by
  obtain ⟨allocated, mine⟩ := here.entry k p member
  rw [complete, discard_eq allocated mine]
  show ∃ f, cleanup k ((discarded p residue s).block p).contents.id residue (discarded p residue s) = .error f
  have inside : p ∈ (discarded p residue s).vector k := member
  exact cleanupLoop_fails (List.append_nil _).symm inside rfl (by rw [discarded_self]; exact loud) (by rw [discarded_self])

/-! ## Only itself -/

/-- The record that completed, by the number of its add. -/
def itself (k : Kind) (n : Nat) (k' : Kind) (r : Record) : Bool := k' = k && r.number = n

/-- A record that stays is still among the live ones, and one that leaves is not. -/
theorem Shrinks.stays_iff {stays : Kind → Nat → Bool} {gone : Kind → Record → Bool} (less : Shrinks stays s s') (here : Registered s)
    (now : Unregisters gone s s') (member : q ∈ s.vector k) : stays k q = true ↔ gone k (s.block q).contents = false := by
  have lists := (less.live k).symm.trans (now.2 k)
  rw [State.live, List.filter_map] at lists
  have iff : q ∈ (s.vector k).filter (stays k) ↔
      q ∈ (s.vector k).filter ((fun r => !gone k r) ∘ fun p => (s.block p).contents) := by
    constructor
    · intro inside
      have image := List.mem_map_of_mem (f := fun p => (s.block p).contents) inside
      rw [lists] at image
      obtain ⟨r, inside', same⟩ := List.mem_map.mp image
      obtain rfl := here.numbered k r (List.mem_filter.mp inside').1 q member (congrArg Record.number same)
      exact inside'
    · intro inside
      have image := List.mem_map_of_mem (f := fun p => (s.block p).contents) inside
      rw [← lists] at image
      obtain ⟨r, inside', same⟩ := List.mem_map.mp image
      obtain rfl := here.numbered k r (List.mem_filter.mp inside').1 q member (congrArg Record.number same)
      exact inside'
  rw [List.mem_filter, List.mem_filter] at iff
  simpa [member] using iff

theorem itself_false {n : Nat} {r : Record} : itself k n k r = false ↔ r.number ≠ n := by simp [itself]

/-- In the state the user callback leaves: `complete` takes out the record of the `n`th add and
nothing else exactly when that record is still at `p`, the memory freed holds no handle, and no
other record has the id left in it. -/
theorem complete_spared_iff {n : Nat} (here : Registered s) :
    (∃ s', complete k p residue s = .ok s' ∧ Unregisters (itself k n) s s') ↔
      (p ∈ s.vector k ∧ (s.block p).contents.number = n) ∧ (residue p).handle = 0 ∧
        ∀ q ∈ s.vector k, q ≠ p → (s.block q).contents.id ≠ (residue p).id := by
  constructor
  · rintro ⟨s', ended, now⟩
    cases allocated : (s.block p).allocated with
    | false =>
      obtain ⟨f, fails⟩ : ∃ f, discard p residue s = .error f := discard_fails allocated
      rw [complete, fails] at ended
      cases ended
    | true =>
      obtain ⟨k', member⟩ := here.owned p allocated
      by_cases same : k' = k
      · subst same
        by_cases quiet : (residue p).handle = 0
        · rw [complete_eq here member fun _ => quiet] at ended
          cases ended
          have less := complete_shrinks here member quiet
          have mine : (s.block p).contents.number = n := by
            by_contra other
            exact (spared_iff.mp ((less.stays_iff here now member).mpr (itself_false.mpr other)) rfl).1 rfl
          refine ⟨⟨member, mine⟩, quiet, fun q inside ne => ?_⟩
          have other : (s.block q).contents.number ≠ n := fun also => ne (here.numbered k' q inside p member (also.trans mine.symm))
          exact (spared_iff.mp ((less.stays_iff here now inside).mpr (itself_false.mpr other)) rfl).2
        · obtain ⟨f, fails⟩ := complete_fails here member quiet
          rw [fails] at ended
          cases ended
      · -- a record of another kind at the same address is freed under its vector
        have absent : p ∉ s.vector k := fun inside => same (here.kind member inside)
        rw [complete_eq here member fun inside => absurd inside absent] at ended
        cases ended
        have inside : p ∈ (removed k (residue p).id residue (discarded p residue s)).vector k' := by
          rw [removed, swept_vector, Function.update_of_ne same]
          exact member
        have live := (now.1.entry k' p inside).1
        rw [removed, swept_block, if_neg (fun both => absent both.1), discarded_self] at live
        cases live
  · rintro ⟨⟨member, mine⟩, quiet, alone⟩
    refine ⟨_, complete_eq here member fun _ => quiet, (complete_shrinks here member quiet).unregisters here ?_⟩
    intro k' q inside
    rw [Bool.eq_iff_iff, spared_iff, Bool.not_eq_true', itself, Bool.and_eq_false_imp, decide_eq_true_eq, decide_eq_false_iff_not]
    refine forall_congr' ?_
    rintro rfl
    constructor
    · intro both also
      exact both.1 (here.numbered k' q inside p member (also.trans mine.symm))
    · intro other
      have ne : q ≠ p := by
        rintro rfl
        exact other mine
      exact ⟨ne, alone q inside ne⟩

/-- After the user callback the record is where it was exactly when no call removed its id. -/
theorem calls_keep_iff (run : Run api s calls s₁) (here : Registered s) (member : p ∈ s.vector k) :
    (p ∈ s₁.vector k ∧ (s₁.block p).contents.number = (s.block p).contents.number) ↔
      ∀ c ∈ calls, c.input.removes k (s.block p).contents.id = false := by
  constructor
  · rintro ⟨member', mine⟩ c inside
    by_contra removes
    exact (calls_remove run here member ⟨c, inside, by simpa using removes⟩).2 p member' mine
  · intro none
    obtain ⟨member', block⟩ := calls_keep run here member none
    exact ⟨member', by rw [block]⟩

/-- Cleared memory. -/
def cleared : Record := ⟨0, 0, 0, 0, 0, 0, 0⟩

/-- An add whose `malloc`s give `p` and `h`. -/
def place (func p h : Nat) : AddArgs := ⟨func, 0, 0, .only p, .only h, cleared⟩

/-- The state after the calls, from the start. -/
def afterCalls (ops : List Op) : State :=
  match exec api ops .init with
  | .ok r => r.2
  | .error _ => .init

theorem afterCalls_registered (ops : List Op) : Registered (afterCalls ops) := by
  unfold afterCalls
  split
  · rename_i r ran
    exact calls_registered (exec_run ran).1 .init
  · exact .init

/-- Two timeouts, with the ids 0 and 1. -/
def twoTimeouts : State := afterCalls [.add .timeout (place 1 101 201), .add .timeout (place 1 102 202)]

end ArtikSdk.Loop
