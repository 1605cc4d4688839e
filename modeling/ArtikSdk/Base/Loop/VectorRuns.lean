import ArtikSdk.Base.Loop.Registrations
import ArtikSdk.Base.Loop.Vector

/-!
# Runs on a vector of the Tinyara loop

The cleanup functions go through a vector from its last element on and delete under way, with an index that wraps around
behind the first. Every run of appends, deletes and cleanups does to the vector what it should do to a list, and the
lists of `State` are what the vectors hold.
-/

namespace ArtikSdk.Loop.Vectors
open Lib

/-! ## Removing -/

/-- The records that the elements point to: the id that one holds, and what the memory of all is after one was
discarded (its handle is stopped and freed, the record cleared and freed), where the others keep their ids. -/
structure Records (σ : Type) where
  id : σ → Nat → Int
  discard : Nat → σ → σ
  frame : ∀ p q s, q ≠ p → id (discard p s) q = id s q

/-- The body of a reverse iteration has seen the element `index`, a pointer to a record with an id. -/
structure Visit where
  index : Nat
  ptr : Nat
  id : Int
deriving DecidableEq

variable {σ : Type}

/-- `_PTR_VECTOR_FOREACH_REVERSE_IDX` in the cleanup functions; `idx` is a `uint16_t`, and so is what it is compared with. -/
def cleanupFrom (R : Records σ) (id : Int) (granted : BitVec 16 → Bool) (idx : BitVec 16) (s : σ) (v : PtrVector) :
    Except Fault (List Visit × σ × PtrVector) :=
  if _last : idx = 0xffff then .ok ([], s, v)
  else do
    let ptr ← ptrVectorGetNoCheck v idx
    let (s', v') ←
      if R.id s ptr = id then do
        let (v', _) ← ptrVectorDel idx (granted idx) v
        pure (R.discard ptr s, v')
      else pure (s, v)
    let (visits, rest) ← cleanupFrom R id granted (idx - 1) s' v'
    return (⟨idx.toNat, ptr, R.id s ptr⟩ :: visits, rest)
termination_by (idx + 1).toNat
decreasing_by
  have : idx.toNat ≠ 0xffff := fun full => _last (BitVec.eq_of_toNat_eq full)
  bv_omega

/-- `timeout_cleanup`, `periodic_cleanup`, `watch_cleanup` and `idle_cleanup` -/
def cleanup (R : Records σ) (id : Int) (granted : BitVec 16 → Bool) (s : σ) (v : PtrVector) : Except Fault (List Visit × σ × PtrVector) :=
  cleanupFrom R id granted (v.len - 1) s v

/-! ## Calls -/

inductive Op (σ : Type) where
  | append (ptr : Nat) (granted : Bool)
  | del (i : BitVec 16) (granted : Bool)
  | cleanup (id : Int) (granted : BitVec 16 → Bool) (s : σ)

inductive Output where
  | code (e : ArtikError)
  | visits (visits : List Visit)
deriving DecidableEq

def step (R : Records σ) (op : Op σ) (v : PtrVector) : Except Fault (PtrVector × Output) :=
  match op with
  | .append ptr granted => (ptrVectorAppend ptr granted v).map fun v => (v, .code .ok)
  | .del i granted => (ptrVectorDel i granted v).map fun r => (r.1, .code r.2)
  | .cleanup id granted s => (cleanup R id granted s v).map fun r => (r.2.2, .visits r.1)

/-- The elements whose records were seen with another id. -/
def spared (id : Int) (visits : List Visit) : List Nat := ((visits.filter fun c => c.id ≠ id).map Visit.ptr).reverse

/-- Each element is visited once, from the last one on, and those stay whose id was seen to be another one; where no record
is in the list twice, they are those with another id from the start. -/
structure Sweeps (R : Records σ) (id : Int) (s : σ) (xs ys : List Nat) (visits : List Visit) : Prop where
  indices : visits.map Visit.index = (List.range xs.length).reverse
  ptrs : visits.map Visit.ptr = xs.reverse
  stay : ys = spared id visits
  others : xs.Nodup → ys = xs.filter fun p => R.id s p ≠ id

/-- What a call does to the list. -/
def Op.Does (R : Records σ) (op : Op σ) (xs ys : List Nat) (o : Output) : Prop :=
  match op with
  | .append ptr _ => ys = xs ++ [ptr] ∧ o = .code .ok
  | .del i _ => ys = xs.eraseIdx i.toNat ∧ o = .code (if i.toNat < xs.length then .ok else .invalidValue)
  | .cleanup id _ s => ∃ visits, o = .visits visits ∧ Sweeps R id s xs ys visits

/-- Before and behind a call the vector holds a list, and the call does to the list what it should. -/
def Keeps (R : Records σ) (c : Call (Op σ) PtrVector Output) : Prop :=
  ∃ xs ys, Holds c.before xs ∧ Holds c.after ys ∧ c.input.Does R xs ys c.output

/-- **The law of the vector**: from a list on, the calls do to the vector what they should do to the list. -/
def Follows (R : Records σ) : List (Call (Op σ) PtrVector Output) → List Nat → Prop
  | [], _ => True
  | c :: cs, xs => Holds c.before xs ∧ ∃ ys, Holds c.after ys ∧ c.input.Does R xs ys c.output ∧ Follows R cs ys

/-- There is room for the element that an append adds. -/
def Fits (op : Op σ) (v : PtrVector) : Prop :=
  match op with
  | .append _ granted => Growable granted v
  | _ => True

variable {v w : PtrVector} {xs ys zs : List Nat} {ptr : Nat} {granted : Bool}

/-! ## The reverse iteration -/

theorem spared_of_eq {c : Visit} {id : Int} (matched : c.id = id) (visits : List Visit) : spared id (c :: visits) = spared id visits := by
  rw [spared, List.filter_cons_of_neg (by simpa using matched)]
  rfl

theorem spared_of_ne {c : Visit} {id : Int} (other : c.id ≠ id) (visits : List Visit) :
    spared id (c :: visits) = spared id visits ++ [c.ptr] := by
  rw [spared, List.filter_cons_of_pos (by simpa using other), List.map_cons, List.reverse_cons]
  rfl

section Iteration

variable {R : Records σ} {id : Int} {s : σ} {p : Nat} {visits : List Visit}

theorem Sweeps.nil : Sweeps R id s [] [] [] := ⟨rfl, rfl, rfl, fun _ => rfl⟩

/-- The last element is discarded. -/
theorem Sweeps.discarded (matched : R.id s p = id) (sweeps : Sweeps R id (R.discard p s) xs ys visits) :
    Sweeps R id s (xs ++ [p]) ys (⟨xs.length, p, R.id s p⟩ :: visits) where
  indices := by
    rw [List.map_cons, sweeps.indices, List.length_append, List.length_singleton, List.range_succ, List.reverse_append]
    rfl
  ptrs := by
    rw [List.map_cons, sweeps.ptrs, List.reverse_append]
    rfl
  stay := sweeps.stay.trans (spared_of_eq matched visits).symm
  others once := by
    rw [← List.concat_eq_append, List.nodup_concat] at once
    obtain ⟨fresh, once⟩ := once
    have same : ∀ q ∈ xs, decide (R.id (R.discard p s) q ≠ id) = decide (R.id s q ≠ id) := by
      intro q member
      rw [R.frame p q s fun eq => fresh (eq ▸ member)]
    rw [List.filter_append, List.filter_cons_of_neg (by simpa using matched), List.filter_nil, List.append_nil, ← List.filter_congr same]
    exact sweeps.others once

/-- The last element stays. -/
theorem Sweeps.kept (other : R.id s p ≠ id) (sweeps : Sweeps R id s xs ys visits) :
    Sweeps R id s (xs ++ [p]) (ys ++ [p]) (⟨xs.length, p, R.id s p⟩ :: visits) where
  indices := by
    rw [List.map_cons, sweeps.indices, List.length_append, List.length_singleton, List.range_succ, List.reverse_append]
    rfl
  ptrs := by
    rw [List.map_cons, sweeps.ptrs, List.reverse_append]
    rfl
  stay := by rw [spared_of_ne other, sweeps.stay]
  others once := by
    rw [← List.concat_eq_append, List.nodup_concat] at once
    rw [List.filter_append, List.filter_cons_of_pos (by simpa using other), List.filter_nil, ← sweeps.others once.2]

variable {grants : BitVec 16 → Bool} {idx : BitVec 16}

/-- Where `n + 1` elements are left, the iteration stands at the one with the index `n`. -/
theorem standing {n : Nat} (left : (idx + 1).toNat = n + 1) : idx ≠ 0xffff ∧ idx.toNat = n ∧ (idx - 1 + 1).toNat = n := by
  have here : idx.toNat = n := by bv_omega
  refine ⟨?_, here, by rw [BitVec.sub_add_cancel, here]⟩
  intro done
  rw [done] at left
  cases left

theorem Represents.get (rep : Represents v (xs ++ p :: zs)) (here : idx.toNat = xs.length) : ptrVectorGetNoCheck v idx = .ok p := by
  apply get_ok rep
  rw [here, List.getElem?_append_right (Nat.le_refl _), Nat.sub_self, List.getElem?_cons_zero]

theorem Represents.del (rep : Represents v (xs ++ p :: zs)) (here : idx.toNat = xs.length) (granted : Bool) :
    ∃ w e, ptrVectorDel idx granted v = .ok (w, e) ∧ Represents w (xs ++ zs) := by
  obtain ⟨w, deleted, rest⟩ := del_ok idx granted rep
  rw [here, eraseIdx_middle] at rest
  exact ⟨w, _, deleted, rest⟩

theorem cleanupFrom_done : cleanupFrom R id grants 0xffff s v = .ok ([], s, v) := by rw [cleanupFrom, dif_pos rfl]

theorem cleanupFrom_matched (going : idx ≠ 0xffff) (entry : ptrVectorGetNoCheck v idx = .ok p) (matched : R.id s p = id) {e : ArtikError}
    (deleted : ptrVectorDel idx (grants idx) v = .ok (w, e)) :
    cleanupFrom R id grants idx s v =
      (cleanupFrom R id grants (idx - 1) (R.discard p s) w).map fun r => (⟨idx.toNat, p, R.id s p⟩ :: r.1, r.2) := by
  rw [cleanupFrom, dif_neg going, entry]
  dsimp only [bind, Except.bind]
  rw [if_pos matched, deleted]
  dsimp only [pure, Except.pure]
  cases cleanupFrom R id grants (idx - 1) (R.discard p s) w <;> rfl

theorem cleanupFrom_other (going : idx ≠ 0xffff) (entry : ptrVectorGetNoCheck v idx = .ok p) (other : R.id s p ≠ id) :
    cleanupFrom R id grants idx s v =
      (cleanupFrom R id grants (idx - 1) s v).map fun r => (⟨idx.toNat, p, R.id s p⟩ :: r.1, r.2) := by
  rw [cleanupFrom, dif_neg going, entry]
  dsimp only [bind, Except.bind]
  rw [if_neg other]
  dsimp only [pure, Except.pure]
  cases cleanupFrom R id grants (idx - 1) s v <;> rfl

/-- Behind the elements that are left to visit are those that stayed. -/
theorem cleanupFrom_ok (rep : Represents v (xs ++ zs)) (left : (idx + 1).toNat = xs.length) :
    ∃ visits t w ys, cleanupFrom R id grants idx s v = .ok (visits, t, w) ∧ Represents w (ys ++ zs) ∧ Sweeps R id s xs ys visits := by
  induction xs using List.reverseRecOn generalizing idx s v zs with
  | nil =>
    obtain rfl : idx = 0xffff := by
      rw [List.length_nil] at left
      bv_omega
    exact ⟨[], s, v, [], cleanupFrom_done, rep, .nil⟩
  | append_singleton xs p ih =>
    rw [List.length_append, List.length_singleton] at left
    rw [List.append_assoc, List.singleton_append] at rep
    obtain ⟨going, here, next⟩ := standing left
    by_cases matched : R.id s p = id
    · obtain ⟨v', e, deleted, rest⟩ := rep.del here (grants idx)
      obtain ⟨visits, t, w, ys, ran, stayed, sweeps⟩ := ih (s := R.discard p s) rest next
      refine ⟨⟨xs.length, p, R.id s p⟩ :: visits, t, w, ys, ?_, stayed, sweeps.discarded matched⟩
      rw [cleanupFrom_matched going (rep.get here) matched deleted, ran, here]
      rfl
    · obtain ⟨visits, t, w, ys, ran, stayed, sweeps⟩ := ih (s := s) rep next
      refine ⟨⟨xs.length, p, R.id s p⟩ :: visits, t, w, ys ++ [p], ?_, ?_, sweeps.kept matched⟩
      · rw [cleanupFrom_other going (rep.get here) matched, ran, here]
        rfl
      · rw [List.append_assoc, List.singleton_append]
        exact stayed

end Iteration

theorem cleanup_ok (R : Records σ) (id : Int) (grants : BitVec 16 → Bool) (s : σ) (rep : Represents v xs) :
    ∃ visits t w ys, cleanup R id grants s v = .ok (visits, t, w) ∧ Represents w ys ∧ Sweeps R id s xs ys visits := by
  have last : (v.len - 1 + 1).toNat = xs.length := by rw [BitVec.sub_add_cancel, rep.len]
  rw [← List.append_nil xs] at rep
  obtain ⟨visits, t, w, ys, ran, rest, sweeps⟩ := cleanupFrom_ok rep last
  rw [List.append_nil] at rest
  exact ⟨visits, t, w, ys, ran, rest, sweeps⟩

/-! ## Runs -/

theorem Holds.unique (left : Holds v xs) (right : Holds v ys) : xs = ys := by
  have same : xs.length = ys.length := left.len.symm.trans right.len
  have contents : xs.map some = ys.map some := by rw [← left.contents, ← right.contents, same]
  exact List.map_injective_iff.2 (Option.some_injective Nat) contents

section Service

variable {R : Records σ} {op : Op σ} {o : Output}

theorem step_ok (rep : Represents v xs) (fits : Fits op v) :
    ∃ w o ys, step R op v = .ok (w, o) ∧ Represents w ys ∧ op.Does R xs ys o := by
  cases op with
  | append ptr granted =>
    obtain ⟨w, ran, rest⟩ := append_ok rep fits
    exact ⟨w, _, _, map_ok_iff.2 ⟨w, ran, rfl⟩, rest, rfl, rfl⟩
  | del i granted =>
    obtain ⟨w, ran, rest⟩ := del_ok i granted rep
    exact ⟨w, _, _, map_ok_iff.2 ⟨_, ran, rfl⟩, rest, rfl, rfl⟩
  | cleanup id grants s =>
    obtain ⟨visits, t, w, ys, ran, rest, sweeps⟩ := cleanup_ok R id grants s rep
    exact ⟨w, _, ys, map_ok_iff.2 ⟨_, ran, rfl⟩, rest, visits, rfl, sweeps⟩

theorem step_fits (answered : step R op v = .ok (w, o)) : Fits op v := by
  by_contra unfit
  cases op with
  | append ptr granted =>
    obtain ⟨f, failed⟩ := append_fails unfit
    rw [step, failed] at answered
    cases answered
  | del i granted => exact unfit trivial
  | cleanup id grants s => exact unfit trivial

theorem step_iff (R : Records σ) (op : Op σ) (rep : Represents v xs) :
    (∃ w o, step R op v = .ok (w, o) ∧ Keeps R ⟨v, op, w, o⟩) ↔ Fits op v := by
  constructor
  · rintro ⟨w, o, answered, -⟩
    exact step_fits answered
  · intro fits
    obtain ⟨w, o, ys, answered, rest, does⟩ := step_ok rep fits
    exact ⟨w, o, answered, xs, ys, rep.holds, rest.holds, does⟩

theorem step_keep (rep : Represents v xs) (fits : Fits op v) (answered : step R op v = .ok (w, o)) : ∃ ys, Represents w ys := by
  obtain ⟨w', o', ys, answered', rest, -⟩ := step_ok (R := R) rep fits
  cases answered.symm.trans answered'
  exact ⟨ys, rest⟩

/-- A vector holds one list only, so that the calls of a run are about the same lists. -/
theorem follows_iff {cs : List (Call (Op σ) PtrVector Output)} (run : Run (step R) v cs w) (holds : Holds v xs) :
    Follows R cs xs ↔ ∀ c ∈ cs, Keeps R c := by
  induction run generalizing xs with
  | nil => exact iff_of_true trivial fun c member => by cases member
  | cons answered rest ih =>
    rw [List.forall_mem_cons, Follows]
    constructor
    · rintro ⟨-, ys, after, does, follows⟩
      exact ⟨⟨xs, ys, holds, after, does⟩, (ih after).1 follows⟩
    · rintro ⟨⟨xs', ys, before, after, does⟩, keeps⟩
      cases before.unique holds
      exact ⟨holds, ys, after, does, (ih after).2 keeps⟩

/-- **The loop vector**: the block has always room for the elements in use and the calls do to them what they should do to
the list, in exactly those runs with room for each new element. -/
theorem vector_iff (R : Records σ) (ops : List (Op σ)) :
    (∃ cs w, exec (step R) ops .init = .ok (cs, w) ∧ Follows R cs []) ↔ Along Fits (step R) ops .init := by
  have start : ∃ xs, Represents .init xs := ⟨[], .init⟩
  rw [← exec_along_iff (I := fun v => ∃ xs, Represents v xs) (P := Keeps R) (fun op _ ⟨_, rep⟩ => step_iff R op rep)
    (fun _ _ _ _ ⟨_, rep⟩ fits answered => step_keep rep fits answered) start]
  constructor
  · rintro ⟨cs, w, ran, follows⟩
    exact ⟨cs, w, ran, (follows_iff (exec_run ran).1 Represents.init.holds).1 follows⟩
  · rintro ⟨cs, w, ran, keeps⟩
    exact ⟨cs, w, ran, (follows_iff (exec_run ran).1 Represents.init.holds).2 keeps⟩

end Service

/-! ## The vectors of the loop -/

/-- The records of the loop; one without a handle stays as it is. -/
def records (residue : Residue) : Records State where
  id s p := (s.block p).contents.id
  discard p s := if (s.block p).contents.handle ≠ 0 then (discard p residue s).toOption.getD s else s
  frame p q s ne := by
    split
    · cases ran : discard p residue s with
      | error f => rfl
      | ok t =>
        obtain ⟨h, rfl⟩ := discard_ok ran
        exact congrArg (fun block : Block => block.contents.id) (Function.update_of_ne ne _ _)
    · rfl

section Simulation

variable {k : Kind} {id : Int} {residue : Residue} {grants : BitVec 16 → Bool} {idx : BitVec 16} {s s' t : State} {p : Nat}

/-- A record is discarded where it and its handle are allocated. -/
theorem discard_iff : discard p residue s = .ok s' ↔
    ((s.handle (s.block p).contents.handle).isSome ∧ (s.block p).allocated) ∧ Loop.discarded p residue s = s' := by
  rw [discard, closeHandle]
  cases held : s.handle (s.block p).contents.handle with
  | none =>
    constructor
    · intro ran
      cases ran
    · rintro ⟨⟨some, -⟩, -⟩
      cases some
  | some handle =>
    change freeRecord p residue _ = _ ↔ _
    by_cases live : (s.block p).allocated
    · rw [freeRecord, if_pos live, and_iff_right ⟨rfl, live⟩, Except.ok.injEq]
      rfl
    · rw [freeRecord, if_neg live]
      exact iff_of_false (fun ran => by cases ran) fun allocated => live allocated.1.2

/-- One state has the memory of another. -/
def SameMemory (s t : State) : Prop := s.block = t.block ∧ s.handle = t.handle

/-- Where the loop discards a record, both memories lose it. -/
theorem SameMemory.discard (same : SameMemory s t)
    (ran : (if (s.block p).contents.handle ≠ 0 then Loop.discard p residue s else .ok s) = .ok s') :
    SameMemory s' ((records residue).discard p t) ∧ s'.vector = s.vector := by
  obtain ⟨block, handle⟩ := same
  unfold records
  dsimp only
  rw [← block]
  split at ran
  · rename_i held
    obtain ⟨allocated, rfl⟩ := discard_iff.1 ran
    have ran' : Loop.discard p residue t = .ok (Loop.discarded p residue t) := by
      rw [discard_iff, ← block, ← handle]
      exact ⟨allocated, rfl⟩
    rw [if_pos held, ran']
    refine ⟨⟨?_, ?_⟩, rfl⟩
    · show Function.update s.block p _ = Function.update t.block p _
      rw [block]
    · show Function.update s.handle _ none = Function.update t.handle _ none
      rw [block, handle]
  · rename_i bare
    cases ran
    rw [if_neg bare]
    exact ⟨⟨block, handle⟩, rfl⟩

/-- The removing loop on the lists does what the reverse iteration does on the vector. -/
theorem cleanupLoop_simulated (entries : s.vector k = xs ++ zs) (rep : Represents v (xs ++ zs)) (same : SameMemory s t)
    (left : (idx + 1).toNat = xs.length) (ran : cleanupLoop k id residue xs.length s = .ok s') :
    ∃ visits t' w, cleanupFrom (records residue) id grants idx t v = .ok (visits, t', w) ∧ Represents w (s'.vector k) ∧ SameMemory s' t' := by
  induction xs using List.reverseRecOn generalizing idx s t v zs with
  | nil =>
    obtain rfl : idx = 0xffff := by
      rw [List.length_nil] at left
      bv_omega
    rw [List.length_nil, cleanupLoop] at ran
    cases ran
    rw [← entries] at rep
    exact ⟨[], t, v, cleanupFrom_done, rep, same⟩
  | append_singleton xs p ih =>
    rw [List.append_assoc, List.singleton_append] at rep entries
    rw [List.length_append, List.length_singleton] at left ran
    obtain ⟨going, here, next⟩ := standing left
    rw [cleanupLoop_succ entries] at ran
    have seen : (records residue).id t p = (s.block p).contents.id := by rw [same.1]; rfl
    by_cases matched : (s.block p).contents.id = id
    · rw [if_pos matched] at ran
      obtain ⟨u, discarded, ran⟩ := bind_ok_iff.1 ran
      obtain ⟨same, unmoved⟩ := same.discard discarded
      obtain ⟨v', e, deleted, rest⟩ := rep.del here (grants idx)
      let removed : State := { u with vector := Function.update u.vector k ((u.vector k).eraseIdx xs.length) }
      have entries' : removed.vector k = xs ++ zs := by
        show Function.update u.vector k ((u.vector k).eraseIdx xs.length) k = _
        rw [Function.update_self, unmoved, entries, eraseIdx_middle]
      obtain ⟨visits, t', w, ran', rep', same'⟩ := ih (s := removed) entries' rest ⟨same.1, same.2⟩ next ran
      refine ⟨⟨idx.toNat, p, (records residue).id t p⟩ :: visits, t', w, ?_, rep', same'⟩
      rw [cleanupFrom_matched going (rep.get here) (seen.trans matched) deleted, ran']
      rfl
    · rw [if_neg matched] at ran
      obtain ⟨visits, t', w, ran', rep', same'⟩ := ih entries rep same next ran
      refine ⟨⟨idx.toNat, p, (records residue).id t p⟩ :: visits, t', w, ?_, rep', same'⟩
      rw [cleanupFrom_other going (rep.get here) (seen.trans_ne matched), ran']
      rfl

/-- **Simulation**: the cleanup of the lists of `State` is that of the vectors that hold them. -/
theorem cleanup_simulated (rep : Represents v (s.vector k)) (ran : Loop.cleanup k id residue s = .ok s') :
    ∃ visits t w, cleanup (records residue) id grants s v = .ok (visits, t, w) ∧ Represents w (s'.vector k) ∧ SameMemory s' t := by
  have left : (v.len - 1 + 1).toNat = (s.vector k).length := by rw [BitVec.sub_add_cancel, rep.len]
  rw [← List.append_nil (s.vector k)] at rep
  exact cleanupLoop_simulated (List.append_nil _).symm rep ⟨rfl, rfl⟩ left ran

end Simulation

end ArtikSdk.Loop.Vectors
