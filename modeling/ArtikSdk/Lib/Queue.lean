import ArtikSdk.Lib.Run

/-!
# Queues

A service that passes messages on, seen as a queue: what waits in a state, what a call takes
in, and what it gives out. A call that conserves the queue gives out from its head and takes in
at its end. When every call conserves it, a run does. When a call can only conserve the queue or
lose from it, the lengths alone tell: what one call loses no later call makes up for.
-/

namespace Lib

variable {ε E S O α : Type}

/-- A service seen as a queue. -/
structure Traffic (E S O α : Type) where
  waiting : S → List α
  taken : Call E S O → List α
  given : Call E S O → List α

namespace Traffic

variable (t : Traffic E S O α)

def Conserves (c : Call E S O) : Prop := t.waiting c.before ++ t.taken c = t.given c ++ t.waiting c.after

def Loses (c : Call E S O) : Prop :=
  (t.given c).length + (t.waiting c.after).length < (t.waiting c.before).length + (t.taken c).length

variable {t} {step : E → S → Except ε (S × O)} {s s' : S} {cs : List (Call E S O)}

theorem Conserves.length {c : Call E S O} (h : t.Conserves c) :
    (t.given c).length + (t.waiting c.after).length = (t.waiting c.before).length + (t.taken c).length := by
  rw [← List.length_append, ← List.length_append, h]

theorem Loses.not_conserves {c : Call E S O} (lost : t.Loses c) : ¬ t.Conserves c := by
  intro kept
  have length := kept.length
  unfold Loses at lost
  omega

/-- **First in, first out.** -/
theorem run_conserves (run : Run step s cs s') (each : ∀ c ∈ cs, t.Conserves c) :
    t.waiting s ++ cs.flatMap t.taken = cs.flatMap t.given ++ t.waiting s' := by
  induction run with
  | nil => exact List.append_nil _
  | cons _ _ ih =>
    have first := each _ (List.mem_cons_self ..)
    have rest := ih fun c member => each c (List.mem_cons_of_mem _ member)
    unfold Conserves at first
    rw [List.flatMap_cons, List.flatMap_cons, ← List.append_assoc, first, List.append_assoc, rest, List.append_assoc]

theorem run_length (run : Run step s cs s') (either : ∀ c ∈ cs, t.Conserves c ∨ t.Loses c) :
    (cs.flatMap t.given).length + (t.waiting s').length ≤ (t.waiting s).length + (cs.flatMap t.taken).length := by
  induction run with
  | nil => exact Nat.le_of_eq (Nat.add_comm _ _)
  | cons _ _ ih =>
    have rest := ih fun c member => either c (List.mem_cons_of_mem _ member)
    rw [List.flatMap_cons, List.flatMap_cons, List.length_append, List.length_append]
    rcases either _ (List.mem_cons_self ..) with kept | lost
    · have first := kept.length
      dsimp only at first
      omega
    · unfold Loses at lost
      dsimp only at lost
      omega

/-- Where nothing is missing in the end, no call has lost anything. -/
theorem conserves_of_length (run : Run step s cs s') (either : ∀ c ∈ cs, t.Conserves c ∨ t.Loses c)
    (all : (cs.flatMap t.given).length + (t.waiting s').length = (t.waiting s).length + (cs.flatMap t.taken).length) :
    ∀ c ∈ cs, t.Conserves c := by
  induction run with
  | nil => exact fun c member => by cases member
  | cons answered further ih =>
    have others := fun c member => either c (List.mem_cons_of_mem _ member)
    have bound := run_length further others
    rw [List.flatMap_cons, List.flatMap_cons, List.length_append, List.length_append] at all
    rcases either _ (List.mem_cons_self ..) with kept | lost
    · have first := kept.length
      dsimp only at first
      have rest := ih others (by omega)
      intro c member
      cases member with
      | head => exact kept
      | tail _ member => exact rest c member
    · unfold Loses at lost
      dsimp only at lost
      omega

theorem given_eq (run : Run step s cs s') (each : ∀ c ∈ cs, t.Conserves c) (start : t.waiting s = [])
    (final : t.waiting s' = []) : cs.flatMap t.given = cs.flatMap t.taken := by
  have whole := run_conserves run each
  rw [start, final, List.append_nil, List.nil_append] at whole
  exact whole.symm

/-- **Exactly the messages taken in.** In a run between two states in which nothing waits, as
many messages are given out as taken in exactly when every call conserves the queue, and then
they are the same messages in the same order. -/
theorem given_length_iff (run : Run step s cs s') (either : ∀ c ∈ cs, t.Conserves c ∨ t.Loses c) (start : t.waiting s = [])
    (final : t.waiting s' = []) :
    (cs.flatMap t.given).length = (cs.flatMap t.taken).length ↔ ∀ c ∈ cs, t.Conserves c := by
  constructor
  · intro length
    exact conserves_of_length run either (by rw [start, final, length, Nat.add_comm])
  · intro each
    rw [given_eq run each start final]

end Traffic

/-- Families of messages, one by one of the same length, are the same list only one by one. -/
theorem flatMap_eq_iff {β : Type} {f g : α → List β} {xs : List α} (length : ∀ x ∈ xs, (f x).length = (g x).length) :
    xs.flatMap f = xs.flatMap g ↔ ∀ x ∈ xs, f x = g x := by
  constructor
  · intro same
    induction xs with
    | nil => exact fun x member => (List.not_mem_nil member).elim
    | cons x xs ih =>
      rw [List.flatMap_cons, List.flatMap_cons] at same
      obtain ⟨first, rest⟩ := List.append_inj same (length x (List.mem_cons_self ..))
      exact List.forall_mem_cons.2 ⟨first, ih (fun y member => length y (List.mem_cons_of_mem _ member)) rest⟩
  · intro each
    exact List.flatMap_congr each

end Lib
