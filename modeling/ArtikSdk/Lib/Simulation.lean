import ArtikSdk.Lib.Run

/-!
# Services that do what an abstract machine says

An abstract machine is a relation between a state, an input, what it shows, and the next state. A service follows
it when each answered call of a state that is related to an abstract one is a step of the machine. A service that
keeps an invariant only under a condition keeps it in the runs whose calls meet that condition, also where the invariant
is about what the run has done so far.
-/

namespace Lib

variable {ε E S O A : Type}

/-- From `a` the machine takes the steps that the calls show, to `a'`. -/
inductive Follows (Next : A → E → O → A → Prop) : A → List (Call E S O) → A → Prop where
  | nil (a : A) : Follows Next a [] a
  | cons {a a' a'' : A} {c : Call E S O} {cs : List (Call E S O)} (next : Next a c.input c.output a') (rest : Follows Next a' cs a'') :
      Follows Next a (c :: cs) a''

variable {Next : A → E → O → A → Prop} {step : E → S → Except ε (S × O)} {s s' : S} {cs : List (Call E S O)} {a : A}

/-- **Simulation rule**: what every answered call that meets a condition does, a run of such calls does. -/
theorem Run.follows {R : S → A → Prop} {C : E → S → Prop} (run : Run step s cs s') (related : R s a) (fits : ∀ c ∈ cs, C c.input c.before)
    (simulates : ∀ e t t' o b, R t b → C e t → step e t = .ok (t', o) → ∃ b', Next b e o b' ∧ R t' b') :
    ∃ a', Follows Next a cs a' ∧ R s' a' := by
  induction run generalizing a with
  | nil s => exact ⟨a, .nil a, related⟩
  | cons answered _ ih =>
    rw [List.forall_mem_cons] at fits
    obtain ⟨b, next, between⟩ := simulates _ _ _ _ _ related fits.1 answered
    obtain ⟨a', rest, after⟩ := ih between fits.2
    exact ⟨a', .cons next rest, after⟩

/-- **Invariant rule** for runs whose calls meet a condition. -/
theorem Run.under {I : S → Prop} {C : E → S → Prop} (run : Run step s cs s') (start : I s) (fits : ∀ c ∈ cs, C c.input c.before)
    (keep : ∀ e t t' o, I t → C e t → step e t = .ok (t', o) → I t') : I s' := by
  induction run with
  | nil => exact start
  | cons answered _ ih =>
    rw [List.forall_mem_cons] at fits
    exact ih (keep _ _ _ _ start fits.1 answered) fits.2

/-- **History rule**: an invariant that may mention what the run has done, for runs whose calls meet a condition. -/
theorem Run.history {P : List (Call E S O) → S → Prop} {C : E → S → Prop} (run : Run step s cs s') (start : P [] s)
    (fits : ∀ c ∈ cs, C c.input c.before)
    (keep : ∀ ds e t t' o, P ds t → C e t → step e t = .ok (t', o) → P (ds ++ [⟨t, e, t', o⟩]) t') : P cs s' := by
  suffices ∀ ds, P ds s → P (ds ++ cs) s' from this [] start
  clear start
  induction run with
  | nil s =>
    intro ds here
    rw [List.append_nil]
    exact here
  | cons answered _ ih =>
    intro ds here
    rw [List.forall_mem_cons] at fits
    have next := ih fits.2 _ (keep ds _ _ _ _ here fits.1 answered)
    rwa [List.append_assoc] at next

end Lib
