import Mathlib.Tactic

/-!
# Computations that can fault

Stateful C code whose undefined steps are faults: `Checked ε σ α` reads and writes a
state `σ` and returns, or stops with a fault. The lemmas evaluate a computation one
step at a time and invert a successful one.
-/

namespace Lib

/-- A computation on the state `σ` that may stop with a fault `ε`. -/
abbrev Checked (ε σ : Type) := StateT σ (Except ε)

namespace Checked

variable {ε σ α β : Type}

/-- Stop with a fault. -/
def fault (e : ε) : Checked ε σ α := fun _ => .error e

/-- Run a computation that neither reads nor writes the state. -/
def lift (x : Except ε α) : Checked ε σ α := fun s =>
  match x with
  | .ok a => .ok (a, s)
  | .error e => .error e

@[simp] theorem pure_apply (a : α) (s : σ) : (pure a : Checked ε σ α) s = .ok (a, s) := rfl

@[simp] theorem fault_apply (e : ε) (s : σ) : (fault e : Checked ε σ α) s = .error e := rfl

@[simp] theorem get_apply (s : σ) : (get : Checked ε σ σ) s = .ok (s, s) := rfl

@[simp] theorem modify_apply (f : σ → σ) (s : σ) : (modify f : Checked ε σ PUnit) s = .ok (⟨⟩, f s) := rfl

@[simp] theorem lift_ok (a : α) (s : σ) : (lift (.ok a) : Checked ε σ α) s = .ok (a, s) := rfl

theorem bind_apply_of_ok {x : Checked ε σ α} {f : α → Checked ε σ β} {s s' : σ} {a : α} (h : x s = .ok (a, s')) :
    (x >>= f) s = f a s' := by
  simp only [bind, StateT.bind, h, Except.bind]

theorem bind_apply_of_error {x : Checked ε σ α} {f : α → Checked ε σ β} {s : σ} {e : ε} (h : x s = .error e) :
    (x >>= f) s = .error e := by
  simp only [bind, StateT.bind, h, Except.bind]

@[simp] theorem pure_bind_apply (a : α) (f : α → Checked ε σ β) (s : σ) : (pure a >>= f) s = f a s := rfl

@[simp] theorem get_bind_apply (f : σ → Checked ε σ β) (s : σ) : (get >>= f) s = f s s := rfl

@[simp] theorem modify_bind_apply (g : σ → σ) (f : PUnit → Checked ε σ β) (s : σ) : (modify g >>= f) s = f ⟨⟩ (g s) := rfl

/-- A successful sequence is two successful steps. -/
theorem bind_ok {x : Checked ε σ α} {f : α → Checked ε σ β} {s : σ} {r : β × σ} :
    (x >>= f) s = .ok r ↔ ∃ a s', x s = .ok (a, s') ∧ f a s' = .ok r := by
  constructor
  · intro h
    cases first : x s with
    | error e =>
      rw [bind_apply_of_error first] at h
      cases h
    | ok p =>
      rw [bind_apply_of_ok first] at h
      exact ⟨p.1, p.2, rfl, h⟩
  · rintro ⟨a, s', first, second⟩
    rw [bind_apply_of_ok first, second]

theorem lift_ok_inv {x : Except ε α} {s s' : σ} {a : α} (h : (lift x : Checked ε σ α) s = .ok (a, s')) :
    x = .ok a ∧ s' = s := by
  cases x with
  | error e => cases h
  | ok b =>
    cases h
    exact ⟨rfl, rfl⟩

/-! ## Which faults can occur -/

/-- From `s` the computation can only stop with an allowed fault. -/
def Only (allowed : ε → Prop) (x : Checked ε σ α) (s : σ) : Prop := ∀ e, x s = .error e → allowed e

variable {allowed : ε → Prop}

theorem only_of_ok {x : Checked ε σ α} {s : σ} {r : α × σ} (h : x s = .ok r) : Only allowed x s := by
  intro e stopped
  rw [h] at stopped
  cases stopped

theorem only_pure (a : α) (s : σ) : Only allowed (pure a : Checked ε σ α) s := only_of_ok rfl

/-- **Sequence rule**: what follows is looked at only in the states the first step leads to. -/
theorem Only.bind {x : Checked ε σ α} {f : α → Checked ε σ β} {s : σ} (first : Only allowed x s)
    (second : ∀ a s', x s = .ok (a, s') → Only allowed (f a) s') : Only allowed (x >>= f) s := by
  intro e stopped
  cases result : x s with
  | error e' =>
    rw [bind_apply_of_error result] at stopped
    cases stopped
    exact first _ result
  | ok r =>
    rw [bind_apply_of_ok result] at stopped
    exact second r.1 r.2 result e stopped

theorem only_get {f : σ → Checked ε σ β} {s : σ} (h : Only allowed (f s) s) : Only allowed (get >>= f) s := h

theorem Only.returns {x : Checked ε σ α} {s : σ} (h : Only allowed x s) : (∃ r, x s = .ok r) ∨ ∃ e, allowed e ∧ x s = .error e := by
  cases result : x s with
  | error e => exact Or.inr ⟨e, h e result, rfl⟩
  | ok r => exact Or.inl ⟨r, rfl⟩

/-! ## Two runs of one computation -/

/-- Two results agree: the same value and related states, or the same fault. -/
def Alike (R : σ → σ → Prop) : Except ε (α × σ) → Except ε (α × σ) → Prop
  | .ok (a, s), .ok (b, t) => a = b ∧ R s t
  | .error e, .error e' => e = e'
  | _, _ => False

/-- Started in related states, the computation gives results that agree. -/
def Same (R : σ → σ → Prop) (x : Checked ε σ α) : Prop := ∀ s t, R s t → Alike R (x s) (x t)

variable {R : σ → σ → Prop}

theorem same_pure (a : α) : Same R (pure a : Checked ε σ α) := fun _ _ h => ⟨rfl, h⟩

theorem same_fault (e : ε) : Same R (fault e : Checked ε σ α) := fun _ _ _ => rfl

theorem same_lift (x : Except ε α) : Same R (lift x : Checked ε σ α) := by
  intro s t h
  cases x with
  | ok a => exact ⟨rfl, h⟩
  | error e => rfl

theorem Same.bind {x : Checked ε σ α} {f : α → Checked ε σ β} (hx : Same R x) (hf : ∀ a, Same R (f a)) : Same R (x >>= f) := by
  intro s t h
  have first := hx s t h
  cases left : x s with
  | error e =>
    cases right : x t with
    | error e' =>
      rw [left, right] at first
      rw [bind_apply_of_error left, bind_apply_of_error right]
      exact first
    | ok q =>
      rw [left, right] at first
      exact first.elim
  | ok p =>
    cases right : x t with
    | error e' =>
      rw [left, right] at first
      exact first.elim
    | ok q =>
      rw [left, right] at first
      obtain ⟨value, related⟩ := first
      rw [bind_apply_of_ok left, bind_apply_of_ok right, value]
      exact hf q.1 p.2 q.2 related

/-- Reading the state: what is done with it must be the same in related states. -/
theorem same_get {f : σ → Checked ε σ β} (respects : ∀ s t, R s t → f s = f t) (hf : ∀ u, Same R (f u)) :
    Same R (get >>= f) := by
  intro s t h
  rw [get_bind_apply, get_bind_apply, respects s t h]
  exact hf t s t h

theorem Same.ite {p : Prop} [Decidable p] {x y : Checked ε σ α} (hx : Same R x) (hy : Same R y) : Same R (if p then x else y) := by
  split
  · exact hx
  · exact hy

/-! ## What every run keeps -/

/-- Every run that starts in a state with `P` and returns ends in one. -/
def Keeps (P : σ → Prop) (x : Checked ε σ α) : Prop := ∀ s r, P s → x s = .ok r → P r.2

variable {P : σ → Prop}

theorem keeps_pure (a : α) : Keeps P (pure a : Checked ε σ α) := by
  intro s r start returned
  cases returned
  exact start

theorem keeps_fault (e : ε) : Keeps P (fault e : Checked ε σ α) := by
  intro s r _ returned
  cases returned

theorem keeps_lift (x : Except ε α) : Keeps P (lift x : Checked ε σ α) := by
  intro s r start returned
  rw [(lift_ok_inv (a := r.1) returned).2]
  exact start

/-- **Sequence rule.** -/
theorem Keeps.bind {x : Checked ε σ α} {f : α → Checked ε σ β} (first : Keeps P x) (second : ∀ a, Keeps P (f a)) :
    Keeps P (x >>= f) := by
  intro s r start returned
  obtain ⟨a, s', left, right⟩ := bind_ok.1 returned
  exact second a s' r (first s _ start left) right

theorem keeps_get {f : σ → Checked ε σ β} (h : ∀ s, Keeps P (f s)) : Keeps P (get >>= f) :=
  fun s r start returned => h s s r start returned

theorem Keeps.ite {p : Prop} [Decidable p] {x y : Checked ε σ α} (hx : Keeps P x) (hy : Keeps P y) :
    Keeps P (if p then x else y) := by
  split
  · exact hx
  · exact hy

end Checked

end Lib
