/-!
# Computations that leave a trace

A computation that may fail, with what it touched on the way, in order. A property of all touches
is decided step by step, also for a computation with a parameter that its result does not depend
on.
-/

namespace Lib

structure Traced (ε τ α : Type) where
  result : Except ε α
  touches : List τ

section

variable {ε τ α β ι : Type}

/-- An error ends the computation, with what was touched so far. -/
def Traced.bind (x : Traced ε τ α) (f : α → Traced ε τ β) : Traced ε τ β :=
  match x.result with
  | .ok a => ⟨(f a).result, x.touches ++ (f a).touches⟩
  | .error e => ⟨.error e, x.touches⟩

instance : Monad (Traced ε τ) where
  pure a := ⟨.ok a, []⟩
  bind := Traced.bind

def touch (t : τ) : Traced ε τ Unit := ⟨.ok (), [t]⟩

/-- Nothing is touched. -/
def quiet (r : Except ε α) : Traced ε τ α := ⟨r, []⟩

variable {x : Traced ε τ α} {f : α → Traced ε τ β}

instance okDecidable {r : Except ε α} {Q : α → Prop} [∀ a, Decidable (Q a)] : Decidable (∀ a, r = .ok a → Q a) :=
  match r with
  | .ok a => decidable_of_iff (Q a) ⟨fun holds b same => by cases same; exact holds, fun all => all a rfl⟩
  | .error _ => isTrue nofun

theorem ok_bind (a : α) (h : α → Except ε β) : (Except.ok a >>= h) = h a := rfl

@[simp]
theorem pure_result (a : α) : (pure a : Traced ε τ α).result = .ok a := rfl

@[simp]
theorem touch_result (t : τ) : (touch t : Traced ε τ Unit).result = .ok () := rfl

@[simp]
theorem quiet_result (r : Except ε α) : (quiet r : Traced ε τ α).result = r := rfl

@[simp]
theorem bind_result : (x >>= f).result = x.result >>= fun a => (f a).result := by
  change (x.bind f).result = _
  rw [Traced.bind]
  cases x.result with
  | error e => rfl
  | ok a => rfl

/-- What was touched before a computation goes on stays in front of the rest. -/
theorem ok_touches_bind (a : α) (ts : List τ) : ((⟨.ok a, ts⟩ : Traced ε τ α) >>= f) = ⟨(f a).result, ts ++ (f a).touches⟩ := rfl

/-! ## All touches -/

def Traced.All (P : τ → Prop) (x : Traced ε τ α) : Prop := ∀ t ∈ x.touches, P t

variable {P : τ → Prop}

theorem all_pure (a : α) : (pure a : Traced ε τ α).All P := List.forall_mem_nil _

theorem all_quiet (r : Except ε α) : (quiet r : Traced ε τ α).All P := List.forall_mem_nil _

theorem all_touch {t : τ} : (touch t : Traced ε τ Unit).All P ↔ P t := List.forall_mem_singleton

theorem all_bind : (x >>= f).All P ↔ x.All P ∧ ∀ a, x.result = .ok a → (f a).All P := by
  change (∀ t ∈ (x.bind f).touches, P t) ↔ _
  rw [Traced.bind]
  cases x.result with
  | error e => exact ⟨fun all => ⟨all, nofun⟩, And.left⟩
  | ok a =>
    simp only [List.forall_mem_append]
    exact and_congr_right fun _ => ⟨fun all b same => by cases same; exact all, fun all => all a rfl⟩

/-! ## Whatever the parameter is -/

/-- All touches are as they should be for every parameter that is allowed. -/
def Always (A : ι → Prop) (P : τ → Prop) (x : ι → Traced ε τ α) : Prop := ∀ i, A i → (x i).All P

variable {A : ι → Prop} {y : ι → Traced ε τ α} {g : ι → α → Traced ε τ β}

theorem always_pure (a : α) : Always A P fun _ => (pure a : Traced ε τ α) := fun _ _ => all_pure a

theorem always_quiet (r : Except ε α) : Always A P fun _ => (quiet r : Traced ε τ α) := fun _ _ => all_quiet r

/-- **Sequence rule** -/
theorem always_bind {r : Except ε α} (result : ∀ i, (y i).result = r) :
    Always A P (fun i => y i >>= g i) ↔ Always A P y ∧ ∀ a, r = .ok a → Always A P fun i => g i a := by
  simp only [Always, all_bind, result]
  constructor
  · intro all
    exact ⟨fun i allowed => (all i allowed).1, fun a same i allowed => (all i allowed).2 a same⟩
  · rintro ⟨first, rest⟩ i allowed
    exact ⟨first i allowed, fun a same => rest a same i allowed⟩

/-- A touch that does not depend on the parameter, of which some value is allowed. -/
theorem always_touch {t : τ} {i : ι} (allowed : A i) : Always A P (fun _ => (touch t : Traced ε τ Unit)) ↔ P t := by
  constructor
  · exact fun all => all_touch.1 (all i allowed)
  · exact fun holds _ _ => all_touch.2 holds

end

end Lib
