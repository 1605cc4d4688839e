import Mathlib.Tactic

/-!
# Address pools

What a lease table is for, over any addresses `ι`, clients `κ` and times `τ`. Each
address is free or held until a deadline, by a client or by nobody (a barred address).
A client takes an address it already holds, or, holding none, one whose deadline has
passed; a holder gives its address up; a passed deadline frees an address. Two facts
follow for every run: no client holds two addresses, and an address held until `D` is
taken by no other client before `D`, provided the holder neither gives it up nor
replaces its deadline by an earlier one.
-/

namespace Lib

variable {ι κ τ : Type}

/-- A hold on an address: by a client, or by nobody, until the deadline. -/
structure Hold (κ τ : Type) where
  owner : Option κ
  deadline : τ

/-- The hold on each address; `none` where the address is free. -/
abbrev Pool (ι κ τ : Type) := ι → Option (Hold κ τ)

namespace Pool

/-- The client that holds address `i`. -/
def owner (p : Pool ι κ τ) (i : ι) : Option κ := (p i).bind Hold.owner

/-- No hold on address `i` lasts beyond `t`. -/
def Open [LE τ] (p : Pool ι κ τ) (i : ι) (t : τ) : Prop := ∀ h, p i = some h → h.deadline ≤ t

/-- What can happen to a pool. `take i c t d`: at time `t` the client `c` (or nobody)
gets address `i` until `d`. `drop c i h`: `c` gives `i` up, leaving the hold `h`.
`lapse i t`: at time `t` address `i` is freed. -/
inductive Act (ι κ τ : Type) where
  | take (i : ι) (c : Option κ) (t d : τ)
  | drop (c : Option κ) (i : ι) (h : Option (Hold κ τ))
  | lapse (i : ι) (t : τ)
  | idle

section Steps

variable [DecidableEq ι]

theorem owner_update (p : Pool ι κ τ) (i j : ι) (h : Option (Hold κ τ)) :
    owner (Function.update p i h) j = if j = i then h.bind Hold.owner else p.owner j := by
  unfold owner Function.update
  split
  · rename_i e
    subst e
    rfl
  · rfl

/-- No client holds two addresses. -/
def Unique (p : Pool ι κ τ) : Prop := ∀ c i j, p.owner i = some c → p.owner j = some c → i = j

/-- Replacing one hold keeps holders unique, where the new holder holds nothing else. -/
theorem Unique.update {p : Pool ι κ τ} (unique : p.Unique) {i : ι} {h : Option (Hold κ τ)}
    (alone : ∀ c, h.bind Hold.owner = some c → ∀ j, p.owner j = some c → j = i) :
    Unique (Function.update p i h) := by
  intro c j k hj hk
  rw [owner_update] at hj hk
  split at hj <;> split at hk
  · rename_i ej ek
    rw [ej, ek]
  · rename_i ej _
    rw [ej, alone c hj k hk]
  · rename_i _ ek
    rw [ek, alone c hk j hj]
  · exact unique c j k hj hk

variable [LE τ]

/-- When each act is allowed, and what it does. -/
inductive Step : Act ι κ τ → Pool ι κ τ → Pool ι κ τ → Prop where
  | take {p : Pool ι κ τ} {i : ι} {c : Option κ} {t d : τ}
      (may : p.owner i = c ∨ (∀ m, c = some m → ∀ j, p.owner j ≠ some m) ∧ p.Open i t) :
      Step (.take i c t d) p (Function.update p i (some ⟨c, d⟩))
  | drop {p : Pool ι κ τ} {i : ι} {c : Option κ} {h : Option (Hold κ τ)}
      (holder : p.owner i = c) (left : h.bind Hold.owner = none) :
      Step (.drop c i h) p (Function.update p i h)
  | lapse {p : Pool ι κ τ} {i : ι} {t : τ} (passed : p.Open i t) :
      Step (.lapse i t) p (Function.update p i none)
  | idle {p : Pool ι κ τ} : Step .idle p p

/-- Runs, with the acts in order. -/
inductive Steps : List (Act ι κ τ) → Pool ι κ τ → Pool ι κ τ → Prop where
  | nil (p : Pool ι κ τ) : Steps [] p p
  | cons {a : Act ι κ τ} {as : List (Act ι κ τ)} {p q r : Pool ι κ τ} :
      Step a p q → Steps as q r → Steps (a :: as) p r

theorem Step.unique {a : Act ι κ τ} {p q : Pool ι κ τ} (step : Step a p q) (unique : p.Unique) : q.Unique := by
  cases step with
  | take may =>
    apply unique.update
    intro m named j holds
    cases named
    rcases may with held | ⟨nothing, -⟩
    · exact unique _ _ _ holds held
    · exact absurd holds (nothing m rfl j)
  | drop _ left =>
    apply unique.update
    intro c named
    rw [left] at named
    cases named
  | lapse =>
    apply unique.update
    intro c named
    cases named
  | idle => exact unique

end Steps

section Guard

variable [LE τ]

/-- Address `i` is held by `m` at least until `D`. -/
def Guarded (p : Pool ι κ τ) (m : κ) (i : ι) (D : τ) : Prop := ∃ d, p i = some ⟨some m, d⟩ ∧ D ≤ d

theorem Guarded.owner {p : Pool ι κ τ} {m : κ} {i : ι} {D : τ} (h : p.Guarded m i D) : p.owner i = some m := by
  obtain ⟨d, held, -⟩ := h
  simp [Pool.owner, held]

/-- The act gives address `i` to somebody, or frees it, at time `t`. -/
def Act.At (a : Act ι κ τ) (i : ι) (t : τ) : Prop :=
  (∃ c d, a = .take i c t d) ∨ a = .lapse i t

/-- A holder that takes its address again does not bring the deadline forward. -/
def Keeps (p : Pool ι κ τ) (a : Act ι κ τ) : Prop :=
  ∀ i c t d e, a = .take i (some c) t d → p i = some ⟨some c, e⟩ → e ≤ d

end Guard

variable [DecidableEq ι] [Preorder τ] {p q : Pool ι κ τ} {a : Act ι κ τ} {m : κ} {i : ι} {D : τ}

/-- A guarded address passes to another client, or becomes free, only at or after `D`. -/
theorem Step.guard (step : Step a p q) (guarded : p.Guarded m i D) {t : τ}
    (away : (∃ c d, c ≠ some m ∧ a = .take i c t d) ∨ a = .lapse i t) : D ≤ t := by
  have held := guarded.owner
  obtain ⟨e, here, least⟩ := guarded
  rcases away with ⟨c, d, other, rfl⟩ | rfl
  · cases step with
    | take may =>
      rcases may with same | ⟨-, passed⟩
      · exact absurd (same.symm.trans held) other
      · exact least.trans (passed _ here)
  · cases step with
    | lapse passed => exact least.trans (passed _ here)

/-- Every step keeps a guard, unless the holder gives the address up or `D` has passed. -/
theorem Step.guarded (step : Step a p q) (guarded : p.Guarded m i D) (keeps : Keeps p a)
    (kept : ∀ h, a ≠ .drop (some m) i h) : q.Guarded m i D ∨ ∃ t, a.At i t ∧ D ≤ t := by
  have held := guarded.owner
  cases step with
  | @take _ j c t d may =>
    by_cases same : j = i
    · subst same
      by_cases mine : c = some m
      · subst mine
        obtain ⟨e, here, least⟩ := guarded
        exact Or.inl ⟨d, by simp, least.trans (keeps j m t d e rfl here)⟩
      · exact Or.inr ⟨t, Or.inl ⟨c, d, rfl⟩, Step.guard (.take may) guarded (Or.inl ⟨c, d, mine, rfl⟩)⟩
    · obtain ⟨e, here, least⟩ := guarded
      exact Or.inl ⟨e, by rw [Function.update_of_ne (Ne.symm same), here], least⟩
  | @drop _ j c h holder left =>
    by_cases same : j = i
    · subst same
      rw [held] at holder
      subst holder
      exact absurd rfl (kept h)
    · obtain ⟨e, here, least⟩ := guarded
      exact Or.inl ⟨e, by rw [Function.update_of_ne (Ne.symm same), here], least⟩
  | @lapse _ j t passed =>
    by_cases same : j = i
    · subst same
      exact Or.inr ⟨t, Or.inr rfl, Step.guard (.lapse passed) guarded (Or.inr rfl)⟩
    · obtain ⟨e, here, least⟩ := guarded
      exact Or.inl ⟨e, by rw [Function.update_of_ne (Ne.symm same), here], least⟩
  | idle => exact Or.inl guarded

theorem Steps.unique {as : List (Act ι κ τ)} (steps : Steps as p q) (unique : p.Unique) : q.Unique := by
  induction steps with
  | nil => exact unique
  | cons step _ ih => exact ih (step.unique unique)

end Pool

end Lib
