import Mathlib.Tactic

/-!
# Runs

Two kinds of run. A *service* answers one input at a time and may fault; its runs are
the `Run` relation, which keeps the record of every call. A *procedure* consumes one
input of an infinite stream per round until it returns; `after` is its state or its
result after `n` rounds. For each kind the induction is packaged once: an invariant
that every step keeps holds after every run, and a procedure whose rank falls in
every round returns.
-/

namespace Lib

theorem map_ok_iff {ε α β : Type} {f : α → β} {x : Except ε α} {b : β} : x.map f = .ok b ↔ ∃ a, x = .ok a ∧ f a = b := by
  cases x <;> simp [Except.map]

theorem bind_ok_iff {ε α β : Type} {f : α → Except ε β} {x : Except ε α} {b : β} :
    (x >>= f) = .ok b ↔ ∃ a, x = .ok a ∧ f a = .ok b := by
  cases x with
  | error e =>
    constructor
    · intro h
      cases h
    · rintro ⟨a, h, -⟩
      cases h
  | ok a =>
    constructor
    · exact fun h => ⟨a, rfl, h⟩
    · rintro ⟨a', h, h'⟩
      cases h
      exact h'

/-- A list is mapped where each of its entries is. -/
theorem mapM_answers_iff {ε α β : Type} {f : α → Except ε β} {xs : List α} :
    (∃ ys, xs.mapM f = .ok ys) ↔ ∀ x ∈ xs, ∃ y, f x = .ok y := by
  induction xs with
  | nil => exact ⟨fun _ x member => (by cases member), fun _ => ⟨[], rfl⟩⟩
  | cons x xs ih =>
    rw [List.forall_mem_cons, ← ih]
    simp only [List.mapM_cons, bind_ok_iff]
    constructor
    · rintro ⟨ys, y, first, zs, rest, -⟩
      exact ⟨⟨y, first⟩, ⟨zs, rest⟩⟩
    · rintro ⟨⟨y, first⟩, ⟨zs, rest⟩⟩
      exact ⟨y :: zs, y, first, zs, rest, rfl⟩

/-! ## Services -/

section Service

variable {ε E S O : Type}

/-- One answered call: the state it found, its input, the state it left, its output. -/
structure Call (E S O : Type) where
  before : S
  input : E
  after : S
  output : O

/-- `Run step s cs s'`: from `s` the calls `cs` are answered in order, ending in `s'`. -/
inductive Run (step : E → S → Except ε (S × O)) : S → List (Call E S O) → S → Prop where
  | nil (s : S) : Run step s [] s
  | cons {s s' s'' : S} {e : E} {o : O} {cs : List (Call E S O)} :
      step e s = .ok (s', o) → Run step s' cs s'' → Run step s (⟨s, e, s', o⟩ :: cs) s''

/-- Some run leads from `s` to `s'`. -/
def Reachable (step : E → S → Except ε (S × O)) (s s' : S) : Prop := ∃ cs, Run step s cs s'

variable {step : E → S → Except ε (S × O)} {s s' s'' : S} {cs ds : List (Call E S O)}

theorem Run.append (h : Run step s cs s') (h' : Run step s' ds s'') : Run step s (cs ++ ds) s'' := by
  induction h with
  | nil => exact h'
  | cons answered _ ih => exact .cons answered (ih h')

theorem Run.split (h : Run step s (cs ++ ds) s'') : ∃ s', Run step s cs s' ∧ Run step s' ds s'' := by
  induction cs generalizing s with
  | nil => exact ⟨s, .nil s, h⟩
  | cons c cs ih =>
    cases h with
    | cons answered rest =>
      obtain ⟨mid, first, second⟩ := ih rest
      exact ⟨mid, .cons answered first, second⟩

/-- The call at the head of a run was answered in the state the run starts from. -/
theorem Run.head {c : Call E S O} (h : Run step s (c :: cs) s') :
    c.before = s ∧ step c.input c.before = .ok (c.after, c.output) ∧ Run step c.after cs s' := by
  cases h with
  | cons answered rest => exact ⟨rfl, answered, rest⟩

theorem Reachable.refl (step : E → S → Except ε (S × O)) (s : S) : Reachable step s s := ⟨[], .nil s⟩

theorem Reachable.snoc (h : Reachable step s s') {e : E} {o : O} (answered : step e s' = .ok (s'', o)) :
    Reachable step s s'' := by
  obtain ⟨cs, run⟩ := h
  exact ⟨_, run.append (.cons answered (.nil s''))⟩

/-- **Invariant rule**: what every answered call keeps, every run keeps. -/
theorem Run.invariant {I : S → Prop} (h : Run step s cs s') (start : I s)
    (keep : ∀ e t t' o, I t → step e t = .ok (t', o) → I t') : I s' := by
  induction h with
  | nil => exact start
  | cons answered _ ih => exact ih (keep _ _ _ _ start answered)

/-- The invariant holds before every call of the run, too. -/
theorem Run.invariant_before {I : S → Prop} (h : Run step s cs s') (start : I s)
    (keep : ∀ e t t' o, I t → step e t = .ok (t', o) → I t') {c : Call E S O} (member : c ∈ cs) :
    I c.before ∧ step c.input c.before = .ok (c.after, c.output) := by
  induction h with
  | nil => cases member
  | cons answered _ ih =>
    cases member with
    | head => exact ⟨start, answered⟩
    | tail _ member => exact ih (keep _ _ _ _ start answered) member

/-- Calls that leave the state as it was can be left out. -/
theorem Run.skip (h : Run step s cs s') (p : Call E S O → Bool) (idle : ∀ c ∈ cs, p c = false → c.after = c.before) :
    Run step s (cs.filter p) s' := by
  induction h with
  | nil s => exact .nil s
  | @cons s t s'' e o cs answered _ ih =>
    have rest := ih fun c member => idle c (List.mem_cons_of_mem _ member)
    cases kept : p ⟨s, e, t, o⟩ with
    | true =>
      rw [List.filter_cons_of_pos kept]
      exact .cons answered rest
    | false =>
      rw [List.filter_cons_of_neg (by rw [kept]; exact Bool.false_ne_true)]
      obtain rfl : t = s := idle _ (List.mem_cons_self ..) kept
      exact rest

/-- The run on a list of inputs, computed. -/
def exec (step : E → S → Except ε (S × O)) : List E → S → Except ε (List (Call E S O) × S)
  | [], s => .ok ([], s)
  | e :: es, s =>
    match step e s with
    | .error f => .error f
    | .ok (s', o) =>
      match exec step es s' with
      | .error f => .error f
      | .ok (cs, s'') => .ok (⟨s, e, s', o⟩ :: cs, s'')

theorem exec_run {es : List E} (h : exec step es s = .ok (cs, s')) : Run step s cs s' ∧ cs.map Call.input = es := by
  induction es generalizing s cs with
  | nil =>
    cases h
    exact ⟨.nil _, rfl⟩
  | cons e es ih =>
    rw [exec] at h
    split at h
    · cases h
    · rename_i t o answered
      split at h
      · cases h
      · rename_i ds t' rest
        cases h
        obtain ⟨run, inputs⟩ := ih rest
        exact ⟨.cons answered run, by rw [List.map_cons, inputs]⟩

theorem exec_append (es fs : List E) (s : S) :
    exec step (es ++ fs) s =
      match exec step es s with
      | .error f => .error f
      | .ok (cs, s') =>
        match exec step fs s' with
        | .error f => .error f
        | .ok (ds, s'') => .ok (cs ++ ds, s'') := by
  induction es generalizing s with
  | nil =>
    rw [List.nil_append, exec]
    dsimp only
    cases exec step fs s <;> rfl
  | cons e es ih =>
    rw [List.cons_append, exec, exec]
    cases step e s with
    | error f => rfl
    | ok p =>
      dsimp only
      rw [ih]
      cases exec step es p.1 with
      | error f => rfl
      | ok q =>
        dsimp only
        cases exec step fs q.2 <;> rfl

theorem exec_concat {es : List E} {e : E} (h : exec step (es ++ [e]) s = .ok (cs, s'')) :
    ∃ ds s' o, exec step es s = .ok (ds, s') ∧ step e s' = .ok (s'', o) ∧ cs = ds ++ [⟨s', e, s'', o⟩] := by
  rw [exec_append] at h
  split at h
  · cases h
  · rename_i ds t first
    split at h
    · cases h
    · rename_i ds' t' rest
      cases h
      rw [exec] at rest
      split at rest
      · cases rest
      · rename_i u o answered
        cases rest
        exact ⟨ds, t, o, first, answered, rfl⟩

/-- The calls of the run on `es` pass the test `q`. -/
def execTest (step : E → S → Except ε (S × O)) (es : List E) (s : S) (q : List (Call E S O) → Bool) : Bool :=
  match exec step es s with
  | .ok (cs, _) => q cs
  | .error _ => false

theorem execTest_run {es : List E} {q : List (Call E S O) → Bool} (h : execTest step es s q = true) :
    ∃ cs s', Run step s cs s' ∧ cs.map Call.input = es ∧ q cs = true := by
  unfold execTest at h
  split at h
  · rename_i cs s' result
    obtain ⟨run, inputs⟩ := exec_run result
    exact ⟨cs, s', run, inputs, h⟩
  · cases h

theorem execTest_result {es : List E} {q : List (Call E S O) → Bool} (h : execTest step es s q = true)
    (result : exec step es s = .ok (cs, s')) : q cs = true := by
  rw [execTest, result] at h
  exact h

/-- What is seen of a run: a view of each state and output, or the fault that stopped it. -/
def seen {V : Type} (view : S → O → V) (r : Except ε (List (Call E S O) × S)) : Except ε (List V) :=
  r.map fun p => p.1.map fun c => view c.after c.output

/-- **Two runs rule**: related states in which every input shows the same and leads to
related states show the same runs. -/
theorem exec_seen {V : Type} {view : S → O → V} {R : S → S → Prop} {es : List E}
    (same : ∀ e ∈ es, ∀ s t, R s t → (step e s).map (fun p => view p.1 p.2) = (step e t).map fun p => view p.1 p.2)
    (keep : ∀ e s t s' t' o o', R s t → step e s = .ok (s', o) → step e t = .ok (t', o') → view s' o = view t' o' → R s' t')
    {t : S} (related : R s t) : seen view (exec step es s) = seen view (exec step es t) := by
  induction es generalizing s t with
  | nil => rfl
  | cons e es ih =>
    have call := same e (List.mem_cons_self ..) s t related
    rw [exec, exec]
    cases left : step e s with
    | error f =>
      cases right : step e t with
      | error f' =>
        rw [left, right] at call
        cases call
        rfl
      | ok q =>
        rw [left, right] at call
        cases call
    | ok p =>
      cases right : step e t with
      | error f' =>
        rw [left, right] at call
        cases call
      | ok q =>
        rw [left, right] at call
        have shown := Except.ok.inj call
        have rest := ih (fun e member => same e (List.mem_cons_of_mem _ member)) (keep _ _ _ _ _ _ _ related left right shown)
        dsimp only
        cases restLeft : exec step es p.1 with
        | error f =>
          cases restRight : exec step es q.1 with
          | error f' =>
            rw [restLeft, restRight] at rest
            cases rest
            rfl
          | ok q' =>
            rw [restLeft, restRight] at rest
            cases rest
        | ok p' =>
          cases restRight : exec step es q.1 with
          | error f' =>
            rw [restLeft, restRight] at rest
            cases rest
          | ok q' =>
            rw [restLeft, restRight] at rest
            exact congrArg Except.ok (congrArg₂ List.cons shown (Except.ok.inj rest))

/-! ### Exact conditions -/

/-- On the way through the inputs every one of them meets `C` in the state that it finds. -/
def Along (C : E → S → Prop) (step : E → S → Except ε (S × O)) : List E → S → Prop
  | [], _ => True
  | e :: es, s => C e s ∧ ∀ s' o, step e s = .ok (s', o) → Along C step es s'

theorem Along.mono {C D : E → S → Prop} {es : List E} (weaker : ∀ e ∈ es, ∀ s, C e s → D e s) (along : Along C step es s) :
    Along D step es s := by
  induction es generalizing s with
  | nil => trivial
  | cons e es ih =>
    refine ⟨weaker e (List.mem_cons_self ..) s along.1, fun s' o answered => ?_⟩
    exact ih (fun e member => weaker e (List.mem_cons_of_mem _ member)) (along.2 s' o answered)

/-- **Exact condition rule**: where a call that starts in the invariant is answered with `P`
exactly under `C`, and then keeps the invariant, a run is answered with `P` throughout exactly
when every input meets `C`. -/
theorem exec_along_iff {I : S → Prop} {C : E → S → Prop} {P : Call E S O → Prop}
    (exactly : ∀ e s, I s → ((∃ s' o, step e s = .ok (s', o) ∧ P ⟨s, e, s', o⟩) ↔ C e s))
    (keep : ∀ e s s' o, I s → C e s → step e s = .ok (s', o) → I s') {es : List E} (start : I s) :
    (∃ cs s', exec step es s = .ok (cs, s') ∧ ∀ c ∈ cs, P c) ↔ Along C step es s := by
  induction es generalizing s with
  | nil => exact ⟨fun _ => trivial, fun _ => ⟨[], s, rfl, fun c member => by cases member⟩⟩
  | cons e es ih =>
    rw [Along, exec]
    constructor
    · rintro ⟨cs, s', ran, all⟩
      cases answered : step e s with
      | error f =>
        rw [answered] at ran
        cases ran
      | ok p =>
        rw [answered] at ran
        dsimp only at ran
        cases rest : exec step es p.1 with
        | error f =>
          rw [rest] at ran
          cases ran
        | ok q =>
          rw [rest] at ran
          cases ran
          have fits := (exactly e s start).1 ⟨p.1, p.2, answered, all _ (List.mem_cons_self ..)⟩
          refine ⟨fits, fun t o same => ?_⟩
          cases same
          exact (ih (keep e s _ _ start fits answered)).1 ⟨_, _, rest, fun c member => all c (List.mem_cons_of_mem _ member)⟩
    · rintro ⟨fits, further⟩
      obtain ⟨t, o, answered, first⟩ := (exactly e s start).2 fits
      obtain ⟨cs, s', ran, all⟩ := (ih (keep e s t o start fits answered)).2 (further t o answered)
      refine ⟨⟨s, e, t, o⟩ :: cs, s', by rw [answered]; dsimp only; rw [ran], fun c member => ?_⟩
      cases member with
      | head => exact first
      | tail _ member => exact all c member

/-- Where the condition of a call is enough for it to be answered, it decides over the run. -/
theorem exec_fits_iff {I : S → Prop} {C : E → S → Prop} (answers : ∀ e s, I s → C e s → ∃ s' o, step e s = .ok (s', o))
    (keep : ∀ e s s' o, I s → C e s → step e s = .ok (s', o) → I s') {es : List E} (start : I s) :
    (∃ cs s', exec step es s = .ok (cs, s') ∧ ∀ c ∈ cs, C c.input c.before) ↔ Along C step es s := by
  refine exec_along_iff (P := fun c => C c.input c.before) (fun e t inv => ?_) keep start
  constructor
  · rintro ⟨_, _, _, fits⟩
    exact fits
  · intro fits
    obtain ⟨t', o, answered⟩ := answers e t inv fits
    exact ⟨t', o, answered, fits⟩

/-- **Exact condition rule** for runs that were answered: where an answered call that starts in the
invariant has `P` exactly under `C`, and then keeps the invariant, all calls of a run have `P`
exactly when all of them meet `C`. -/
theorem Run.fits_iff {I : S → Prop} {C : E → S → Prop} {P : Call E S O → Prop}
    (exactly : ∀ e t t' o, I t → step e t = .ok (t', o) → (P ⟨t, e, t', o⟩ ↔ C e t))
    (keep : ∀ e t t' o, I t → C e t → step e t = .ok (t', o) → I t') (run : Run step s cs s') (start : I s) :
    (∀ c ∈ cs, P c) ↔ ∀ c ∈ cs, C c.input c.before := by
  induction run with
  | nil => exact ⟨fun _ c member => (by cases member), fun _ c member => (by cases member)⟩
  | cons answered _ ih =>
    rw [List.forall_mem_cons, List.forall_mem_cons, exactly _ _ _ _ start answered]
    exact and_congr_right fun fits => ih (keep _ _ _ _ start fits answered)

end Service

/-! ## Procedures -/

section Procedure

variable {E S R : Type}

/-- The state after `n` rounds on the input stream, or the result once returned. -/
def after (round : E → S → S ⊕ R) (env : Nat → E) (s : S) : Nat → S ⊕ R
  | 0 => .inl s
  | n + 1 =>
    match after round env s n with
    | .inl t => round (env n) t
    | .inr r => .inr r

/-- The procedure returns `r`. -/
def Returns (round : E → S → S ⊕ R) (env : Nat → E) (s : S) (r : R) : Prop :=
  ∃ n, after round env s n = .inr r

variable {round : E → S → S ⊕ R} {env : Nat → E} {s t : S} {r : R}

theorem after_succ {n : Nat} (h : after round env s n = .inl t) : after round env s (n + 1) = round (env n) t := by
  simp only [after, h]

/-- `r` is returned by round `n`, which starts from `t`. -/
def Last (round : E → S → S ⊕ R) (env : Nat → E) (s : S) (n : Nat) (t : S) (r : R) : Prop :=
  after round env s n = .inl t ∧ round (env n) t = .inr r

/-- A result was returned by some round. -/
theorem Returns.last (h : Returns round env s r) : ∃ n t, Last round env s n t r := by
  obtain ⟨n, h⟩ := h
  induction n with
  | zero => cases h
  | succ n ih =>
    cases earlier : after round env s n with
    | inl t => exact ⟨n, t, earlier, by rw [← after_succ earlier]; exact h⟩
    | inr r' =>
      simp only [after, earlier] at h
      cases h
      exact ih earlier

/-- A result stays. -/
theorem after_stays {m n : Nat} (returned : after round env s n = .inr r) (later : n ≤ m) : after round env s m = .inr r := by
  induction later with
  | refl => exact returned
  | step _ ih => simp only [after, ih]

/-- There is one last round. -/
theorem Last.unique {m n : Nat} {t' : S} {r' : R} (last : Last round env s m t r) (last' : Last round env s n t' r') : m = n ∧ t = t' := by
  have returned : after round env s (m + 1) = .inr r := by rw [after_succ last.1, last.2]
  have returned' : after round env s (n + 1) = .inr r' := by rw [after_succ last'.1, last'.2]
  obtain less | same | more := Nat.lt_trichotomy m n
  · have stays := after_stays returned less
    rw [last'.1] at stays
    cases stays
  · subst same
    exact ⟨rfl, Sum.inl.inj (last.1.symm.trans last'.1)⟩
  · have stays := after_stays returned' more
    rw [last.1] at stays
    cases stays

/-- Rounds that are the same on two input streams give the same run. -/
theorem after_congr {env' : Nat → E} (same : ∀ n t, round (env n) t = round (env' n) t) (s : S) (n : Nat) :
    after round env s n = after round env' s n := by
  induction n with
  | zero => rfl
  | succ n ih =>
    rw [after, after, ih]
    cases after round env' s n with
    | inl t => exact same n t
    | inr r => rfl

/-- The first `n` rounds do not see the input of round `n`. -/
theorem after_update (round : E → S → S ⊕ R) (env : Nat → E) (s : S) (n : Nat) (e : E) :
    after round (Function.update env n e) s n = after round env s n := by
  suffices ∀ k ≤ n, after round (Function.update env n e) s k = after round env s k from this n le_rfl
  intro k
  induction k with
  | zero => exact fun _ => rfl
  | succ k ih =>
    intro less
    rw [after, after, ih (by omega), Function.update_of_ne (by omega)]

/-- **Invariant rule** for procedures; the invariant may mention the round. -/
theorem after_invariant {I : Nat → S → Prop} (start : I 0 s)
    (keep : ∀ n t t', I n t → round (env n) t = .inl t' → I (n + 1) t') :
    ∀ n t, after round env s n = .inl t → I n t := by
  intro n
  induction n with
  | zero =>
    intro t h
    cases h
    exact start
  | succ n ih =>
    intro t h
    cases earlier : after round env s n with
    | inl u =>
      rw [after_succ earlier] at h
      exact keep n u t (ih u earlier) h
    | inr r' =>
      simp only [after, earlier] at h
      cases h

/-- **Rank rule**: from a round whose state is in `I` on, the rank falls until the
procedure returns. -/
theorem returns_of_rank {I : S → Prop} (rank : S → Nat)
    (falls : ∀ e t t', I t → round e t = .inl t' → I t' ∧ rank t' < rank t) :
    ∀ n t, after round env s n = .inl t → I t → ∃ r, Returns round env s r := by
  suffices ∀ k n t, rank t = k → after round env s n = .inl t → I t → ∃ r, Returns round env s r from
    fun n t => this (rank t) n t rfl
  intro k
  induction k using Nat.strongRecOn with
  | ind k ih =>
    intro n t size here inv
    cases next : round (env n) t with
    | inl t' =>
      obtain ⟨inv', less⟩ := falls _ _ _ inv next
      exact ih (rank t') (size ▸ less) (n + 1) t' rfl (by rw [after_succ here, next]) inv'
    | inr r => exact ⟨r, n + 1, by rw [after_succ here, next]⟩

/-- A procedure that can always go on never returns. -/
theorem not_returns_of_forever {I : Nat → S → Prop} (start : I 0 s)
    (goes : ∀ n t, I n t → ∃ t', round (env n) t = .inl t' ∧ I (n + 1) t') : ¬ ∃ r, Returns round env s r := by
  have always : ∀ n, ∃ t, after round env s n = .inl t ∧ I n t := by
    intro n
    induction n with
    | zero => exact ⟨s, rfl, start⟩
    | succ n ih =>
      obtain ⟨t, here, inv⟩ := ih
      obtain ⟨t', next, inv'⟩ := goes n t inv
      exact ⟨t', by rw [after_succ here, next], inv'⟩
  rintro ⟨r, n, h⟩
  obtain ⟨t, here, -⟩ := always n
  rw [here] at h
  cases h

end Procedure

end Lib
