import ArtikSdk.Lib.Checked

/-!
# Objects that are allocated and freed

A ledger has the life of every object and counts what was asked for and released. Using or freeing
an object that is not there is a fault, so in a run without one no object is freed twice. `Goes` is
the weakest precondition of a computation that returns, `Leaves` that of one with an exit of its
own. Both are equivalences, so that they also say when a run is not as it should be.
-/

namespace Lib

/-! ## Weakest preconditions -/

namespace Checked

variable {ε σ α β : Type} {Q : α → σ → Prop} {s : σ}

/-- The computation returns, with a result and a state as required. -/
def Goes (x : Checked ε σ α) (Q : α → σ → Prop) (s : σ) : Prop := ∃ a s', x s = .ok (a, s') ∧ Q a s'

@[simp] theorem goes_pure {a : α} : Goes (pure a : Checked ε σ α) Q s ↔ Q a s := by
  constructor
  · rintro ⟨b, s', returned, holds⟩
    cases returned
    exact holds
  · exact fun holds => ⟨a, s, rfl, holds⟩

@[simp] theorem goes_fault {e : ε} : ¬ Goes (fault e : Checked ε σ α) Q s := by
  rintro ⟨a, s', returned, -⟩
  cases returned

/-- **Sequence rule**. -/
@[simp] theorem goes_bind {x : Checked ε σ β} {f : β → Checked ε σ α} :
    Goes (x >>= f) Q s ↔ Goes x (fun b s' => Goes (f b) Q s') s := by
  constructor
  · rintro ⟨a, s'', returned, holds⟩
    obtain ⟨b, s', first, second⟩ := bind_ok.1 returned
    exact ⟨b, s', first, a, s'', second, holds⟩
  · rintro ⟨b, s', first, a, s'', second, holds⟩
    exact ⟨a, s'', bind_ok.2 ⟨b, s', first, second⟩, holds⟩

theorem goes_ite {p : Prop} [Decidable p] {x y : Checked ε σ α} :
    Goes (if p then x else y) Q s ↔ if p then Goes x Q s else Goes y Q s := by
  split <;> rfl

end Checked

open Checked

/-- Steps that may leave for the exit. -/
abbrev Steps (ε σ ρ : Type) := ExceptT ρ (Checked ε σ)

section

variable {ε σ ρ α β : Type} {Q : Except ρ α → σ → Prop} {s : σ}

/-- The steps end, or leave for the exit, as required. -/
def Leaves (x : Steps ε σ ρ α) (Q : Except ρ α → σ → Prop) (s : σ) : Prop := Goes x.run Q s

@[simp] theorem leaves_pure {a : α} : Leaves (pure a : Steps ε σ ρ α) Q s ↔ Q (.ok a) s := goes_pure

@[simp] theorem leaves_throw {e : ρ} : Leaves (throw e : Steps ε σ ρ α) Q s ↔ Q (.error e) s := goes_pure

@[simp] theorem leaves_lift {x : Checked ε σ α} :
    Leaves (liftM x : Steps ε σ ρ α) Q s ↔ Goes x (fun a => Q (.ok a)) s := by
  change Goes (x >>= fun a => pure (.ok a)) Q s ↔ _
  rw [goes_bind]
  simp only [goes_pure]

/-- What is required of the first steps: what is required of the others, or of the exit. -/
def Onward (Q : Except ρ α → σ → Prop) (R : β → σ → Prop) : Except ρ β → σ → Prop
  | .ok b, s => R b s
  | .error e, s => Q (.error e) s

@[simp] theorem onward_ok {R : β → σ → Prop} {b : β} : Onward Q R (.ok b) s ↔ R b s := Iff.rfl

@[simp] theorem onward_error {R : β → σ → Prop} {e : ρ} : Onward Q R (.error e) s ↔ Q (.error e) s := Iff.rfl

/-- **Sequence rule**: what left for the exit is not continued. -/
@[simp] theorem leaves_bind {x : Steps ε σ ρ β} {f : β → Steps ε σ ρ α} :
    Leaves (x >>= f) Q s ↔ Leaves x (Onward Q fun b s' => Leaves (f b) Q s') s := by
  change Goes (x.run >>= fun r => ExceptT.bindCont f r) Q s ↔ _
  rw [goes_bind, Leaves]
  refine exists_congr fun r => exists_congr fun s' => and_congr_right fun _ => ?_
  cases r with
  | ok b => rfl
  | error e => exact goes_pure

@[simp] theorem leaves_ite {p : Prop} [Decidable p] {x y : Steps ε σ ρ α} :
    Leaves (if p then x else y) Q s ↔ if p then Leaves x Q s else Leaves y Q s := by
  split <;> rfl

end

/-! ## The ledger -/

/-- What has become of an object. -/
inductive Life where
  | unborn
  | live
  | freed
deriving DecidableEq, Repr

/-- The use of an object: through a null pointer, or after it was freed. -/
inductive Misuse where
  | null
  | freed
deriving DecidableEq, Repr

/-- The lives of the objects, and how often what is counted was asked for and released. -/
@[ext] structure Ledger (O K : Type) where
  life : O → Life
  asked : K → Nat
  released : K → Nat

namespace Ledger

variable {O K : Type}

/-- Nothing has been allocated or asked for. -/
def start : Ledger O K := ⟨fun _ => .unborn, fun _ => 0, fun _ => 0⟩

/-- As often released as asked for. -/
def Balanced (m : Ledger O K) : Prop := ∀ k, m.asked k = m.released k

variable {m : Ledger O K} {o o' : O} {l : Life} {k k' : K} {Q : Unit → Ledger O K → Prop}

/-- Read or write the object. -/
def use (o : O) : Checked Misuse (Ledger O K) Unit := do
  match (← get).life o with
  | .unborn => fault .null
  | .live => pure ()
  | .freed => fault .freed

/-- Whether the pointer to the object is not null. -/
def isSet (o : O) : Checked Misuse (Ledger O K) Bool := do
  pure ((← get).life o != .unborn)

@[simp] theorem goes_use : Goes (use o) Q m ↔ m.life o = .live ∧ Q () m := by
  change Goes (match m.life o with
    | .unborn => (fault Misuse.null : Checked Misuse (Ledger O K) Unit)
    | .live => pure ()
    | .freed => fault Misuse.freed) Q m ↔ _
  cases m.life o <;> simp

@[simp] theorem goes_isSet {Q : Bool → Ledger O K → Prop} : Goes (isSet o) Q m ↔ Q (m.life o != .unborn) m :=
  goes_pure

@[simp] theorem goes_modify {f : Ledger O K → Ledger O K} :
    Goes (modify f : Checked Misuse (Ledger O K) Unit) Q m ↔ Q () (f m) := by
  constructor
  · rintro ⟨a, m', returned, holds⟩
    cases returned
    exact holds
  · exact fun holds => ⟨(), f m, rfl, holds⟩

/-- Hand the objects to a function that uses them. -/
def useAll (os : List O) : Checked Misuse (Ledger O K) Unit := forM os use

@[simp] theorem goes_useAll {os : List O} : Goes (useAll os) Q m ↔ (∀ o ∈ os, m.life o = .live) ∧ Q () m := by
  induction os with
  | nil =>
    rw [useAll, List.forM_nil, goes_pure]
    exact ⟨fun holds => ⟨fun _ member => (List.not_mem_nil member).elim, holds⟩, And.right⟩
  | cons o os ih =>
    rw [useAll, List.forM_cons, goes_bind, goes_use, List.forall_mem_cons, and_assoc]
    exact and_congr_right fun _ => ih

section

variable [DecidableEq O]

def become (m : Ledger O K) (o : O) (l : Life) : Ledger O K := { m with life := Function.update m.life o l }

@[simp] theorem become_life : (m.become o l).life o' = if o' = o then l else m.life o' := Function.update_apply ..

@[simp] theorem become_asked : (m.become o l).asked = m.asked := rfl

@[simp] theorem become_released : (m.become o l).released = m.released := rfl

@[simp] theorem become_balanced : (m.become o l).Balanced ↔ m.Balanced := Iff.rfl

/-- Free the object, which is not null. -/
def free (o : O) : Checked Misuse (Ledger O K) Unit := do
  use o
  modify fun m => m.become o .freed

theorem become_live (live : m.life o = .live) : m.become o .live = m := by
  unfold become
  rw [← live, Function.update_eq_self]

/-- An object that is there if it is given. -/
def give (m : Ledger O K) (o : O) (given : Bool) : Ledger O K := if given then m.become o .live else m

@[simp] theorem give_true : m.give o true = m.become o .live := rfl

@[simp] theorem give_false : m.give o false = m := rfl

@[simp] theorem give_life {given : Bool} : (m.give o given).life o' = if o' = o ∧ given then .live else m.life o' := by
  cases given <;> simp

@[simp] theorem give_asked {given : Bool} : (m.give o given).asked = m.asked := by
  cases given <;> rfl

@[simp] theorem give_released {given : Bool} : (m.give o given).released = m.released := by
  cases given <;> rfl

/-- Allocate the object, where there is memory. -/
def alloc (o : O) (given : Bool) : Checked Misuse (Ledger O K) Unit := modify fun m => m.give o given

@[simp] theorem goes_free : Goes (free o) Q m ↔ m.life o = .live ∧ Q () (m.become o .freed) := by
  rw [free, goes_bind, goes_use]
  exact and_congr_right fun _ => goes_modify

/-- Free those of the objects that are live. -/
def drop (m : Ledger O K) (os : List O) : Ledger O K :=
  { m with life := fun o => if o ∈ os ∧ m.life o = .live then .freed else m.life o }

@[simp] theorem drop_life {os : List O} : (m.drop os).life o = if o ∈ os ∧ m.life o = .live then .freed else m.life o := rfl

@[simp] theorem drop_asked {os : List O} : (m.drop os).asked = m.asked := rfl

@[simp] theorem drop_balanced {os : List O} : (m.drop os).Balanced ↔ m.Balanced := Iff.rfl

@[simp] theorem drop_released {os : List O} : (m.drop os).released = m.released := rfl

theorem drop_drop {os os' : List O} : (m.drop os).drop os' = m.drop (os ++ os') := by
  unfold drop
  congr 1
  funext o
  by_cases first : o ∈ os ∧ m.life o = .live
  · simp [first]
  · by_cases live : m.life o = .live
    · have absent : o ∉ os := fun member => first ⟨member, live⟩
      simp [absent, live]
    · simp [live]

theorem become_freed (live : m.life o = .live) : m.become o .freed = m.drop [o] := by
  unfold become drop
  congr 1
  funext o'
  rw [Function.update_apply]
  by_cases same : o' = o
  · simp [same, live]
  · simp [same]

theorem drop_dead (dead : m.life o ≠ .live) : m.drop [o] = m := by
  unfold drop
  cases m
  congr 1
  funext o'
  by_cases same : o' = o
  · subst same
    simp [show ¬ _ = Life.live from dead]
  · simp [same]

@[simp] theorem goes_alloc {given : Bool} : Goes (alloc o given) Q m ↔ Q () (m.give o given) := goes_modify

end

section

variable [DecidableEq K]

def countAsked (m : Ledger O K) (k : K) : Ledger O K := { m with asked := Function.update m.asked k (m.asked k + 1) }

def countReleased (m : Ledger O K) (k : K) : Ledger O K := { m with released := Function.update m.released k (m.released k + 1) }

@[simp] theorem countAsked_life : (m.countAsked k).life = m.life := rfl

@[simp] theorem countAsked_asked : (m.countAsked k).asked k' = if k' = k then m.asked k + 1 else m.asked k' := Function.update_apply ..

@[simp] theorem countAsked_released : (m.countAsked k).released = m.released := rfl

@[simp] theorem countReleased_life : (m.countReleased k).life = m.life := rfl

@[simp] theorem countReleased_asked : (m.countReleased k).asked = m.asked := rfl

@[simp] theorem countReleased_released :
    (m.countReleased k).released k' = if k' = k then m.released k + 1 else m.released k' := Function.update_apply ..

def ask (k : K) : Checked Misuse (Ledger O K) Unit := modify fun m => m.countAsked k

def release (k : K) : Checked Misuse (Ledger O K) Unit := modify fun m => m.countReleased k

@[simp] theorem goes_ask : Goes (ask k) Q m ↔ Q () (m.countAsked k) := goes_modify

@[simp] theorem goes_release : Goes (release k) Q m ↔ Q () (m.countReleased k) := goes_modify

end

end Ledger

end Lib
