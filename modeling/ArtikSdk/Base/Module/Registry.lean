import ArtikSdk.Base.ArtikSequence
import ArtikSdk.Base.Module.State

/-!
# What the module registry is for

The requests that have succeeded and not been released, in order: each with the name it gave,
the handle of its library and its ops table. `observe` reads them from the calls and what they
returned, so a call that fails leaves no trace, and `Answers` says what a call returns then.
-/

namespace ArtikSdk.Module
open Lib

structure Entry where
  name : List Char
  handle : Nat
  ops : Ops
deriving DecidableEq

abbrev Registry := List Entry

/-- The call returned no table, or an error. -/
def Output.failed (o : Output) : Bool :=
  match o.result with
  | .invalidModule => true
  | .pointer ops => ops = .null
  | .code e => e ≠ .ok

/-- The registry after a call that returned `o`. -/
def observe (r : Registry) (input : Input) (o : Output) : Registry :=
  match input, o.result with
  | .request (some name) _, .pointer ops =>
    match r.find? fun e => e.name = name, o.dl with
    | some e, _ => r ++ [e]
    | none, [.dlopen handle] => r ++ [⟨name, handle, ops⟩]
    | none, _ => r
  | .release target, .code .ok => r.eraseP fun e => some e.ops = target
  | _, _ => r

/-- What a call returns. A request whose node cannot be allocated gets `INVALID_MODULE`; the
first one for a name opens the library of that name, and the last release closes it. -/
def Answers (v : Version) (r : Registry) : Input → Output → Prop
  | .request none _, o => o = ⟨.invalidModule, []⟩
  | .request (some name) w, o =>
    match artikApiModules.find? fun m => m.name = name with
    | none => o = ⟨.pointer .null, []⟩
    | some m =>
      (∃ used, w.node.pick used = none) ∧ o = ⟨.invalidModule, []⟩ ∨
        match r.find? fun e => e.name = name with
        | some e => o = ⟨.pointer e.ops, []⟩
        | none =>
          ∃ ops, w.dlsym (w.dlopen (pathString v m.object)) (moduleString name) = some ops ∧
            o = ⟨.pointer ops, [.dlopen (w.dlopen (pathString v m.object))]⟩
  | .release target, o =>
    match r.find? fun e => some e.ops = target with
    | none => o = ⟨.code .badArgs, []⟩
    | some e =>
      o = ⟨.code .ok, if (r.eraseP fun e => some e.ops = target).any fun e' => e'.name = e.name then [] else [.dlclose e.handle]⟩

/-- The library of `m` can be opened, its table found and its name stored; and the table does
not begin with the same word as that of another module. -/
def Opens (v : Version) (s : State) (r : Registry) (m : ApiModule) (w : World) : Prop :=
  w.dlopen (pathString v m.object) ≠ 0 ∧ (w.moduleName.pick fun a => (s.text a).isSome).isSome = true ∧
    ∃ ops, w.dlsym (w.dlopen (pathString v m.object)) (moduleString m.name) = some ops ∧ ops.address ≠ 0 ∧
      ∀ e ∈ r, e.ops.word ≠ ops.word

/-- The condition on a call. The first request for a module, once it has its node, does not
fail; a release is of a table that can be read, and that is the table of the module with its
first word, if there is one. -/
def Fits (v : Version) (s : State) (r : Registry) : Input → Prop
  | .request none _ => True
  | .request (some name) w =>
    ∀ m ∈ artikApiModules, m.name = name → (∀ e ∈ r, e.name ≠ name) →
      (w.node.pick fun a => (s.requestedNode.heap.cell a).isSome).isSome = true → Opens v s r m w
  | .release target => r ≠ [] → ∃ t, target = some t ∧ ∀ e ∈ r, e.ops.word = t.word → e.ops = t

/-! ## Related lists -/

section Related

variable {α β : Type} {R : α → β → Prop} {xs : List α} {ys : List β} {p : α → Bool} {q : β → Bool}

theorem related_find (related : List.Forall₂ R xs ys) (same : ∀ x ∈ xs, ∀ y ∈ ys, R x y → p x = q y) :
    xs.find? p = none ∧ ys.find? q = none ∨ ∃ x y, xs.find? p = some x ∧ ys.find? q = some y ∧ R x y := by
  induction related with
  | nil => exact .inl ⟨rfl, rfl⟩
  | @cons x y xs ys both _ ih =>
    rw [List.find?_cons, List.find?_cons, same x (List.mem_cons_self ..) y (List.mem_cons_self ..) both]
    cases q y with
    | true => exact .inr ⟨x, y, rfl, rfl, both⟩
    | false => exact ih fun x' inside y' inside' => same x' (List.mem_cons_of_mem _ inside) y' (List.mem_cons_of_mem _ inside')

theorem related_eraseP (related : List.Forall₂ R xs ys) (same : ∀ x ∈ xs, ∀ y ∈ ys, R x y → p x = q y) :
    List.Forall₂ R (xs.eraseP p) (ys.eraseP q) := by
  induction related with
  | nil => exact .nil
  | @cons x y xs ys both rest ih =>
    rw [List.eraseP_cons, List.eraseP_cons, same x (List.mem_cons_self ..) y (List.mem_cons_self ..) both]
    cases q y with
    | true => exact rest
    | false =>
      exact .cons both (ih fun x' inside y' inside' => same x' (List.mem_cons_of_mem _ inside) y' (List.mem_cons_of_mem _ inside'))

theorem related_mono {S : α → β → Prop} (related : List.Forall₂ R xs ys) (keep : ∀ x ∈ xs, ∀ y, R x y → S x y) :
    List.Forall₂ S xs ys := by
  induction related with
  | nil => exact .nil
  | @cons x y xs ys both _ ih =>
    exact .cons (keep x (List.mem_cons_self ..) y both) (ih fun x' inside => keep x' (List.mem_cons_of_mem _ inside))

/-- A symmetric relation among the elements of a list, where one element is appended. -/
theorem pairs_concat {S : α → α → Prop} {a : α} (symm : ∀ x y, S x y → S y x) (self : S a a) (old : ∀ x ∈ xs, ∀ y ∈ xs, S x y)
    (new : ∀ x ∈ xs, S x a) : ∀ x ∈ xs ++ [a], ∀ y ∈ xs ++ [a], S x y := by
  simp only [List.forall_mem_append, List.forall_mem_singleton]
  constructor
  · exact fun x left => ⟨old x left, new x left⟩
  · exact ⟨fun y right => symm y a (new y right), self⟩

theorem related_left (related : List.Forall₂ R xs ys) {y : β} (member : y ∈ ys) : ∃ x ∈ xs, R x y := by
  induction related with
  | nil => cases member
  | @cons x y' xs ys both _ ih =>
    rcases List.mem_cons.mp member with rfl | member
    · exact ⟨x, List.mem_cons_self .., both⟩
    · obtain ⟨x', inside, both'⟩ := ih member
      exact ⟨x', List.mem_cons_of_mem _ inside, both'⟩

theorem related_right (related : List.Forall₂ R xs ys) {x : α} (member : x ∈ xs) : ∃ y ∈ ys, R x y :=
  related_left related.flip member

end Related

/-! ## The names in the table -/

theorem names_short : ∀ m ∈ artikApiModules, m.name.length < maxModuleName := by decide

/-- Comparing prefixes compares names. -/
theorem names_start : ∀ m ∈ artikApiModules, ∀ m' ∈ artikApiModules, m.name.isPrefixOf m'.name = true → m.name = m'.name := by decide

theorem take_eq_iff {n : Nat} {xs ys : List Char} (short : xs.length < n) : xs.take n = ys.take n ↔ xs = ys := by
  rw [List.take_of_length_le (Nat.le_of_lt short)]
  constructor
  · intro same
    have shorter : (ys.take n).length < n := same ▸ short
    rw [List.length_take] at shorter
    rw [same, List.take_of_length_le (by omega)]
  · rintro rfl
    rw [List.take_of_length_le (Nat.le_of_lt short)]

theorem table_find (name : List Char) :
    (artikApiModules.find? fun m => m.name.take maxModuleName = name.take maxModuleName) =
      artikApiModules.find? fun m => m.name = name :=
  List.find?_congr fun m member => by rw [decide_eq_decide, take_eq_iff (names_short m member)]

end ArtikSdk.Module
