import ArtikSdk.Base.Module.Requests
import Mathlib.Data.Finset.Card

/-!
# The registry over a run

While every call fits, the code keeps the registry: failed calls leave no trace, libraries are
open while they are requested, and a table is that of the module of the name.
-/

namespace ArtikSdk.Module
open Lib

/-- The requests that are open after the calls. -/
def registry (calls : List (Call Input State Output)) : Registry := calls.foldl (fun r c => observe r c.input c.output) []

def dlCalls (calls : List (Call Input State Output)) : List DlCall := calls.flatMap fun c => c.output.dl

/-- The names that have the library open. -/
def names (handle : Nat) (r : Registry) : Finset (List Char) := ((r.filter fun e => e.handle = handle).map Entry.name).toFinset

/-- What the calls and the state after them have to do with the registry. -/
structure Kept (v : Version) (calls : List (Call Input State Output)) (s : State) : Prop where
  /-- A call that fails leaves the state as it was. -/
  failed : ∀ c ∈ calls, c.output.failed = true → c.after = c.before
  /-- Without the calls that failed, the others return the same and lead to the same state. -/
  without : Run (step v) .init (calls.filter fun c => !c.output.failed) s
  /-- Every call returns what it does for the registry. -/
  answers : ∀ pre c post, calls = pre ++ c :: post → Answers v (registry pre) c.input c.output
  /-- A library was opened once more than closed for each name that has it open. -/
  balance : ∀ h, (dlCalls calls).count (.dlopen h) = (dlCalls calls).count (.dlclose h) + (names h (registry calls)).card
  /-- An entry has the handle and the table that the linker gave for its name. -/
  genuine : ∀ e ∈ registry calls, ∃ c ∈ calls, ∃ w, c.input = .request (some e.name) w ∧
    ∃ m ∈ artikApiModules, m.name = e.name ∧ w.dlopen (pathString v m.object) = e.handle ∧
      w.dlsym e.handle (moduleString e.name) = some e.ops

variable {v : Version} {s s' : State} {xs xs' : List ArtikList.Elem} {r l l' : Registry} {e : Entry} {input : Input} {o : Output}
  {calls : List (Call Input State Output)} {h : Nat} {n : List Char}

theorem registry_snoc (calls : List (Call Input State Output)) (c : Call Input State Output) :
    registry (calls ++ [c]) = observe (registry calls) c.input c.output := by
  rw [registry, List.foldl_append]
  rfl

theorem dlCalls_snoc (calls : List (Call Input State Output)) (c : Call Input State Output) :
    dlCalls (calls ++ [c]) = dlCalls calls ++ c.output.dl := by
  rw [dlCalls, List.flatMap_append, List.flatMap_singleton]
  rfl

theorem mem_names : n ∈ names h r ↔ ∃ e ∈ r, e.handle = h ∧ e.name = n := by
  simp only [names, List.mem_toFinset, List.mem_map, List.mem_filter, decide_eq_true_eq, and_assoc]

theorem names_middle : names h (l ++ e :: l') = if e.handle = h then insert e.name (names h (l ++ l')) else names h (l ++ l') := by
  by_cases mine : e.handle = h
  · rw [if_pos mine, names, List.filter_append, List.filter_cons_of_pos (by simpa using mine), names, List.filter_append,
      List.map_append, List.map_cons, List.map_append]
    ext n
    simp only [List.mem_toFinset, List.mem_append, List.mem_cons, Finset.mem_insert]
    tauto
  · rw [if_neg mine, names, List.filter_append, List.filter_cons_of_neg (by simpa using mine), ← List.filter_append, names]

theorem names_snoc : names h (l ++ [e]) = if e.handle = h then insert e.name (names h l) else names h l := by
  rw [names_middle, List.append_nil]

/-- What a call can do to the registry, with what it asks of the linker. -/
inductive Change (v : Version) (r : Registry) (input : Input) (dl : List DlCall) : Registry → Prop where
  | none (quiet : dl = []) : Change v r input dl r
  | again (e : Entry) (member : e ∈ r) (quiet : dl = []) : Change v r input dl (r ++ [e])
  | opened (w : World) (m : ApiModule) (ops : Ops) (asked : input = .request (some m.name) w) (listed : m ∈ artikApiModules)
      (absent : ∀ e ∈ r, e.name ≠ m.name) (symbol : w.dlsym (w.dlopen (pathString v m.object)) (moduleString m.name) = some ops)
      (loud : dl = [.dlopen (w.dlopen (pathString v m.object))]) :
      Change v r input dl (r ++ [⟨m.name, w.dlopen (pathString v m.object), ops⟩])
  | closed (l : Registry) (e : Entry) (l' : Registry) (split : r = l ++ e :: l')
      (last : dl = if (l ++ l').any fun e' => e'.name = e.name then [] else [.dlclose e.handle]) : Change v r input dl (l ++ l')

theorem answers_change (here : Represents s xs r) (answers : Answers v r input o) : Change v r input o.dl (observe r input o) := by
  cases input with
  | request asked w =>
    cases asked with
    | none =>
      obtain rfl : o = ⟨.invalidModule, []⟩ := answers
      exact .none rfl
    | some name =>
      rw [Answers] at answers
      cases first : artikApiModules.find? fun m => m.name = name with
      | none =>
        rw [first] at answers
        obtain rfl : o = ⟨.pointer .null, []⟩ := answers
        have absent : r.find? (fun e => e.name = name) = none := by
          refine List.find?_eq_none.mpr fun e member same => ?_
          obtain ⟨m, listed, named⟩ := here.known e member
          have other := List.find?_eq_none.mp first m listed
          simp only [decide_eq_true_eq] at same other
          exact other (named.trans same)
        have same : observe r (.request (some name) w) ⟨.pointer .null, []⟩ = r := by simp only [observe, absent]
        rw [same]
        exact .none rfl
      | some m =>
        rw [first] at answers
        have listed := List.mem_of_find?_eq_some first
        obtain rfl : m.name = name := by simpa using List.find?_some first
        obtain ⟨-, rfl⟩ | served := answers
        · exact .none rfl
        · cases there : r.find? fun e => e.name = m.name with
          | some e =>
            rw [there] at served
            obtain rfl : o = ⟨.pointer e.ops, []⟩ := served
            have more : observe r (.request (some m.name) w) ⟨.pointer e.ops, []⟩ = r ++ [e] := by simp only [observe, there]
            rw [more]
            exact .again e (List.mem_of_find?_eq_some there) rfl
          | none =>
            rw [there] at served
            obtain ⟨ops, symbol, rfl⟩ := served
            have more : observe r (.request (some m.name) w) ⟨.pointer ops, [.dlopen (w.dlopen (pathString v m.object))]⟩ =
                r ++ [⟨m.name, w.dlopen (pathString v m.object), ops⟩] := by simp only [observe, there]
            rw [more]
            exact .opened w m ops rfl listed (fun e member => by simpa using List.find?_eq_none.mp there e member) symbol rfl
  | release target =>
    rw [Answers] at answers
    cases there : r.find? fun e => some e.ops = target with
    | none =>
      rw [there] at answers
      obtain rfl : o = ⟨.code .badArgs, []⟩ := answers
      exact .none rfl
    | some e =>
      rw [there] at answers
      obtain rfl := answers
      obtain ⟨mine, l, l', split, before⟩ := List.find?_eq_some_iff_append.mp there
      have less : r.eraseP (fun e => some e.ops = target) = l ++ l' := by
        rw [split, List.eraseP_append_right _ (fun e' inside => by simpa using before e' inside), List.eraseP_cons, mine,
          cond_true]
      show Change v r _ _ (r.eraseP fun e => some e.ops = target)
      rw [less]
      exact .closed l e l' split rfl

/-- One call: libraries are opened and closed as names come and go. -/
theorem balance_step (here : Represents s xs r) (answers : Answers v r input o) :
    o.dl.count (.dlopen h) + (names h r).card = o.dl.count (.dlclose h) + (names h (observe r input o)).card := by
  have change := answers_change here answers
  generalize observe r input o = r' at change
  cases change with
  | none quiet => rw [quiet, List.count_nil, List.count_nil]
  | again e member quiet =>
    rw [quiet, List.count_nil, List.count_nil, names_snoc]
    split
    · rename_i mine
      rw [Finset.insert_eq_of_mem (mem_names.mpr ⟨e, member, mine, rfl⟩)]
    · rfl
  | opened w m ops asked listed absent symbol loud =>
    rw [loud, names_snoc]
    dsimp only
    split
    · rename_i mine
      have new : m.name ∉ names h r := by
        intro inside
        obtain ⟨e, member, -, named⟩ := mem_names.mp inside
        exact absent e member named
      rw [Finset.card_insert_of_notMem new, mine, List.count_singleton_self, List.count_singleton]
      simp
      omega
    · rename_i other
      rw [List.count_singleton, List.count_singleton]
      simp [other]
  | closed l e l' split last =>
    have member : e ∈ r := by rw [split]; simp
    have entries : ∀ e' ∈ l ++ l', e' ∈ r := by
      intro e' inside
      rw [split]
      rcases List.mem_append.mp inside with inside | inside <;> simp [inside]
    rw [last, split, names_middle]
    cases more : (l ++ l').any fun e' => e'.name = e.name with
    | true =>
      rw [if_pos rfl, List.count_nil, List.count_nil]
      obtain ⟨e', inside, named⟩ := List.any_eq_true.mp more
      obtain rfl : e' = e := here.same_name (entries e' inside) member (by simpa using named)
      split_ifs with mine
      · rw [Finset.insert_eq_of_mem (mem_names.mpr ⟨e', inside, mine, rfl⟩)]
      · rfl
    | false =>
      rw [if_neg Bool.false_ne_true]
      have gone : e.name ∉ names h (l ++ l') := by
        intro inside
        obtain ⟨e', among, -, named⟩ := mem_names.mp inside
        exact List.any_eq_false.mp more e' among (by simpa using named)
      split_ifs with mine
      · rw [Finset.card_insert_of_notMem gone, mine, List.count_singleton_self, List.count_singleton]
        simp
        omega
      · rw [List.count_singleton, List.count_singleton]
        simp [mine]

def log : List Char := ['l', 'o', 'g']

/-- A world with one address for each `malloc`. -/
def world (dlHandle : Nat) : World where
  node := .only 1
  moduleName := .only 2
  dlopen _ := dlHandle
  dlsym _ _ := some ⟨7, 9⟩

end ArtikSdk.Module
