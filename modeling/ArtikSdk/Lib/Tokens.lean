import Mathlib.Tactic

/-!
# Tokens

What `strtok` gives of a string, one call after the other: the runs without the separator. Several
separators in a row count as one, so that a string is not the join of its tokens unless its length says
so.
-/

namespace Lib

theorem flatten_length {α : Type} {groups : List (List α)} {k : Nat} (same : ∀ g ∈ groups, g.length = k) : groups.flatten.length = groups.length * k := by
  rw [List.length_flatten, List.map_congr_left same, List.map_const', List.sum_replicate, smul_eq_mul]

variable {α : Type} [DecidableEq α] {sep : α} {s : List α} {groups : List (List α)}

/-- The tokens of `strtok(s, sep)`, `strtok(NULL, sep)`, and so on. -/
def tokens (sep : α) (s : List α) : List (List α) := (s.splitOn sep).filter (· ≠ [])

/-- What is cut has the separators between. -/
theorem splitOn_length (sep : α) (s : List α) : (s.splitOn sep).flatten.length + (s.splitOn sep).length = s.length + 1 := by
  induction s with
  | nil => rfl
  | cons x s ih =>
    rw [List.splitOn_cons_eq_if_modifyHead]
    split
    · rw [List.flatten_cons, List.nil_append, List.length_cons, List.length_cons, ← ih]
      omega
    · obtain ⟨first, rest, cut⟩ := List.exists_cons_of_ne_nil (List.splitOn_ne_nil sep s)
      rw [cut] at ih ⊢
      simp only [List.modifyHead_cons, List.flatten_cons, List.length_append, List.length_cons] at ih ⊢
      omega

theorem not_mem_splitOn {g : List α} (member : g ∈ s.splitOn sep) : sep ∉ g := by
  induction s generalizing g with
  | nil =>
    rw [List.splitOn_nil, List.mem_singleton] at member
    rw [member]
    exact List.not_mem_nil
  | cons x s ih =>
    rw [List.splitOn_cons_eq_if_modifyHead] at member
    split at member
    · obtain rfl | later := List.mem_cons.1 member
      · exact List.not_mem_nil
      · exact ih later
    · rename_i other
      obtain ⟨first, rest, cut⟩ := List.exists_cons_of_ne_nil (List.splitOn_ne_nil sep s)
      rw [cut] at member ih
      obtain rfl | later := List.mem_cons.1 member
      · rw [List.mem_cons, not_or]
        exact ⟨fun same => other (beq_iff_eq.2 same.symm), ih (List.mem_cons_self ..)⟩
      · exact ih (List.mem_cons_of_mem _ later)

theorem mem_tokens {g : List α} (member : g ∈ tokens sep s) : g ≠ [] ∧ sep ∉ g := by
  obtain ⟨cut, nonempty⟩ := List.mem_filter.1 member
  exact ⟨of_decide_eq_true nonempty, not_mem_splitOn cut⟩

theorem tokens_flatten (sep : α) (s : List α) : (tokens sep s).flatten.length + (s.splitOn sep).length = s.length + 1 := by
  rw [← splitOn_length sep s, tokens]
  congr 2
  induction s.splitOn sep with
  | nil => rfl
  | cons g gs ih =>
    by_cases empty : g = []
    · rw [List.filter_cons_of_neg (by simpa using empty), ih, empty, List.flatten_cons, List.nil_append]
    · rw [List.filter_cons_of_pos (by simpa using empty), List.flatten_cons, List.flatten_cons, ih]

/-- There is a separator between two tokens. -/
theorem tokens_length_le (sep : α) (s : List α) : (tokens sep s).flatten.length + (tokens sep s).length ≤ s.length + 1 := by
  rw [← tokens_flatten sep s]
  exact Nat.add_le_add_left (List.length_filter_le ..) _

/-- **No separator is swallowed** where there is just one between two tokens. -/
theorem intercalate_tokens (full : (tokens sep s).flatten.length + (tokens sep s).length = s.length + 1) :
    [sep].intercalate (tokens sep s) = s := by
  rw [← tokens_flatten sep s, Nat.add_left_cancel_iff, tokens, List.length_filter_eq_length_iff] at full
  rw [tokens, List.filter_eq_self.2 full, List.intercalate_splitOn]

theorem tokens_intercalate (clean : ∀ g ∈ groups, g ≠ [] ∧ sep ∉ g) : tokens sep ([sep].intercalate groups) = groups := by
  by_cases empty : groups = []
  · rw [empty]
    rfl
  · rw [tokens, List.splitOn_intercalate sep (fun g member => (clean g member).2) empty]
    exact List.filter_eq_self.2 fun g member => decide_eq_true (clean g member).1

end Lib
