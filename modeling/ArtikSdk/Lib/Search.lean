import Mathlib.Tactic

/-!
# Searching a text

A pointer into a text is the text cut in two there. `strstr` cuts it where another text occurs first;
`lineStart` goes back from a pointer to the mark at which the line begins, and falls off the front where
there is none.
-/

namespace Lib

/-- Of two cuts of a text one comes first. -/
theorem cut_le {α : Type} {a b c d : List α} (first : a.length ≤ c.length) (same : a ++ b = c ++ d) : ∃ between, c = a ++ between ∧ b = between ++ d := by
  obtain right | ⟨between, rfl, rfl⟩ := List.append_eq_append_iff.1 same
  · exact right
  · rw [List.length_append] at first
    obtain rfl := List.eq_nil_of_length_eq_zero (show between.length = 0 by omega)
    exact ⟨[], by simp, rfl⟩

/-- What does not have the mark occurs on one side of it. -/
theorem infix_mark_iff {α : Type} {mark : α} {s l t : List α} (clean : mark ∉ s) : s <:+: l ++ mark :: t ↔ s <:+: l ∨ s <:+: t := by
  constructor
  · rintro ⟨p, q, whole⟩
    obtain ⟨between, rfl, -⟩ | ⟨between, left, right⟩ := List.append_eq_append_iff.1 whole
    · exact Or.inl ⟨p, between, rfl⟩
    · obtain ⟨rfl, -⟩ | ⟨between, rfl, rfl⟩ := List.cons_eq_append_iff.1 right
      · exact Or.inl ⟨p, [], by rw [List.append_nil, left, List.append_nil]⟩
      · -- the piece ends behind the mark
        obtain ⟨inside, -, rfl⟩ | ⟨inside, -, same⟩ := List.append_eq_append_iff.1 left
        · exact absurd (List.mem_append_right _ (List.mem_cons_self ..)) clean
        · obtain ⟨-, rfl⟩ | ⟨inside, rfl, rfl⟩ := List.cons_eq_append_iff.1 same
          · exact absurd (List.mem_cons_self ..) clean
          · exact Or.inr ⟨inside, q, rfl⟩
  · rintro (left | right)
    · exact left.trans ⟨[], mark :: t, rfl⟩
    · exact right.trans ⟨l ++ [mark], [], by simp⟩

variable {α : Type} [DecidableEq α] {s t before rest front l : List α} {mark : α}

/-- `strstr(t, s)`: what is in front of the first occurrence, and what begins with it. -/
def strstr (s : List α) : List α → Option (List α × List α)
  | [] => if s = [] then some ([], []) else none
  | c :: t => if s.isPrefixOf (c :: t) then some ([], c :: t) else (strstr s t).map fun p => (c :: p.1, p.2)

/-- The way back to the nearest mark, which may be where it begins; what is in front is reversed. -/
def lineStart (mark : α) : List α → List α → Option (List α × List α)
  | [], rest => if rest.head? = some mark then some ([], rest) else none
  | c :: front, rest => if rest.head? = some mark then some (c :: front, rest) else lineStart mark front (c :: rest)

theorem strstr_some (found : strstr s t = some (before, rest)) : t = before ++ rest ∧ s <+: rest := by
  induction t generalizing before with
  | nil =>
    rw [strstr] at found
    split at found
    · rename_i empty
      cases found
      exact ⟨rfl, empty ▸ List.nil_prefix⟩
    · cases found
  | cons c t ih =>
    rw [strstr] at found
    split at found
    · rename_i here
      cases found
      exact ⟨rfl, List.isPrefixOf_iff_prefix.1 here⟩
    · obtain ⟨p, later, same⟩ := Option.map_eq_some_iff.1 found
      cases same
      obtain ⟨whole, begins⟩ := ih later
      exact ⟨congrArg (c :: ·) whole, begins⟩

/-- What occurs is found. -/
theorem strstr_none_iff : strstr s t = none ↔ ¬ s <:+: t := by
  induction t with
  | nil =>
    rw [strstr, List.infix_nil]
    split
    · rename_i empty
      exact iff_of_false nofun (not_not.2 empty)
    · rename_i other
      exact iff_of_true rfl other
  | cons c t ih =>
    rw [strstr, List.infix_cons_iff, ← List.isPrefixOf_iff_prefix]
    split
    · rename_i here
      exact iff_of_false nofun fun out => out (Or.inl here)
    · rename_i other
      rw [Option.map_eq_none_iff, ih]
      exact ⟨fun out => not_or.2 ⟨other, out⟩, fun out => (not_or.1 out).2⟩

theorem strstr_isSome_iff : (strstr s t).isSome = true ↔ s <:+: t := by
  rw [← not_iff_not, ← strstr_none_iff, Bool.not_eq_true, Option.isSome_eq_false_iff, Option.isNone_iff_eq_none]

/-- A mark is found where it comes first. -/
theorem strstr_mark (clean : mark ∉ l) : strstr [mark] (l ++ mark :: rest) = some (l, mark :: rest) := by
  induction l with
  | nil => exact if_pos (by simp)
  | cons c l ih =>
    obtain ⟨other, clean⟩ := not_or.1 (List.mem_cons.not.1 clean)
    rw [List.cons_append, strstr, if_neg (by simp [other]), ih clean]
    rfl

/-- At a mark there is no way to go. -/
theorem lineStart_here : lineStart mark front (mark :: rest) = some (front, mark :: rest) := by
  cases front <;> exact if_pos rfl

/-- From inside a line the way leads back to its mark. -/
theorem lineStart_inside (clean : mark ∉ l) (inside : rest.head? ≠ some mark) :
    lineStart mark (l ++ mark :: front) rest = some (front, mark :: (l.reverse ++ rest)) := by
  induction l generalizing rest with
  | nil =>
    rw [List.nil_append, lineStart, if_neg inside, lineStart_here]
    rfl
  | cons c l ih =>
    obtain ⟨other, clean⟩ := not_or.1 (List.mem_cons.not.1 clean)
    rw [List.cons_append, lineStart, if_neg inside, ih clean (by simpa using Ne.symm other)]
    simp

/-- In front of the first mark it leads nowhere. -/
theorem lineStart_front (clean : mark ∉ front) (inside : rest.head? ≠ some mark) : lineStart mark front rest = none := by
  induction front generalizing rest with
  | nil => exact if_neg inside
  | cons c front ih =>
    obtain ⟨other, clean⟩ := not_or.1 (List.mem_cons.not.1 clean)
    rw [lineStart, if_neg inside, ih clean (by simpa using Ne.symm other)]

end Lib
