import Mathlib.Tactic

/-!
# Regular expressions with captures

Extended regular expressions, as far as bracket expressions are repeated and groups are not,
matched against a whole string. `Parses r s caps` is the meaning: `r` generates `s`, and the
groups capture `caps`, the last one closed first. `regexec` searches with backtracking. It
finds a match exactly where there is one, so its captures are the captures where the
expression generates the string in one way only.
-/

namespace Lib

/-- A bracket expression is a test on characters; `rep` is one repeated, `group` a capture. -/
inductive Regex where
  | eps
  | cls (p : Char → Bool)
  | seq (r q : Regex)
  | opt (r : Regex)
  | rep (p : Char → Bool)
  | group (i : Nat) (r : Regex)

namespace Regex

/-- The substrings captured, by group. -/
abbrev Captures := List (Nat × List Char)

/-- A literal string. -/
def word : List Char → Regex
  | [] => .eps
  | c :: cs => .seq (.cls (· == c)) (word cs)

/-- A bracket expression, at least once. -/
def plus (p : Char → Bool) : Regex := .seq (.cls p) (.rep p)

/-- `r` generates the string, with the captures of its groups. -/
inductive Parses : Regex → List Char → Captures → Prop where
  | eps : Parses .eps [] []
  | cls {p : Char → Bool} {c : Char} : p c = true → Parses (.cls p) [c] []
  | seq {r q : Regex} {s t : List Char} {cs ds : Captures} :
      Parses r s cs → Parses q t ds → Parses (.seq r q) (s ++ t) (ds ++ cs)
  | absent {r : Regex} : Parses (.opt r) [] []
  | present {r : Regex} {s : List Char} {cs : Captures} : Parses r s cs → Parses (.opt r) s cs
  | rep {p : Char → Bool} {s : List Char} : (∀ c ∈ s, p c = true) → Parses (.rep p) s []
  | group {i : Nat} {r : Regex} {s : List Char} {cs : Captures} :
      Parses r s cs → Parses (.group i r) s ((i, s) :: cs)

/-- Repeat a bracket expression as often as possible, giving characters back until `k` succeeds. -/
def repeated (p : Char → Bool) (caps : Captures) (k : List Char → Captures → Option Captures) :
    List Char → Option Captures
  | [] => k [] caps
  | c :: s =>
    if p c then
      match repeated p caps k s with
      | some out => some out
      | none => k (c :: s) caps
    else k (c :: s) caps

/-- Match a prefix and go on with `k` on the rest. -/
def run : Regex → List Char → Captures → (List Char → Captures → Option Captures) → Option Captures
  | .eps, s, caps, k => k s caps
  | .cls _, [], _, _ => none
  | .cls p, c :: s, caps, k => if p c then k s caps else none
  | .seq r q, s, caps, k => run r s caps fun rest caps => run q rest caps k
  | .opt r, s, caps, k =>
    match run r s caps k with
    | some out => some out
    | none => k s caps
  | .rep p, s, caps, k => repeated p caps k s
  | .group i r, s, caps, k => run r s caps fun rest caps => k rest ((i, s.take (s.length - rest.length)) :: caps)

/-- Match the whole string. -/
def regexec (r : Regex) (s : List Char) : Option Captures :=
  run r s [] fun rest caps => if rest = [] then some caps else none

/-- The substring a group captured, empty where it took no part in the match. -/
def capture (caps : Captures) (i : Nat) : List Char := (caps.lookup i).getD []

variable {r : Regex} {p : Char → Bool} {s : List Char} {caps out : Captures} {k : List Char → Captures → Option Captures}

theorem repeated_sound (found : repeated p caps k s = some out) :
    ∃ text rest, s = text ++ rest ∧ (∀ c ∈ text, p c = true) ∧ k rest caps = some out := by
  induction s with
  | nil => exact ⟨[], [], rfl, nofun, found⟩
  | cons c s ih =>
    rw [repeated] at found
    by_cases hit : p c = true
    · rw [if_pos hit] at found
      cases longer : repeated p caps k s with
      | none =>
        rw [longer] at found
        exact ⟨[], c :: s, rfl, nofun, found⟩
      | some out' =>
        rw [longer] at found
        obtain ⟨text, rest, rfl, tests, next⟩ := ih (longer.trans found)
        exact ⟨c :: text, rest, rfl, List.forall_mem_cons.2 ⟨hit, tests⟩, next⟩
    · rw [if_neg hit] at found
      exact ⟨[], c :: s, rfl, nofun, found⟩

/-- What the search finds is a match. -/
theorem run_sound (found : run r s caps k = some out) :
    ∃ text rest new, s = text ++ rest ∧ Parses r text new ∧ k rest (new ++ caps) = some out := by
  induction r generalizing s caps k with
  | eps => exact ⟨[], s, [], rfl, .eps, found⟩
  | cls p =>
    cases s with
    | nil => cases found
    | cons c s =>
      rw [run] at found
      by_cases hit : p c = true
      · rw [if_pos hit] at found
        exact ⟨[c], s, [], rfl, .cls hit, found⟩
      · rw [if_neg hit] at found
        cases found
  | seq r q ihr ihq =>
    obtain ⟨first, rest, new, rfl, parsed, found⟩ := ihr found
    obtain ⟨second, rest, new', rfl, parsed', found⟩ := ihq found
    exact ⟨first ++ second, rest, new' ++ new, (List.append_assoc ..).symm, .seq parsed parsed', by rw [List.append_assoc]; exact found⟩
  | opt r ih =>
    rw [run] at found
    cases inner : run r s caps k with
    | none =>
      rw [inner] at found
      exact ⟨[], s, [], rfl, .absent, found⟩
    | some out' =>
      rw [inner] at found
      obtain ⟨text, rest, new, rfl, parsed, next⟩ := ih (inner.trans found)
      exact ⟨text, rest, new, rfl, .present parsed, next⟩
  | rep p =>
    obtain ⟨text, rest, rfl, tests, next⟩ := repeated_sound found
    exact ⟨text, rest, [], rfl, .rep tests, next⟩
  | group i r ih =>
    obtain ⟨text, rest, new, rfl, parsed, next⟩ := ih found
    refine ⟨text, rest, (i, text) :: new, rfl, .group parsed, ?_⟩
    rw [List.length_append, Nat.add_sub_cancel, List.take_left] at next
    exact next

theorem repeated_complete {text : List Char} (tests : ∀ c ∈ text, p c = true) (next : (k s caps).isSome) :
    (repeated p caps k (text ++ s)).isSome := by
  induction text with
  | nil =>
    cases s with
    | nil => exact next
    | cons c s =>
      rw [List.nil_append, repeated]
      split
      · cases repeated p caps k s with
        | none => exact next
        | some out => rfl
      · exact next
  | cons c text ih =>
    obtain ⟨hit, tests⟩ := List.forall_mem_cons.1 tests
    rw [List.cons_append, repeated, if_pos hit]
    cases longer : repeated p caps k (text ++ s) with
    | none =>
      have found := ih tests
      rw [longer] at found
      cases found
    | some out => rfl

/-- The search finds a match where there is one. -/
theorem run_complete {text rest : List Char} {new : Captures} (parsed : Parses r text new)
    (next : (k rest (new ++ caps)).isSome) : (run r (text ++ rest) caps k).isSome := by
  induction parsed generalizing rest caps k with
  | eps => exact next
  | cls hit =>
    rw [List.cons_append, run, if_pos hit]
    exact next
  | @seq r q s t cs ds _ _ ihr ihq =>
    rw [List.append_assoc, run]
    exact ihr (ihq (by rw [← List.append_assoc]; exact next))
  | @absent r =>
    rw [List.nil_append, run]
    cases run r rest caps k with
    | none => exact next
    | some out => rfl
  | @present r s cs _ ih =>
    rw [run]
    have found := ih next
    cases inner : run r (s ++ rest) caps k with
    | none =>
      rw [inner] at found
      cases found
    | some out => rfl
  | rep tests => exact repeated_complete tests next
  | @group i r s cs _ ih =>
    rw [run]
    refine ih ?_
    rw [List.length_append, Nat.add_sub_cancel, List.take_left]
    exact next

/-- **Soundness.** -/
theorem parses_of_regexec (found : regexec r s = some caps) : Parses r s caps := by
  obtain ⟨text, rest, new, rfl, parsed, next⟩ := run_sound found
  by_cases done : rest = []
  · rw [if_pos done] at next
    cases next
    rw [done, List.append_nil, List.append_nil]
    exact parsed
  · rw [if_neg done] at next
    cases next

/-- **Completeness**, with the captures of the only match. -/
theorem regexec_eq (parsed : Parses r s caps) (only : ∀ caps', Parses r s caps' → caps' = caps) :
    regexec r s = some caps := by
  have found : (regexec r s).isSome := by
    have whole : (run r (s ++ []) [] fun rest caps => if rest = [] then some caps else none).isSome :=
      run_complete parsed rfl
    rwa [List.append_nil] at whole
  obtain ⟨caps', found⟩ := Option.isSome_iff_exists.1 found
  rw [found, only caps' (parses_of_regexec found)]

/-- A string that the expression does not generate is not matched. -/
theorem regexec_eq_none (never : ∀ caps, ¬ Parses r s caps) : regexec r s = none := by
  cases found : regexec r s with
  | none => rfl
  | some caps => exact absurd (parses_of_regexec found) (never caps)

/-! ## Inversion -/

@[simp] theorem parses_eps : Parses .eps s caps ↔ s = [] ∧ caps = [] := by
  constructor
  · rintro ⟨⟩
    exact ⟨rfl, rfl⟩
  · rintro ⟨rfl, rfl⟩
    exact .eps

theorem parses_cls : Parses (.cls p) s caps ↔ ∃ c, s = [c] ∧ caps = [] ∧ p c = true := by
  constructor
  · intro h
    cases h with
    | cls hit => exact ⟨_, rfl, rfl, hit⟩
  · rintro ⟨c, rfl, rfl, hit⟩
    exact .cls hit

theorem parses_seq {r q : Regex} :
    Parses (.seq r q) s caps ↔ ∃ t u cs ds, s = t ++ u ∧ caps = ds ++ cs ∧ Parses r t cs ∧ Parses q u ds := by
  constructor
  · intro h
    cases h with
    | seq first second => exact ⟨_, _, _, _, rfl, rfl, first, second⟩
  · rintro ⟨t, u, cs, ds, rfl, rfl, first, second⟩
    exact .seq first second

theorem parses_opt : Parses (.opt r) s caps ↔ s = [] ∧ caps = [] ∨ Parses r s caps := by
  constructor
  · intro h
    cases h with
    | absent => exact .inl ⟨rfl, rfl⟩
    | present inner => exact .inr inner
  · rintro (⟨rfl, rfl⟩ | inner)
    · exact .absent
    · exact .present inner

theorem parses_rep : Parses (.rep p) s caps ↔ caps = [] ∧ ∀ c ∈ s, p c = true := by
  constructor
  · intro h
    cases h with
    | rep tests => exact ⟨rfl, tests⟩
  · rintro ⟨rfl, tests⟩
    exact .rep tests

theorem parses_group {i : Nat} : Parses (.group i r) s caps ↔ ∃ cs, caps = (i, s) :: cs ∧ Parses r s cs := by
  constructor
  · intro h
    cases h with
    | group inner => exact ⟨_, rfl, inner⟩
  · rintro ⟨cs, rfl, inner⟩
    exact .group inner

theorem parses_word {w : List Char} : Parses (word w) s caps ↔ s = w ∧ caps = [] := by
  induction w generalizing s caps with
  | nil => exact parses_eps
  | cons c w ih =>
    rw [word, parses_seq]
    constructor
    · rintro ⟨t, u, cs, ds, rfl, rfl, first, second⟩
      obtain ⟨d, rfl, rfl, hit⟩ := parses_cls.1 first
      obtain ⟨rfl, rfl⟩ := ih.1 second
      exact ⟨by rw [beq_iff_eq.1 hit]; rfl, rfl⟩
    · rintro ⟨rfl, rfl⟩
      exact ⟨[c], w, [], [], rfl, rfl, parses_cls.2 ⟨c, rfl, rfl, beq_self_eq_true c⟩, ih.2 ⟨rfl, rfl⟩⟩

theorem parses_plus : Parses (plus p) s caps ↔ caps = [] ∧ s ≠ [] ∧ ∀ c ∈ s, p c = true := by
  rw [plus, parses_seq]
  constructor
  · rintro ⟨t, u, cs, ds, rfl, rfl, first, second⟩
    obtain ⟨c, rfl, rfl, hit⟩ := parses_cls.1 first
    obtain ⟨rfl, tests⟩ := parses_rep.1 second
    exact ⟨rfl, nofun, List.forall_mem_cons.2 ⟨hit, tests⟩⟩
  · rintro ⟨rfl, nonempty, tests⟩
    cases s with
    | nil => exact absurd rfl nonempty
    | cons c s =>
      obtain ⟨hit, tests⟩ := List.forall_mem_cons.1 tests
      exact ⟨[c], s, [], [], rfl, rfl, parses_cls.2 ⟨c, rfl, rfl, hit⟩, parses_rep.2 ⟨rfl, tests⟩⟩

end Regex

/-- A string is cut in one way into characters that pass a test and a rest that does not
begin with one. -/
theorem cut_unique {p : Char → Bool} {s t s' t' : List Char} (same : s ++ t = s' ++ t') (tests : ∀ c ∈ s, p c = true)
    (tests' : ∀ c ∈ s', p c = true) (stop : ∀ c ∈ t.head?, p c = false) (stop' : ∀ c ∈ t'.head?, p c = false) :
    s = s' ∧ t = t' := by
  induction s generalizing s' with
  | nil =>
    cases s' with
    | nil => exact ⟨rfl, same⟩
    | cons c s' =>
      rw [List.nil_append] at same
      have := stop c (by rw [same]; rfl)
      rw [tests' c (List.mem_cons_self ..)] at this
      cases this
  | cons c s ih =>
    cases s' with
    | nil =>
      rw [List.nil_append] at same
      have := stop' c (by rw [← same]; rfl)
      rw [tests c (List.mem_cons_self ..)] at this
      cases this
    | cons d s' =>
      obtain ⟨rfl, same'⟩ := List.cons.inj same
      obtain ⟨rfl, rfl⟩ := ih same' (fun e member => tests e (List.mem_cons_of_mem _ member))
        (fun e member => tests' e (List.mem_cons_of_mem _ member))
      exact ⟨rfl, rfl⟩

end Lib
