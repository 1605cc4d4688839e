import ArtikSdk.Lib.Dotted

/-!
# Text streams

A file that is read from the front, with `fscanf` on formats of literal characters, white space and `%d`, and
`fgets`. What a conversion that fails has read is gone; the end is met when something is sought behind it.
-/

namespace Lib
open Dotted

/-- What is left of a file, and whether its end was met. -/
structure Stream where
  rest : List Char
  eof : Bool
deriving DecidableEq

namespace Stream

/-- `fopen(name, "r")` -/
def start (text : List Char) : Stream := ⟨text, false⟩

inductive Directive where
  | literal (c : Char)
  | space
  | int
deriving DecidableEq

/-- The directives of a format. -/
def directives : List Char → List Directive
  | '%' :: 'd' :: cs => .int :: directives cs
  | c :: cs => (if isSpace c then .space else .literal c) :: directives cs
  | [] => []

/-- Characters are read while `p` holds of them, up to the first of which it does not. -/
def skip (p : Char → Bool) (s : Stream) : Stream := ⟨s.rest.dropWhile p, s.eof || (s.rest.dropWhile p).isEmpty⟩

def unsign (s : Stream) : Bool × Stream :=
  match s.rest with
  | '-' :: cs => (true, { s with rest := cs })
  | '+' :: cs => (false, { s with rest := cs })
  | _ => (false, s)

/-- `%d`: white space, a sign, and digits; the number saturates as a `long` and is stored as an `int`. -/
def readInt (s : Stream) : Option Int × Stream :=
  let (negative, s) := (s.skip isSpace).unsign
  match s.rest.takeWhile Char.isDigit with
  | [] => (none, s.skip Char.isDigit)
  | ds =>
    let n := (ds.foldl (fun n c => 10 * n + (c.toNat - 48)) 0 : Nat)
    let long : Int := if negative then max (-n) (-2 ^ 63) else min n (2 ^ 63 - 1)
    (some (BitVec.ofInt 32 long).toInt, s.skip Char.isDigit)

/-- `fscanf`: the numbers that were converted. -/
def scan : List Directive → Stream → List Int × Stream
  | [], s => ([], s)
  | .space :: ds, s => scan ds (s.skip isSpace)
  | .literal c :: ds, s =>
    match s.rest with
    | [] => ([], { s with eof := true })
    | x :: xs => if x = c then scan ds { s with rest := xs } else ([], s)
  | .int :: ds, s =>
    match s.readInt with
    | (none, s) => ([], s)
    | (some n, s) => (n :: (scan ds s).1, (scan ds s).2)

/-- What is left when at most `k` characters of a line were read, and whether the end was met. -/
def lineEnd : Nat → List Char → List Char × Bool
  | 0, cs => (cs, false)
  | _ + 1, [] => ([], true)
  | k + 1, c :: cs => if c = '\n' then (cs, false) else lineEnd k cs

/-- `fgets` into a buffer of `size` bytes. -/
def fgets (size : Nat) (s : Stream) : Stream := ⟨(lineEnd (size - 1) s.rest).1, s.eof || (lineEnd (size - 1) s.rest).2⟩

/-! ## What is left gets less -/

/-- How much there is to read, the end included. -/
def left (s : Stream) : Nat := if s.eof then 0 else s.rest.length + 1

variable {s : Stream} {text rest w : List Char}

theorem skip_left (p : Char → Bool) : (s.skip p).left ≤ s.left := by
  have shorter : (s.rest.dropWhile p).length ≤ s.rest.length := (List.dropWhile_suffix p).length_le
  unfold left skip
  dsimp only
  cases s.eof with
  | true => simp
  | false =>
    simp only [Bool.false_or, Bool.false_eq_true, if_false]
    split <;> omega

theorem unsign_left : s.unsign.2.left ≤ s.left := by
  unfold unsign
  split
  · rename_i shape
    unfold left
    rw [shape]
    dsimp only
    split <;> simp
  · rename_i shape
    unfold left
    rw [shape]
    dsimp only
    split <;> simp
  · exact le_rfl

theorem readInt_left : s.readInt.2.left ≤ s.left := by
  have skipped := ((skip_left Char.isDigit).trans (unsign_left.trans (skip_left (s := s) isSpace)))
  unfold readInt
  dsimp only
  split <;> exact skipped

theorem scan_left (ds : List Directive) : (scan ds s).2.left ≤ s.left := by
  induction ds generalizing s with
  | nil => exact le_rfl
  | cons d ds ih =>
    cases d with
    | space => exact ih.trans (skip_left isSpace)
    | literal c =>
      rw [scan]
      split
      · exact Nat.zero_le _
      · rename_i x xs shape
        split
        · refine ih.trans ?_
          unfold left
          rw [shape]
          dsimp only
          split <;> simp
        · exact le_rfl
    | int =>
      have read := readInt_left (s := s)
      rw [scan]
      cases result : s.readInt with
      | mk found s' =>
        rw [result] at read
        cases found with
        | none => exact read
        | some n => exact ih.trans read

theorem lineEnd_less {k : Nat} (positive : 0 < k) (cs : List Char) : (lineEnd k cs).2 = true ∨ (lineEnd k cs).1.length < cs.length := by
  induction k generalizing cs with
  | zero => omega
  | succ k ih =>
    cases cs with
    | nil => exact Or.inl rfl
    | cons c cs =>
      rw [lineEnd]
      split
      · exact Or.inr (Nat.lt_succ_self _)
      · cases k with
        | zero => exact Or.inr (Nat.lt_succ_self _)
        | succ k => exact (ih (Nat.succ_pos k) cs).imp_right fun less => less.trans (Nat.lt_succ_self _)

/-- `fgets` always makes progress. -/
theorem fgets_left {size : Nat} (large : 1 < size) (more : s.eof = false) : (s.fgets size).left < s.left := by
  unfold left fgets
  dsimp only
  rw [more]
  obtain met | less := lineEnd_less (k := size - 1) (by omega) s.rest
  · simp [met]
  · cases (lineEnd (size - 1) s.rest).2 <;> simp [less]

/-- So does a round of `fscanf` and `fgets`. -/
theorem round_left {ds : List Directive} {size : Nat} (large : 1 < size) (more : s.eof = false) :
    ((scan ds s).2.fgets size).left < s.left := by
  have scanned := scan_left (s := s) ds
  cases met : (scan ds s).2.eof with
  | false => exact (fgets_left large met).trans_le scanned
  | true =>
    have positive : 0 < s.left := by
      rw [left, more]
      exact Nat.succ_pos _
    have none' : ((scan ds s).2.fgets size).left = 0 := by
      rw [left, fgets]
      simp [met]
    omega

/-! ## Lines -/

/-- A line is read to its end. -/
theorem lineEnd_line {k : Nat} (short : text.length < k) (clean : '\n' ∉ text) : lineEnd k (text ++ '\n' :: rest) = (rest, false) := by
  induction text generalizing k with
  | nil =>
    obtain ⟨k, rfl⟩ : ∃ m, k = m + 1 := ⟨k - 1, by simp at short; omega⟩
    exact if_pos rfl
  | cons c text ih =>
    rw [List.mem_cons, not_or] at clean
    obtain ⟨other, clean⟩ := clean
    obtain ⟨k, rfl⟩ : ∃ m, k = m + 1 := ⟨k - 1, by simp at short; omega⟩
    rw [List.cons_append, lineEnd, if_neg (Ne.symm other)]
    exact ih (by simpa using short) clean

/-- A word is read where it stands. -/
theorem scan_word (ds : List Directive) (e : Bool) : scan (w.map .literal ++ ds) ⟨w ++ rest, e⟩ = scan ds ⟨rest, e⟩ := by
  induction w with
  | nil => rfl
  | cons c w ih =>
    rw [List.map_cons, List.cons_append, List.cons_append, scan]
    exact (if_pos rfl).trans ih

/-- On a line that does not begin with the word nothing is converted, and the end of the line is left. -/
theorem scan_other (ds : List Directive) (e : Bool) (other : ¬ w <+: text) (clean : '\n' ∉ w) :
    ∃ u, u <:+ text ∧ scan (w.map .literal ++ ds) ⟨text ++ '\n' :: rest, e⟩ = ([], ⟨u ++ '\n' :: rest, e⟩) := by
  induction w generalizing text with
  | nil => exact absurd List.nil_prefix other
  | cons c w ih =>
    rw [List.mem_cons, not_or] at clean
    obtain ⟨first, clean⟩ := clean
    cases text with
    | nil => exact ⟨[], List.suffix_rfl, if_neg first⟩
    | cons x xs =>
      rw [List.map_cons, List.cons_append, List.cons_append, scan]
      dsimp only
      by_cases same : x = c
      · subst same
        have other : ¬ w <+: xs := fun begins => other (List.cons_prefix_cons.2 ⟨rfl, begins⟩)
        obtain ⟨u, ends, scanned⟩ := ih other clean
        exact ⟨u, ends.trans (List.suffix_cons x xs), (if_pos rfl).trans scanned⟩
      · exact ⟨x :: xs, List.suffix_rfl, if_neg same⟩

theorem decimal_digits (n : Nat) : ∀ c ∈ decimal n, c.isDigit = true :=
  fun _ member => Nat.isDigit_of_mem_toDigits (by decide) (by decide) member

theorem digit_plain {c : Char} (digit : c.isDigit = true) : isSpace c = false ∧ c ≠ '-' ∧ c ≠ '+' := by
  refine ⟨?_, ?_, ?_⟩
  · rw [isSpace, decide_eq_false_iff_not]
    intro member
    simp only [List.mem_cons, List.not_mem_nil, or_false] at member
    rcases member with rfl | rfl | rfl | rfl | rfl | rfl <;> exact absurd digit (by decide)
  · rintro rfl
    exact absurd digit (by decide)
  · rintro rfl
    exact absurd digit (by decide)

/-- A number that something else than a digit follows is read. -/
theorem readInt_decimal (n : Fin 256) {c : Char} (other : c.isDigit = false) (e : Bool) :
    readInt ⟨decimal n ++ c :: rest, e⟩ = (some (n.val : Int), ⟨c :: rest, e⟩) := by
  obtain ⟨d, ds, shape, digit⟩ := decimal_head n
  obtain ⟨plain, minus, plus⟩ := digit_plain digit
  have stays : (decimal n ++ c :: rest).dropWhile isSpace = decimal n ++ c :: rest := by
    rw [shape, List.cons_append, List.dropWhile_cons_of_neg (by rw [plain]; exact Bool.false_ne_true)]
  have skipped : skip isSpace ⟨decimal n ++ c :: rest, e⟩ = ⟨decimal n ++ c :: rest, e⟩ := by
    rw [skip, stays, shape]
    simp
  have unsigned : unsign ⟨decimal n ++ c :: rest, e⟩ = (false, ⟨decimal n ++ c :: rest, e⟩) := by
    unfold unsign
    dsimp only
    split
    · rename_i same
      rw [shape] at same
      exact absurd (List.cons.inj same).1 minus
    · rename_i same
      rw [shape] at same
      exact absurd (List.cons.inj same).1 plus
    · rfl
  have taken : (decimal n ++ c :: rest).takeWhile Char.isDigit = decimal n := by
    rw [List.takeWhile_append_of_pos (decimal_digits n), List.takeWhile_cons_of_neg (by rw [other]; exact Bool.false_ne_true),
      List.append_nil]
  have dropped : (decimal n ++ c :: rest).dropWhile Char.isDigit = c :: rest := by
    rw [List.dropWhile_append_of_pos (decimal_digits n), List.dropWhile_cons_of_neg (by rw [other]; exact Bool.false_ne_true)]
  have value : (decimal n).foldl (fun n c => 10 * n + (c.toNat - 48)) 0 = n.val := Nat.ofDigitChars_toDigits (by decide) (by decide)
  have small := n.isLt
  rw [readInt, skipped, unsigned]
  dsimp only
  rw [taken]
  split
  · rename_i none'
    rw [shape] at none'
    cases none'
  · rw [value, skip]
    dsimp only
    rw [dropped, if_neg Bool.false_ne_true]
    have stored : (BitVec.ofInt 32 (min (n.val : Int) (2 ^ 63 - 1))).toInt = n.val := by
      rw [BitVec.toInt_ofInt, Int.bmod_def]
      omega
    rw [stored]
    simp

end Stream

end Lib
