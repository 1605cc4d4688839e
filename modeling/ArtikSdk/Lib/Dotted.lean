import Mathlib.Computability.RegularExpressions
import Mathlib.Tactic

/-!
# Dotted quads

The text of an IPv4 address, `a.b.c.d` in decimal without leading zeros; the regular expression that
matches these texts and no others; and `inet_aton`, which reads more than these.
-/

namespace Lib.Dotted

/-! ## Texts -/

def decimal (n : Nat) : List Char := Nat.toDigits 10 n

theorem decimal_one {n : Nat} (small : n < 10) : decimal n = [Nat.digitChar n] := Nat.toDigits_of_lt_base small

theorem decimal_two {n : Nat} (large : 10 ≤ n) (small : n < 100) : decimal n = [Nat.digitChar (n / 10), Nat.digitChar (n % 10)] := by
  rw [decimal, Nat.toDigits_of_base_le (by decide) large, Nat.toDigits_of_lt_base (by omega)]
  rfl

theorem decimal_three {n : Nat} (large : 100 ≤ n) (small : n < 1000) :
    decimal n = [Nat.digitChar (n / 100), Nat.digitChar (n / 10 % 10), Nat.digitChar (n % 10)] := by
  rw [decimal, Nat.toDigits_of_base_le (by decide) (by omega), Nat.toDigits_of_base_le (by decide) (by omega),
    Nat.toDigits_of_lt_base (by omega), Nat.div_div_eq_div_mul]
  rfl

/-- The bytes of an address, in the order of the memory. -/
@[ext] structure Quad where
  a : Fin 256
  b : Fin 256
  c : Fin 256
  d : Fin 256
deriving DecidableEq

def Quad.text (q : Quad) : List Char :=
  decimal q.a ++ '.' :: (decimal q.b ++ '.' :: (decimal q.c ++ '.' :: decimal q.d))

/-! ## The regular expression -/

open RegularExpression

/-- A bracket expression of the digits from `lo` to `hi`. -/
def digits (lo hi : Nat) : RegularExpression Char :=
  ((List.range' lo (hi + 1 - lo)).map fun k => char (Nat.digitChar k)).sum

theorem mem_sum {rs : List (RegularExpression Char)} {s : List Char} : s ∈ rs.sum.matches' ↔ ∃ r ∈ rs, s ∈ r.matches' := by
  induction rs with
  | nil => simp
  | cons r rs ih =>
    rw [List.sum_cons, matches'_add, Language.mem_add, ih, List.exists_mem_cons_iff]

theorem mem_digits {lo hi : Nat} {s : List Char} : s ∈ (digits lo hi).matches' ↔ ∃ k, lo ≤ k ∧ k ≤ hi ∧ s = [Nat.digitChar k] := by
  rw [digits, mem_sum]
  constructor
  · rintro ⟨r, member, matched⟩
    obtain ⟨k, range, rfl⟩ := List.mem_map.1 member
    rw [List.mem_range'_1] at range
    exact ⟨k, range.1, by omega, matched⟩
  · rintro ⟨k, low, high, rfl⟩
    refine ⟨_, List.mem_map_of_mem (List.mem_range'_1.2 ⟨low, by omega⟩), ?_⟩
    rw [matches'_char]
    rfl

theorem mem_then {r q : RegularExpression Char} {s : List Char} :
    s ∈ (r * q).matches' ↔ ∃ t ∈ r.matches', ∃ u ∈ q.matches', t ++ u = s := by
  rw [matches'_mul, Language.mem_mul]

/-- `[0-9]|[1-9][0-9]|1[0-9]{2}|2[0-4][0-9]|25[0-5]` -/
def octet : RegularExpression Char :=
  digits 0 9 + digits 1 9 * digits 0 9 + digits 1 1 * (digits 0 9 * digits 0 9) + digits 2 2 * (digits 0 4 * digits 0 9) +
    digits 2 2 * (digits 5 5 * digits 0 5)

theorem mem_two {lo hi lo' hi' : Nat} {s : List Char} :
    s ∈ (digits lo hi * digits lo' hi').matches' ↔
      ∃ j k, (lo ≤ j ∧ j ≤ hi) ∧ (lo' ≤ k ∧ k ≤ hi') ∧ s = [Nat.digitChar j, Nat.digitChar k] := by
  rw [mem_then]
  constructor
  · rintro ⟨t, first, u, second, rfl⟩
    obtain ⟨j, low, high, rfl⟩ := mem_digits.1 first
    obtain ⟨k, low', high', rfl⟩ := mem_digits.1 second
    exact ⟨j, k, ⟨low, high⟩, ⟨low', high'⟩, rfl⟩
  · rintro ⟨j, k, first, second, rfl⟩
    exact ⟨_, mem_digits.2 ⟨j, first.1, first.2, rfl⟩, _, mem_digits.2 ⟨k, second.1, second.2, rfl⟩, rfl⟩

theorem mem_three {n lo hi lo' hi' : Nat} {s : List Char} :
    s ∈ (digits n n * (digits lo hi * digits lo' hi')).matches' ↔
      ∃ j k, (lo ≤ j ∧ j ≤ hi) ∧ (lo' ≤ k ∧ k ≤ hi') ∧ s = [Nat.digitChar n, Nat.digitChar j, Nat.digitChar k] := by
  rw [mem_then]
  constructor
  · rintro ⟨t, first, u, second, rfl⟩
    obtain ⟨i, low, high, rfl⟩ := mem_digits.1 first
    obtain rfl : i = n := by omega
    obtain ⟨j, k, tens, ones, rfl⟩ := mem_two.1 second
    exact ⟨j, k, tens, ones, rfl⟩
  · rintro ⟨j, k, first, second, rfl⟩
    exact ⟨_, mem_digits.2 ⟨n, le_rfl, le_rfl, rfl⟩, _, mem_two.2 ⟨j, k, first, second, rfl⟩, rfl⟩

/-- It matches the numbers of a byte, without leading zeros. -/
theorem mem_octet {s : List Char} : s ∈ octet.matches' ↔ ∃ n : Fin 256, s = decimal n := by
  simp only [octet, matches'_add, Language.mem_add, mem_digits, mem_two, mem_three]
  constructor
  · rintro ((((⟨k, low, high, rfl⟩ | ⟨j, k, first, second, rfl⟩) | ⟨j, k, first, second, rfl⟩) | ⟨j, k, first, second, rfl⟩) |
      ⟨j, k, first, second, rfl⟩)
    · exact ⟨⟨k, by omega⟩, (decimal_one (by omega)).symm⟩
    · refine ⟨⟨10 * j + k, by omega⟩, ?_⟩
      rw [decimal_two (by dsimp only; omega) (by dsimp only; omega), show (10 * j + k) / 10 = j by omega,
        show (10 * j + k) % 10 = k by omega]
    · refine ⟨⟨100 + 10 * j + k, by omega⟩, ?_⟩
      rw [decimal_three (by dsimp only; omega) (by dsimp only; omega), show (100 + 10 * j + k) / 100 = 1 by omega,
        show (100 + 10 * j + k) / 10 % 10 = j by omega, show (100 + 10 * j + k) % 10 = k by omega]
    · refine ⟨⟨200 + 10 * j + k, by omega⟩, ?_⟩
      rw [decimal_three (by dsimp only; omega) (by dsimp only; omega), show (200 + 10 * j + k) / 100 = 2 by omega,
        show (200 + 10 * j + k) / 10 % 10 = j by omega, show (200 + 10 * j + k) % 10 = k by omega]
    · refine ⟨⟨200 + 10 * j + k, by omega⟩, ?_⟩
      rw [decimal_three (by dsimp only; omega) (by dsimp only; omega), show (200 + 10 * j + k) / 100 = 2 by omega,
        show (200 + 10 * j + k) / 10 % 10 = j by omega, show (200 + 10 * j + k) % 10 = k by omega]
  · rintro ⟨⟨n, small⟩, rfl⟩
    dsimp only
    by_cases one : n < 10
    · exact Or.inl (Or.inl (Or.inl (Or.inl ⟨n, by omega, by omega, decimal_one one⟩)))
    · by_cases two : n < 100
      · exact Or.inl (Or.inl (Or.inl (Or.inr ⟨n / 10, n % 10, by omega, by omega, decimal_two (by omega) two⟩)))
      · rw [decimal_three (by omega) (by omega)]
        by_cases hundred : n < 200
        · exact Or.inl (Or.inl (Or.inr ⟨n / 10 % 10, n % 10, by omega, by omega, by rw [show n / 100 = 1 by omega]⟩))
        · rw [show n / 100 = 2 by omega]
          by_cases fifty : n < 250
          · exact Or.inl (Or.inr ⟨n / 10 % 10, n % 10, by omega, by omega, rfl⟩)
          · exact Or.inr ⟨n / 10 % 10, n % 10, by omega, by omega, rfl⟩

/-- `^(([0-9]|[1-9][0-9]|1[0-9]{2}|2[0-4][0-9]|25[0-5])\.){3}([0-9]|[1-9][0-9]|1[0-9]{2}|2[0-4][0-9]|25[0-5])$` -/
def dottedQuad : RegularExpression Char := (octet * char '.') ^ 3 * octet

theorem mem_octet_dot {s : List Char} : s ∈ (octet * char '.').matches' ↔ ∃ n : Fin 256, s = decimal n ++ ['.'] := by
  rw [mem_then]
  constructor
  · rintro ⟨t, matched, u, dot, rfl⟩
    obtain ⟨n, rfl⟩ := mem_octet.1 matched
    rw [matches'_char] at dot
    obtain rfl : u = ['.'] := dot
    exact ⟨n, rfl⟩
  · rintro ⟨n, rfl⟩
    exact ⟨_, mem_octet.2 ⟨n, rfl⟩, ['.'], by rw [matches'_char]; rfl, rfl⟩

/-- **It matches exactly the texts of addresses.** -/
theorem dottedQuad_iff {s : List Char} : dottedQuad.rmatch s = true ↔ ∃ q : Quad, s = q.text := by
  rw [rmatch_iff_matches', dottedQuad, matches'_mul, matches'_pow, pow_succ, pow_succ, pow_one, Language.mem_mul]
  constructor
  · rintro ⟨three, dots, u, last, rfl⟩
    obtain ⟨two, more, v, third, rfl⟩ := Language.mem_mul.1 dots
    obtain ⟨one, first, w, second, rfl⟩ := Language.mem_mul.1 more
    obtain ⟨a, rfl⟩ := mem_octet_dot.1 first
    obtain ⟨b, rfl⟩ := mem_octet_dot.1 second
    obtain ⟨c, rfl⟩ := mem_octet_dot.1 third
    obtain ⟨d, rfl⟩ := mem_octet.1 last
    exact ⟨⟨a, b, c, d⟩, by simp [Quad.text]⟩
  · rintro ⟨⟨a, b, c, d⟩, rfl⟩
    refine ⟨_, Language.mem_mul.2 ⟨_, Language.mem_mul.2 ⟨_, mem_octet_dot.2 ⟨a, rfl⟩, _, mem_octet_dot.2 ⟨b, rfl⟩, rfl⟩, _,
      mem_octet_dot.2 ⟨c, rfl⟩, rfl⟩, _, mem_octet.2 ⟨d, rfl⟩, ?_⟩
    simp [Quad.text]

/-! ## `inet_aton` -/

def digitValue (c : Char) : Nat :=
  if c.isDigit then c.toNat - 48 else if 'a' ≤ c ∧ c ≤ 'z' then c.toNat - 87 else if 'A' ≤ c ∧ c ≤ 'Z' then c.toNat - 55 else 36

/-- The base of a number as in C, and its digits and what follows. -/
def base : List Char → Nat × List Char
  | '0' :: x :: h :: cs => if (x = 'x' ∨ x = 'X') ∧ digitValue h < 16 then (16, h :: cs) else (8, '0' :: x :: h :: cs)
  | '0' :: cs => (8, '0' :: cs)
  | cs => (10, cs)

/-- `strtoul` with base 0, without its bound, and what follows the number. -/
def strtoul (cs : List Char) : Nat × List Char :=
  let (b, ds) := base cs
  ((ds.takeWhile fun c => digitValue c < b).foldl (fun n c => b * n + digitValue c) 0, ds.dropWhile fun c => digitValue c < b)

def isSpace (c : Char) : Bool := c ∈ [' ', '\t', '\n', '\x0b', '\x0c', '\r']

/-- A number as bytes, the first one the most significant. -/
def bigEndian (k n : Nat) : List Nat := (List.range k).map fun i => n / 256 ^ (k - 1 - i) % 256

/-- Bytes as a number, the first one the least significant. -/
def littleEndian (bytes : List Nat) : Nat := bytes.foldr (fun b n => b + 256 * n) 0

/-- `parts` have been read; the last one takes the bytes that are left. -/
def inetAtonFrom : Nat → List Nat → List Char → Option (BitVec 32)
  | dots, parts, cs =>
    if cs.head?.any Char.isDigit = false then none
    else
      let (val, rest) := strtoul cs
      if val > 0xffffffff then none
      else if rest.head? = some '.' then
        match dots with
        | 0 => none
        | dots + 1 => if val > 0xff then none else inetAtonFrom dots (parts ++ [val]) rest.tail
      else if rest.head?.any (fun c => ! isSpace c) then none
      else if val ≥ 256 ^ (4 - parts.length) then none
      else some (BitVec.ofNat 32 (littleEndian (parts ++ bigEndian (4 - parts.length) val)))

/-- The address as it lies in the memory, read as a word that starts with the least significant byte. -/
def inetAton (cs : List Char) : Option (BitVec 32) := inetAtonFrom 3 [] cs

def Quad.word (q : Quad) : BitVec 32 := BitVec.ofNat 32 (q.a + 256 * (q.b + 256 * (q.c + 256 * q.d)))

theorem digitChar_value {k : Nat} (small : k < 10) : digitValue (Nat.digitChar k) = k ∧ (Nat.digitChar k).isDigit = true :=
  (by decide : ∀ k < 10, digitValue (Nat.digitChar k) = k ∧ (Nat.digitChar k).isDigit = true) k small

theorem digitChar_zero {k : Nat} (small : k < 10) (positive : k ≠ 0) : Nat.digitChar k ≠ '0' :=
  (by decide : ∀ k < 10, k ≠ 0 → Nat.digitChar k ≠ '0') k small positive

theorem base_ten {c : Char} {cs : List Char} (other : c ≠ '0') : base (c :: cs) = (10, c :: cs) := by
  unfold base
  split
  · rename_i same
    cases same
    exact absurd rfl other
  · rename_i same
    cases same
    exact absurd rfl other
  · rfl

/-- A number that a dot or the end follows is read as it is written. -/
theorem strtoul_decimal (n : Fin 256) {rest : List Char} (ends : rest = [] ∨ rest.head? = some '.') :
    strtoul (decimal n ++ rest) = (n.val, rest) := by
  obtain ⟨n, small⟩ := n
  dsimp only
  have stop (b : Nat) (le : b ≤ 36) : (rest.takeWhile fun c => digitValue c < b) = [] ∧ (rest.dropWhile fun c => digitValue c < b) = rest := by
    have dot : digitValue '.' = 36 := by decide
    cases rest with
    | nil => exact ⟨rfl, rfl⟩
    | cons c cs =>
      obtain none' | first := ends
      · cases none'
      · obtain rfl : c = '.' := Option.some.inj first
        have past : ¬ digitValue '.' < b := by omega
        exact ⟨List.takeWhile_cons_of_neg (by simpa using past), List.dropWhile_cons_of_neg (by simpa using past)⟩
  obtain ⟨taken, dropped⟩ := stop 10 (by decide)
  by_cases zero : n = 0
  · subst zero
    obtain ⟨taken, dropped⟩ := stop 8 (by decide)
    have octal : base ('0' :: rest) = (8, '0' :: rest) := by
      unfold base
      split
      · rename_i x h cs same
        obtain rfl := (List.cons.inj same).2
        obtain none' | first := ends
        · cases none'
        · obtain rfl : x = '.' := Option.some.inj first
          exact if_neg fun both => absurd both.1 (by decide)
      · rename_i same
        exact congrArg _ same.symm
      · rename_i none'
        exact absurd rfl (none' _)
    have shape : decimal 0 ++ rest = '0' :: rest := rfl
    have value : digitValue '0' = 0 := by decide
    rw [shape, strtoul, octal]
    simp [value, taken, dropped]
  · by_cases one : n < 10
    · rw [decimal_one one, List.cons_append, List.nil_append, strtoul, base_ten (digitChar_zero one zero)]
      simp [(digitChar_value one).1, one, taken, dropped]
    · have ones := digitChar_value (k := n % 10) (by omega)
      have low : n % 10 < 10 := by omega
      by_cases two : n < 100
      · have tens := digitChar_value (k := n / 10) (by omega)
        rw [decimal_two (by omega) two, List.cons_append, List.cons_append, List.nil_append, strtoul,
          base_ten (digitChar_zero (by omega) (by omega))]
        have high : n / 10 < 10 := by omega
        simp [ones.1, tens.1, low, high, taken, dropped]
        omega
      · have hundreds := digitChar_value (k := n / 100) (by omega)
        have tens := digitChar_value (k := n / 10 % 10) (by omega)
        rw [decimal_three (by omega) (by omega), List.cons_append, List.cons_append, List.cons_append, List.nil_append, strtoul,
          base_ten (digitChar_zero (by omega) (by omega))]
        have high : n / 100 < 10 := by omega
        have mid : n / 10 % 10 < 10 := by omega
        simp [ones.1, tens.1, hundreds.1, low, mid, high, taken, dropped]
        omega

theorem decimal_head (n : Fin 256) : ∃ c cs, decimal n = c :: cs ∧ c.isDigit = true := by
  cases shape : decimal n with
  | nil => exact absurd shape Nat.toDigits_ne_nil
  | cons c cs =>
    refine ⟨c, cs, rfl, ?_⟩
    exact Nat.isDigit_of_mem_toDigits (by decide) (by decide) (shape ▸ List.mem_cons_self .. : c ∈ decimal n)

theorem inetAtonFrom_dot (n : Fin 256) (dots : Nat) (parts : List Nat) (rest : List Char) :
    inetAtonFrom (dots + 1) parts (decimal n ++ '.' :: rest) = inetAtonFrom dots (parts ++ [n.val]) rest := by
  obtain ⟨c, cs, shape, digit⟩ := decimal_head n
  have small := n.isLt
  rw [inetAtonFrom, strtoul_decimal n (Or.inr rfl), if_neg (by rw [shape]; simp [digit])]
  dsimp only
  rw [if_neg (by omega), if_pos (List.head?_cons ..), if_neg (by omega), List.tail_cons]

theorem inetAtonFrom_end (n : Fin 256) (dots : Nat) {parts : List Nat} (three : parts.length = 3) :
    inetAtonFrom dots parts (decimal n) = some (BitVec.ofNat 32 (littleEndian (parts ++ [n.val]))) := by
  obtain ⟨c, cs, shape, digit⟩ := decimal_head n
  have small := n.isLt
  have read := strtoul_decimal n (Or.inl (Eq.refl ([] : List Char)))
  rw [List.append_nil] at read
  rw [inetAtonFrom, read, if_neg (by rw [shape]; simp [digit])]
  dsimp only
  rw [if_neg (by omega), if_neg (by simp), if_neg (by simp), three, if_neg (by omega)]
  simp [bigEndian, Nat.mod_eq_of_lt small]

/-- **It reads the text of an address.** -/
theorem inetAton_text (q : Quad) : inetAton q.text = some q.word := by
  rw [inetAton, Quad.text, inetAtonFrom_dot, inetAtonFrom_dot, inetAtonFrom_dot, inetAtonFrom_end _ _ rfl]
  simp [littleEndian, Quad.word]

/-- The bytes of a word are those of the address. -/
theorem Quad.bytes (q : Quad) :
    (q.word &&& 0xff).toNat = q.a ∧ (q.word >>> 8 &&& 0xff).toNat = q.b ∧ (q.word >>> 16 &&& 0xff).toNat = q.c ∧
      (q.word >>> 24 &&& 0xff).toNat = q.d := by
  have a := q.a.isLt
  have b := q.b.isLt
  have c := q.c.isLt
  have d := q.d.isLt
  have low (n : Nat) : n &&& 255 = n % 256 := Nat.and_two_pow_sub_one_eq_mod n 8
  have whole : q.word.toNat = q.a + 256 * (q.b + 256 * (q.c + 256 * q.d)) := by
    rw [word, BitVec.toNat_ofNat, Nat.mod_eq_of_lt (by omega)]
  simp only [BitVec.toNat_and, BitVec.toNat_ushiftRight, whole, Nat.shiftRight_eq_div_pow]
  have mask : (0xff : BitVec 32).toNat = 255 := rfl
  rw [mask, low, low, low, low]
  omega

end Lib.Dotted
