import ArtikSdk.Lib.Bytes
import ArtikSdk.Lib.Printf
import ArtikSdk.Websocket.UriAgreement

/-!
# Numbers in the replies of the supplicant

What `%d` and `%02x` print of a number and of a byte, and what `atoi` and `strtol` read of what was
printed.
-/

namespace ArtikSdk.Wifi
open Lib Websocket

/-- The digits of a number. -/
def digits (n : Nat) : List Char := Nat.toDigits 10 n

variable {n : Nat} {c : Char} {rest : List Char}

theorem isDigit_of_mem_digits (member : c ∈ digits n) : Websocket.isDigit c = true :=
  Nat.isDigit_of_mem_toDigits (by decide) (by decide) member

theorem digits_ne_nil : digits n ≠ [] := Nat.toDigits_ne_nil

/-- A character that is no digit is in no number. -/
theorem not_mem_digits (other : Websocket.isDigit c = false) : c ∉ digits n := fun member => by
  rw [isDigit_of_mem_digits member] at other
  cases other

theorem decimal_digits (n : Nat) : decimal (digits n) = n := Nat.ofDigitChars_toDigits (by decide) (by decide)

theorem printed_digits (n : Nat) : (Printf.Arg.d n).text = digits n := by
  change (toString n).toList = _
  rw [Nat.toString_eq_ofList_toDigits, String.toList_ofList, digits]

theorem printed_negative (n : Nat) : (Printf.Arg.d (Int.negSucc n)).text = '-' :: digits (n + 1) := by
  have minus : toString (Int.negSucc n) = "-" ++ toString (n + 1) := rfl
  change (toString (Int.negSucc n)).toList = _
  rw [minus, String.toList_append]
  exact congrArg ('-' :: ·) (printed_digits (n + 1))

/-- Digits end where there is none. -/
theorem digits_append_cut (stops : ∀ c ∈ rest.head?, Websocket.isDigit c = false) :
    (digits n ++ rest).takeWhile Websocket.isDigit = digits n ∧ (digits n ++ rest).dropWhile Websocket.isDigit = rest := by
  have tests : ∀ c ∈ digits n, Websocket.isDigit c = true := fun c member => isDigit_of_mem_digits member
  rw [List.takeWhile_append_of_pos tests, List.dropWhile_append_of_pos tests]
  cases rest with
  | nil => exact ⟨List.append_nil _, rfl⟩
  | cons c rest =>
    have stop := stops c rfl
    rw [List.takeWhile_cons_of_neg (by simp [stop]), List.dropWhile_cons_of_neg (by simp [stop])]
    exact ⟨List.append_nil _, rfl⟩

/-- The number in front of something else. -/
theorem scanNumber_digits_append (stops : ∀ c ∈ rest.head?, Websocket.isDigit c = false) :
    scanNumber (digits n ++ rest) = (false, digits n, rest) := by
  obtain ⟨d, ds, same⟩ := List.exists_cons_of_ne_nil (digits_ne_nil (n := n))
  have first : Websocket.isDigit d = true := isDigit_of_mem_digits (n := n) (same ▸ List.mem_cons_self ..)
  have head : (digits n ++ rest).head? = some d := by rw [same]; rfl
  have minus : (digits n ++ rest).head? ≠ some '-' := fun sign => (digit_not_sign first).1 (Option.some.inj (head.symm.trans sign))
  have plus : (digits n ++ rest).head? ≠ some '+' := fun sign => (digit_not_sign first).2 (Option.some.inj (head.symm.trans sign))
  have body : (digits n ++ rest).dropWhile isSpace = digits n ++ rest := by
    rw [same, List.cons_append, List.dropWhile_cons_of_neg (by simp [digit_not_space first])]
  obtain ⟨taken, left⟩ := digits_append_cut stops
  rw [scanNumber, body, if_neg (not_or.2 ⟨minus, plus⟩), decide_eq_false minus, taken, left]

/-- The number with a minus. -/
theorem scanNumber_minus_append (stops : ∀ c ∈ rest.head?, Websocket.isDigit c = false) :
    scanNumber ('-' :: (digits n ++ rest)) = (true, digits n, rest) := by
  have body : ('-' :: (digits n ++ rest)).dropWhile isSpace = '-' :: (digits n ++ rest) := List.dropWhile_cons_of_neg (by decide)
  have minus : ('-' :: (digits n ++ rest)).head? = some '-' := rfl
  obtain ⟨taken, left⟩ := digits_append_cut (n := n) stops
  rw [scanNumber, body, if_pos (Or.inl minus), decide_eq_true minus, List.tail_cons, taken, left]

/-- **What `atoi` reads** of a number in front of something else. -/
theorem atoi_digits_append (small : n < 2 ^ 31) (stops : ∀ c ∈ rest.head?, Websocket.isDigit c = false) :
    atoi (digits n ++ rest) = .ok (n : Int) := by
  have range : -2 ^ 31 ≤ (n : Int) ∧ (n : Int) < 2 ^ 31 := by omega
  rw [atoi, scanNumber_digits_append stops]
  simp only [decimal_digits, Bool.false_eq_true, if_false, if_pos range]

/-- What `atoi` reads of what `%d` prints. -/
theorem atoi_printed_append {i : Int} (small : -2 ^ 31 ≤ i ∧ i < 2 ^ 31) (stops : ∀ c ∈ rest.head?, Websocket.isDigit c = false) :
    atoi ((Printf.Arg.d i).text ++ rest) = .ok i := by
  cases i with
  | ofNat n =>
    have printed : (Printf.Arg.d (Int.ofNat n)).text = digits n := printed_digits n
    rw [printed]
    exact atoi_digits_append (Int.ofNat_lt.1 small.2) stops
  | negSucc n =>
    have value : -((n + 1 : Nat) : Int) = Int.negSucc n := rfl
    rw [printed_negative, atoi, List.cons_append, scanNumber_minus_append stops]
    simp only [decimal_digits, if_true, value, if_pos small]

/-! ## Bytes -/

def isHexDigit (c : Char) : Bool := Websocket.isDigit c || 'a' ≤ c && c ≤ 'f' || 'A' ≤ c && c ≤ 'F'

def hexDigit (c : Char) : Nat :=
  if Websocket.isDigit c then c.toNat - '0'.toNat else if 'a' ≤ c then c.toNat - 'a'.toNat + 10 else c.toNat - 'A'.toNat + 10

/-- `strtol(s, NULL, 16)`, which stops at the ends of `long`. -/
def strtol16 (s : List Char) : Int :=
  let body := s.dropWhile isSpace
  let negative := body.head? = some '-'
  let body := if negative ∨ body.head? = some '+' then body.tail else body
  let body :=
    match body with
    | '0' :: x :: c :: rest => if (x = 'x' ∨ x = 'X') ∧ isHexDigit c then c :: rest else body
    | _ => body
  let value := (body.takeWhile isHexDigit).foldl (fun n c => 16 * n + hexDigit c) 0
  if negative then max (-2 ^ 63) (-(value : Int)) else min (2 ^ 63 - 1) (value : Int)

/-- What `%02x` prints of a byte. -/
def hexByte (b : Byte) : List Char := [Nat.digitChar (b.toNat / 16), Nat.digitChar (b.toNat % 16)]

variable {b : Byte}

theorem strtol16_hexByte (b : Byte) : strtol16 (hexByte b) = b.toNat := by
  have all : ∀ high < 16, ∀ low < 16, strtol16 [Nat.digitChar high, Nat.digitChar low] = ((16 * high + low : Nat) : Int) := by decide +kernel
  have small := b.isLt
  rw [hexByte, all _ (by omega) _ (by omega), Nat.div_add_mod]

theorem isHexDigit_of_mem_hexByte (member : c ∈ hexByte b) : isHexDigit c = true := by
  have all : ∀ k < 16, isHexDigit (Nat.digitChar k) = true := by decide
  have small := b.isLt
  obtain rfl | rfl : c = _ ∨ c = _ := by simpa [hexByte] using member
  · exact all _ (by omega)
  · exact all _ (by omega)

/-- A character that is no digit is in no byte. -/
theorem not_mem_hexByte (other : isHexDigit c = false) : c ∉ hexByte b := fun member => by
  rw [isHexDigit_of_mem_hexByte member] at other
  cases other

end ArtikSdk.Wifi
