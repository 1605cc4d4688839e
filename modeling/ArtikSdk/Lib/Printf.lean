import Mathlib.Tactic

/-!
# Formatted output

`snprintf` on formats whose conversions are `%s` and `%d`, each with an argument of its kind. A
string is the list of its characters before the final null, so that a buffer of `size` bytes has
room for one that is shorter than `size`.
-/

namespace Lib.Printf

/-- An argument of a conversion. -/
inductive Arg where
  | s (text : List Char)
  | d (value : Int)
deriving DecidableEq

def Arg.text : Arg → List Char
  | .s text => text
  | .d value => (toString value).toList

/-- The string that a format makes of its arguments. -/
def sprintf : List Char → List Arg → List Char
  | '%' :: _ :: format, arg :: args => arg.text ++ sprintf format args
  | c :: format, args => c :: sprintf format args
  | [], _ => []

/-- A conversion is two characters longer than nothing. -/
theorem length_sprintf_le (format : List Char) (args : List Arg) :
    (sprintf format args).length ≤ format.length + (args.map fun a => a.text.length).sum := by
  fun_induction sprintf format args with
  | case1 c format arg args ih =>
    rw [List.length_append, List.length_cons, List.length_cons, List.map_cons, List.sum_cons]
    omega
  | case2 c format args _ ih =>
    rw [List.length_cons, List.length_cons]
    omega
  | case3 args => exact Nat.zero_le _

/-- A buffer, which has room for the final null. -/
structure Buffer where
  size : Nat
  positive : 0 < size
deriving DecidableEq

/-- What `snprintf` leaves in a buffer. -/
def snprintf (b : Buffer) (format : List Char) (args : List Arg) : List Char := (sprintf format args).take (b.size - 1)

/-- The buffer holds the whole string if and only if it has room for it and the final null. -/
theorem snprintf_eq_iff (b : Buffer) (format : List Char) (args : List Arg) :
    snprintf b format args = sprintf format args ↔ (sprintf format args).length < b.size := by
  have positive := b.positive
  unfold snprintf
  rw [List.take_eq_self_iff]
  omega

/-! ## Strings to pass on -/

/-- A string that a function passes on: a literal, or one that it formats into a buffer. -/
inductive Text where
  | literal (text : List Char)
  | printed (buffer : Buffer) (format : List Char) (args : List Arg)
deriving DecidableEq

/-- The string that is meant. -/
def Text.complete : Text → List Char
  | .literal text => text
  | .printed _ format args => sprintf format args

/-- The string that is there. -/
def Text.held : Text → List Char
  | .literal text => text
  | .printed buffer format args => snprintf buffer format args

/-- The string, with its final null, fits its buffer. -/
def Text.Fits : Text → Prop
  | .literal _ => True
  | .printed buffer format args => (sprintf format args).length < buffer.size

theorem Text.held_eq_iff (t : Text) : t.held = t.complete ↔ t.Fits := by
  cases t with
  | literal text => exact iff_of_true rfl trivial
  | printed buffer format args => exact snprintf_eq_iff buffer format args

end Lib.Printf
