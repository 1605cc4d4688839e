import Mathlib.Tactic

/-!
# SHA-256

The hash of a list of bytes, block by block.
-/

namespace Lib.Sha256

def initial : List UInt32 :=
  [0x6a09e667, 0xbb67ae85, 0x3c6ef372, 0xa54ff53a, 0x510e527f, 0x9b05688c, 0x1f83d9ab, 0x5be0cd19]

def constants : List UInt32 :=
  [0x428a2f98, 0x71374491, 0xb5c0fbcf, 0xe9b5dba5, 0x3956c25b, 0x59f111f1, 0x923f82a4, 0xab1c5ed5,
    0xd807aa98, 0x12835b01, 0x243185be, 0x550c7dc3, 0x72be5d74, 0x80deb1fe, 0x9bdc06a7, 0xc19bf174,
    0xe49b69c1, 0xefbe4786, 0x0fc19dc6, 0x240ca1cc, 0x2de92c6f, 0x4a7484aa, 0x5cb0a9dc, 0x76f988da,
    0x983e5152, 0xa831c66d, 0xb00327c8, 0xbf597fc7, 0xc6e00bf3, 0xd5a79147, 0x06ca6351, 0x14292967,
    0x27b70a85, 0x2e1b2138, 0x4d2c6dfc, 0x53380d13, 0x650a7354, 0x766a0abb, 0x81c2c92e, 0x92722c85,
    0xa2bfe8a1, 0xa81a664b, 0xc24b8b70, 0xc76c51a3, 0xd192e819, 0xd6990624, 0xf40e3585, 0x106aa070,
    0x19a4c116, 0x1e376c08, 0x2748774c, 0x34b0bcb5, 0x391c0cb3, 0x4ed8aa4a, 0x5b9cca4f, 0x682e6ff3,
    0x748f82ee, 0x78a5636f, 0x84c87814, 0x8cc70208, 0x90befffa, 0xa4506ceb, 0xbef9a3f7, 0xc67178f2]

def rotr (x n : UInt32) : UInt32 := (x >>> n) ||| (x <<< (32 - n))

def word (bytes : List UInt8) : UInt32 := bytes.foldl (fun w b => (w <<< 8) ||| b.toUInt32) 0

/-- The message schedule, latest word first. -/
def schedule : Nat → List UInt32 → List UInt32
  | 0, ws => ws
  | n + 1, ws =>
    let w₂ := ws.getD 1 0
    let w₁₅ := ws.getD 14 0
    let s₁ := rotr w₂ 17 ^^^ rotr w₂ 19 ^^^ (w₂ >>> 10)
    let s₀ := rotr w₁₅ 7 ^^^ rotr w₁₅ 18 ^^^ (w₁₅ >>> 3)
    schedule n ((s₁ + ws.getD 6 0 + s₀ + ws.getD 15 0) :: ws)

def round (state : List UInt32) (kw : UInt32 × UInt32) : List UInt32 :=
  match state with
  | [a, b, c, d, e, f, g, h] =>
    let t₁ := h + (rotr e 6 ^^^ rotr e 11 ^^^ rotr e 25) + ((e &&& f) ^^^ (~~~e &&& g)) + kw.1 + kw.2
    let t₂ := (rotr a 2 ^^^ rotr a 13 ^^^ rotr a 22) + ((a &&& b) ^^^ (a &&& c) ^^^ (b &&& c))
    [t₁ + t₂, a, b, c, d + t₁, e, f, g]
  | _ => state

def words (block : List UInt8) : List UInt32 := (List.range 16).map fun i => word ((block.drop (4 * i)).take 4)

def compress (state : List UInt32) (block : List UInt8) : List UInt32 :=
  List.zipWith (· + ·) state ((constants.zip (schedule 48 (words block).reverse).reverse).foldl round state)

/-- The bytes of a number of `n` bytes, most significant first. -/
def bigEndian : Nat → Nat → List UInt8
  | 0, _ => []
  | n + 1, x => bigEndian n (x / 256) ++ [UInt8.ofNat x]

def pad (message : List UInt8) : List UInt8 :=
  message ++ 0x80 :: List.replicate ((119 - message.length % 64) % 64) 0 ++ bigEndian 8 (8 * message.length)

def absorb : Nat → List UInt32 → List UInt8 → List UInt32
  | 0, state, _ => state
  | n + 1, state, bytes => absorb n (compress state (bytes.take 64)) (bytes.drop 64)

def digest (message : List UInt8) : List UInt8 :=
  let padded := pad message
  (absorb (padded.length / 64) initial padded).flatMap fun w => bigEndian 4 w.toNat

/-! ## The length of a digest -/

theorem round_length (state : List UInt32) (kw : UInt32 × UInt32) : (round state kw).length = state.length := by
  unfold round
  split <;> rfl

theorem rounds_length (kws : List (UInt32 × UInt32)) (state : List UInt32) : (kws.foldl round state).length = state.length := by
  induction kws generalizing state with
  | nil => rfl
  | cons kw kws ih => rw [List.foldl_cons, ih, round_length]

theorem compress_length (state : List UInt32) (block : List UInt8) : (compress state block).length = state.length := by
  rw [compress, List.length_zipWith, rounds_length, Nat.min_self]

theorem absorb_length (n : Nat) (state : List UInt32) (bytes : List UInt8) : (absorb n state bytes).length = state.length := by
  induction n generalizing state bytes with
  | zero => rfl
  | succ n ih => rw [absorb, ih, compress_length]

theorem bigEndian_length (n x : Nat) : (bigEndian n x).length = n := by
  induction n generalizing x with
  | zero => rfl
  | succ n ih => rw [bigEndian, List.length_append, ih, List.length_singleton]

@[simp] theorem digest_length (message : List UInt8) : (digest message).length = 32 := by
  have words (ws : List UInt32) : (ws.flatMap fun w => bigEndian 4 w.toNat).length = 4 * ws.length := by
    induction ws with
    | nil => rfl
    | cons w ws ih =>
      rw [List.flatMap_cons, List.length_append, ih, bigEndian_length, List.length_cons]
      omega
  rw [digest, words, absorb_length]
  rfl

end Lib.Sha256
