import ArtikSdk.Lib.Bytes

/-!
# Tag-length-value areas

An option is a tag and its data; an area is a sequence of options in which `pad`
bytes may stand between options and a `fin` byte closes the list. `encode` writes
options back to back and `decode` reads an area up to the closing byte; `decode_encode`
is the round trip. The tags and the meaning of the data are the client's.
-/

namespace Lib.Tlv

/-- A tag and its data. -/
abbrev Opt := Byte × List Byte

/-- `tag, length, data...` -/
def encodeOne (o : Opt) : List Byte := o.1 :: BitVec.ofNat 8 o.2.length :: o.2

/-- Options written back to back, without a closing byte. -/
def encode (os : List Opt) : List Byte := os.flatMap encodeOne

/-- The options before the closing byte; `none` where the area ends first. The
first argument bounds the number of options and pads. -/
def decodeFuel (pad fin : Byte) : Nat → List Byte → Option (List Opt)
  | 0, _ => none
  | _ + 1, [] => none
  | fuel + 1, t :: bs =>
    if t = fin then some []
    else if t = pad then decodeFuel pad fin fuel bs
    else match bs with
      | [] => none
      | n :: rest =>
        if rest.length < n.toNat then none
        else (decodeFuel pad fin fuel (rest.drop n.toNat)).map ((t, rest.take n.toNat) :: ·)

/-- The options of an area. -/
def decode (pad fin : Byte) (area : List Byte) : Option (List Opt) :=
  decodeFuel pad fin area.length area

/-- The data of every option with tag `t`, in order. -/
def values (t : Byte) (os : List Opt) : List (List Byte) :=
  (os.filter fun o => o.1 = t).map Prod.snd

/-- The data of the last option with tag `t`. -/
def last (t : Byte) (os : List Opt) : Option (List Byte) :=
  (values t os).getLast?

/-- An option that can be written: its tag is neither `pad` nor `fin` and its
length fits the length byte. -/
structure Plain (pad fin : Byte) (o : Opt) : Prop where
  notPad : o.1 ≠ pad
  notFin : o.1 ≠ fin
  short : o.2.length < 256

@[simp] theorem encode_nil : encode [] = [] := rfl

@[simp] theorem encode_cons (o : Opt) (os : List Opt) : encode (o :: os) = encodeOne o ++ encode os := rfl

theorem encode_append (os ps : List Opt) : encode (os ++ ps) = encode os ++ encode ps := by
  simp [encode]

@[simp] theorem encodeOne_length (o : Opt) : (encodeOne o).length = o.2.length + 2 := by
  simp [encodeOne]

theorem length_le_encode (os : List Opt) : os.length ≤ (encode os).length := by
  induction os with
  | nil => simp
  | cons o os ih => simp only [encode_cons, List.length_cons, List.length_append, encodeOne_length]; omega

@[simp] theorem values_nil (t : Byte) : values t [] = [] := rfl

theorem values_append (t : Byte) (os ps : List Opt) : values t (os ++ ps) = values t os ++ values t ps := by
  simp [values]

@[simp] theorem last_nil (t : Byte) : last t [] = none := rfl

/-- The last option of a list decides, where it carries the tag. -/
theorem last_concat (t : Byte) (os : List Opt) (o : Opt) :
    last t (os ++ [o]) = if o.1 = t then some o.2 else last t os := by
  unfold last
  rw [values_append]
  split
  · rename_i h
    simp [values, h]
  · rename_i h
    simp [values, h]

theorem last_eq_none_iff (t : Byte) (os : List Opt) : last t os = none ↔ t ∉ os.map Prod.fst := by
  unfold last values
  rw [List.getLast?_eq_none_iff, List.map_eq_nil_iff, List.filter_eq_nil_iff, List.mem_map]
  simp only [decide_eq_true_eq, not_exists, not_and]

theorem decodeFuel_encode {pad fin : Byte} {os : List Opt} (plain : ∀ o ∈ os, Plain pad fin o) :
    ∀ {fuel : Nat} (rest : List Byte), os.length < fuel → decodeFuel pad fin fuel (encode os ++ fin :: rest) = some os := by
  induction os with
  | nil =>
    intro fuel rest enough
    obtain ⟨fuel, rfl⟩ : ∃ k, fuel = k + 1 := ⟨fuel - 1, by simp only [List.length_nil] at enough; omega⟩
    simp [decodeFuel]
  | cons o os ih =>
    intro fuel rest enough
    obtain ⟨fuel, rfl⟩ : ∃ k, fuel = k + 1 := ⟨fuel - 1, by omega⟩
    obtain ⟨notPad, notFin, short⟩ := plain o (by simp)
    have size : (BitVec.ofNat 8 o.2.length).toNat = o.2.length := by
      rw [BitVec.toNat_ofNat]
      omega
    have tail : decodeFuel pad fin fuel (encode os ++ fin :: rest) = some os := by
      refine ih (fun p hp => plain p (List.mem_cons_of_mem _ hp)) rest ?_
      simp only [List.length_cons] at enough
      omega
    rw [encode_cons, encodeOne, List.cons_append, List.cons_append, List.cons_append, List.cons_append, List.append_assoc]
    simp only [decodeFuel, if_neg notFin, if_neg notPad, size]
    rw [if_neg (by simp only [List.length_append]; omega), List.drop_left, List.take_left, tail]
    rfl

/-- **Round trip**: an area written by `encode` and closed reads back as its options. -/
theorem decode_encode {pad fin : Byte} {os : List Opt} (plain : ∀ o ∈ os, Plain pad fin o) (rest : List Byte) :
    decode pad fin (encode os ++ fin :: rest) = some os := by
  apply decodeFuel_encode plain
  have := length_le_encode os
  simp only [List.length_append, List.length_cons]
  omega

end Lib.Tlv
