import ArtikSdk.Bluetooth.Gatt.State
import ArtikSdk.Lib.Flags

/-!
# GATT client: the flags of an attribute

`bt_gatt_get_char_properties` and `bt_gatt_get_desc_properties` read the list of flags that the
server's `_set_char_properties` and `_set_desc_properties` make, and add the bits to what the
caller's variable holds. For a descriptor the comparisons have the wrong sense: every flag but
`read` counts as `read`, and `read` as `write`.
-/

namespace ArtikSdk.Bluetooth.Gatt
open Lib

/-- `artik_bt_gatt_char_properties`, with the names of the bits. -/
def charFlags : Flags 32 String where
  entries :=
    [(0x01, "broadcast"), (0x02, "read"), (0x04, "write-without-response"), (0x08, "write"), (0x10, "notify"),
      (0x20, "indicate"), (0x40, "authenticated-signed-writes")]
  names := by decide
  bits := by
    simp only [List.forall_mem_cons, List.not_mem_nil, false_imp_iff, implies_true, and_true]
    exact ⟨⟨0, rfl⟩, ⟨1, rfl⟩, ⟨2, rfl⟩, ⟨3, rfl⟩, ⟨4, rfl⟩, ⟨5, rfl⟩, ⟨6, rfl⟩⟩

/-- `artik_bt_gatt_desc_properties`, with the names of the bits. -/
def descFlags : Flags 32 String where
  entries :=
    [(0x01, "read"), (0x02, "write"), (0x04, "encrypt-read"), (0x08, "encrypt-write"),
      (0x10, "encrypt-authenticated-read"), (0x20, "encrypt-authenticated-write"), (0x40, "secure-read"),
      (0x80, "secure-write")]
  names := by decide
  bits := by
    simp only [List.forall_mem_cons, List.not_mem_nil, false_imp_iff, implies_true, and_true]
    exact ⟨⟨0, rfl⟩, ⟨1, rfl⟩, ⟨2, rfl⟩, ⟨3, rfl⟩, ⟨4, rfl⟩, ⟨5, rfl⟩, ⟨6, rfl⟩, ⟨7, rfl⟩⟩

/-- The bits of the known flags of a list. -/
def known (f : Flags 32 String) (given : List String) : BitVec 32 := Flags.union f.entries fun n => n ∈ given

/-! ## The getters -/

/-- A getter adds the bit of the first name in its chain of comparisons that is chosen. There is
no answer where the attribute is not found, or the `Get` of `Flags` fails. -/
def getProperties (f : Flags 32 String) (chosen : String → String → Bool) (answer : Option (List String)) (properties : BitVec 32) :
    ArtikError × BitVec 32 :=
  match answer with
  | none => (.btError, properties)
  | some given => (.ok, given.foldl (fun p str => p ||| Flags.lookup f.entries (chosen str)) properties)

/-- `bt_gatt_get_char_properties`: `!g_strcmp0(str, n)`. -/
def btGattGetCharProperties : Option (List String) → BitVec 32 → ArtikError × BitVec 32 := getProperties charFlags fun str n => n = str

/-- `bt_gatt_get_desc_properties`: `g_strcmp0(str, n)`, without the negation. -/
def btGattGetDescProperties : Option (List String) → BitVec 32 → ArtikError × BitVec 32 := getProperties descFlags fun str n => n ≠ str

variable {given : List String} {previous properties : BitVec 32}

theorem getCharProperties_eq (given : List String) (previous : BitVec 32) :
    btGattGetCharProperties (some given) previous = (.ok, previous ||| known charFlags given) :=
  congrArg _ (Flags.decode_eq charFlags.names given previous)

/-- What the chain for descriptors adds for one flag. -/
theorem descFlag_eq (str : String) : Flags.lookup descFlags.entries (fun n => n ≠ str) = if str = "read" then 0x02 else 0x01 := by
  by_cases read : str = "read"
  · subst read
    decide
  · have first : decide ("read" ≠ str) = true := decide_eq_true (Ne.symm read)
    simp only [Flags.lookup, descFlags, List.find?_cons, first, if_neg read]
    rfl

/-- The bits that the chain for descriptors adds for a list. -/
def descBits (given : List String) : BitVec 32 :=
  (if ∃ str ∈ given, str ≠ "read" then 0x01 else 0) ||| if "read" ∈ given then 0x02 else 0

theorem descBits_cons (str : String) (given : List String) :
    descBits (str :: given) = (if str = "read" then 0x02 else 0x01) ||| descBits given := by
  have others : (∃ s ∈ str :: given, s ≠ "read") ↔ str ≠ "read" ∨ ∃ s ∈ given, s ≠ "read" := by
    rw [List.exists_mem_cons_iff]
  rw [descBits, descBits, if_congr others rfl rfl, if_congr List.mem_cons rfl rfl]
  by_cases read : str = "read"
  · subst read
    by_cases other : ∃ str ∈ given, str ≠ "read" <;> by_cases again : "read" ∈ given <;> simp [other, again]
  · by_cases other : ∃ str ∈ given, str ≠ "read" <;> by_cases again : "read" ∈ given <;>
      simp [other, again, read, Ne.symm read]

theorem getDescProperties_eq (given : List String) (previous : BitVec 32) :
    btGattGetDescProperties (some given) previous = (.ok, previous ||| descBits given) := by
  refine congrArg (Prod.mk ArtikError.ok) ?_
  induction given generalizing previous with
  | nil => simp [descBits]
  | cons str given ih => rw [List.foldl_cons, ih, descFlag_eq, descBits_cons, BitVec.or_assoc]

/-! ## The flags of a list -/

theorem known_nil (f : Flags 32 String) : known f [] = 0 := Flags.union_false fun _ _ => rfl

theorem known_desc_bits (given : List String) :
    ((known descFlags given).getLsbD 0 = true ↔ "read" ∈ given) ∧ ((known descFlags given).getLsbD 1 = true ↔ "write" ∈ given) := by
  simp only [known, Flags.getLsbD_union, descFlags]
  simp

theorem descBits_read_write (read : "read" ∈ given) (write : "write" ∈ given) : descBits given = 0x03 := by
  have other : ∃ str ∈ given, str ≠ "read" := ⟨"write", write, by decide⟩
  rw [descBits, if_pos other, if_pos read]
  rfl

/-- The bits that the chain adds to are known only where the list is empty, or has both flags that
the chain can tell. -/
theorem descBits_known (known_bits : previous ||| descBits given = known descFlags given) :
    given = [] ∨ ("read" ∈ given ∧ "write" ∈ given) := by
  rcases eq_or_ne given [] with empty | filled
  · exact .inl empty
  · refine .inr ?_
    have bits := known_desc_bits given
    rw [← known_bits, BitVec.getLsbD_or, BitVec.getLsbD_or] at bits
    have read : "read" ∈ given := by
      by_contra missing
      obtain ⟨str, member⟩ := List.exists_mem_of_ne_nil given filled
      have other : ∃ str ∈ given, str ≠ "read" := ⟨str, member, fun read => missing (read ▸ member)⟩
      refine missing (bits.1.1 ?_)
      rw [descBits, if_pos other, if_neg missing]
      simp
    refine ⟨read, bits.2.1 ?_⟩
    rw [descBits, if_pos read]
    simp

theorem descProperties_iff (given : List String) (previous : BitVec 32) :
    previous ||| descBits given = known descFlags given ↔
      (given = [] ∧ previous = 0) ∨ ("read" ∈ given ∧ "write" ∈ given ∧ previous ||| 0x03 = known descFlags given) := by
  constructor
  · intro exact_bits
    rcases descBits_known exact_bits with rfl | ⟨read, write⟩
    · rw [known_nil, descBits] at exact_bits
      exact .inl ⟨rfl, by simpa using exact_bits⟩
    · rw [descBits_read_write read write] at exact_bits
      exact .inr ⟨read, write, exact_bits⟩
  · rintro (⟨rfl, rfl⟩ | ⟨read, write, exact_bits⟩)
    · rfl
    · rw [descBits_read_write read write, exact_bits]

/-! ## What the server makes of a mask -/

theorem flags_known (f : Flags 32 String) (some_bit : properties ≠ 0)
    (in_table : properties &&& Flags.union f.entries (fun _ => true) = properties) :
    known f (flags f.entries properties) = properties := by
  rw [known, flags, if_neg some_bit]
  exact (f.encode_decode properties).trans in_table

/-- The getters give exactly the bits of the known flags where what they add to has no others; that
for descriptors only for lists with both of its flags. -/
theorem properties_iff (given : List String) (previous properties : BitVec 32) (some_bit : properties ≠ 0) :
    (btGattGetCharProperties (some given) previous = (.ok, known charFlags given) ↔
        previous ||| known charFlags given = known charFlags given) ∧
      (btGattGetDescProperties (some given) previous = (.ok, known descFlags given) ↔
        (given = [] ∧ previous = 0) ∨
          ("read" ∈ given ∧ "write" ∈ given ∧ previous ||| 0x03 = known descFlags given)) ∧
      (properties &&& 0x7f = properties →
        (btGattGetCharProperties (some (setCharProperties properties)) previous = (.ok, properties) ↔
          previous ||| properties = properties)) ∧
      (properties &&& 0xff = properties →
        (btGattGetDescProperties (some (setDescProperties properties)) previous = (.ok, properties) ↔
          previous ||| 0x03 = properties)) := by
  refine ⟨?_, ?_, fun in_table => ?_, fun in_table => ?_⟩
  · rw [getCharProperties_eq, Prod.mk_right_inj]
  · rw [getDescProperties_eq, Prod.mk_right_inj, descProperties_iff]
  · have made : known charFlags (setCharProperties properties) = properties := flags_known charFlags some_bit in_table
    rw [getCharProperties_eq, made, Prod.mk_right_inj]
  · have made : known descFlags (setDescProperties properties) = properties := flags_known descFlags some_bit in_table
    rw [getDescProperties_eq, Prod.mk_right_inj]
    have exact_iff := descProperties_iff (setDescProperties properties) previous
    have bits := known_desc_bits (setDescProperties properties)
    rw [made] at exact_iff bits
    rw [exact_iff]
    constructor
    · rintro (⟨empty, -⟩ | ⟨-, -, same⟩)
      · rw [empty, known_nil] at made
        exact absurd made.symm some_bit
      · exact same
    · intro same
      refine .inr ⟨bits.1.1 ?_, bits.2.1 ?_, same⟩ <;>
        · rw [← same, BitVec.getLsbD_or]
          simp

theorem read_write_properties :
    btGattGetDescProperties (some (setDescProperties 0x03)) 0 = (.ok, 0x03) :=
  ((properties_iff [] 0 0x03 (by decide)).2.2.2 (by decide)).2 rfl

/-- A descriptor that may only be read reads as one that may only be written; and a bit that the
caller's variable has stays. -/
theorem desc_read_swapped :
    btGattGetDescProperties (some (setDescProperties 0x01)) 0 = (.ok, 0x02) ∧
      known descFlags (setDescProperties 0x01) = 0x01 ∧
      btGattGetCharProperties (some ["read"]) 0x08 = (.ok, 0x0a) ∧ known charFlags ["read"] = 0x02 := by
  decide

end ArtikSdk.Bluetooth.Gatt
