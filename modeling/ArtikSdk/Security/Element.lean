import ArtikSdk.Security.Pkcs7

/-!
# Certificates as bytes

A certificate is a SEQUENCE, whose length is one byte below 128, or as many bytes as the byte in
front of them says. Its first element is a SEQUENCE, too.
-/

namespace ArtikSdk.Security

/-- A number of several bytes, the most significant one first. -/
def value (digits : List UInt8) : Nat := digits.foldl (fun v b => v * 256 + b.toNat) 0

/-- How a length is written. -/
inductive LengthForm : List UInt8 → Nat → Prop where
  | short {n : Nat} (small : n < 128) : LengthForm [UInt8.ofNat n] n
  | long {digits : List UInt8} (any : digits ≠ []) (few : digits.length < 127) :
      LengthForm (UInt8.ofNat (0x80 + digits.length) :: digits) (value digits)

/-- The bytes of a certificate behind the tag. It is of three elements, and the first one is a SEQUENCE. -/
structure Certificate where
  lengthBytes : List UInt8
  body : List UInt8
  form : LengthForm lengthBytes body.length
  elements : 6 ≤ body.length
  tbs : body.head? = some asn1Sequence

def Certificate.bytes (c : Certificate) : List UInt8 := asn1Sequence :: c.lengthBytes ++ c.body

def Certificate.size (c : Certificate) : Nat := c.bytes.length

/-- The size of a certificate at `p`, from its bytes 2 and 3. -/
def sizeAt (buf : List UInt8) (p : Nat) : Nat := (((buf.getD (p + 2) 0).toNat <<< 8) ||| (buf.getD (p + 3) 0).toNat) + 4

/-- Its length is in the two bytes behind `0x82`. -/
def Certificate.TwoBytes (c : Certificate) : Prop := c.lengthBytes.length = 3

variable {c : Certificate} {xs ys : List UInt8}

theorem shifted_or (a b : UInt8) : ((a.toNat <<< 8) ||| b.toNat) = a.toNat * 256 + b.toNat := by
  rw [← Nat.shiftLeft_add_eq_or_of_lt b.toNat_lt, Nat.shiftLeft_eq]

theorem foldl_value (ys : List UInt8) (n : Nat) :
    ys.foldl (fun v b => v * 256 + b.toNat) n = n * 256 ^ ys.length + value ys := by
  rw [value]
  induction ys generalizing n with
  | nil => simp
  | cons y ys ih =>
    rw [List.foldl_cons, List.foldl_cons, ih, ih (0 * 256 + y.toNat), List.length_cons, Nat.pow_succ]
    ring

theorem value_append (xs ys : List UInt8) : value (xs ++ ys) = value xs * 256 ^ ys.length + value ys := by
  rw [value, List.foldl_append, foldl_value]
  rfl

theorem value_le_append (xs ys : List UInt8) : value xs ≤ value (xs ++ ys) := by
  have positive : 0 < 256 ^ ys.length := Nat.pow_pos (by decide)
  rw [value_append]
  exact Nat.le_add_right_of_le (Nat.le_mul_of_pos_right _ positive)

theorem Certificate.body_cons (c : Certificate) : ∃ b rest, c.body = asn1Sequence :: b :: rest := by
  have elements := c.elements
  have tbs := c.tbs
  generalize c.body = body at elements tbs
  match body with
  | [] => cases tbs
  | [_] => simp at elements
  | a :: b :: rest => exact ⟨b, rest, by rw [show a = asn1Sequence from Option.some.inj tbs]⟩

theorem Certificate.size_eq (c : Certificate) : c.size = 1 + c.lengthBytes.length + c.body.length := by
  rw [size, bytes, List.length_append, List.length_cons]
  omega

/-- The size that is read is that of the certificate for the one form, too large for the shorter ones and too small
for the longer ones. -/
theorem sizeAt_form {n : Nat} (form : LengthForm xs n) (b : UInt8) (rest : List UInt8) :
    xs.length < 3 ∧ 1 + xs.length + n < sizeAt (asn1Sequence :: xs ++ asn1Sequence :: b :: rest) 0 ∨
      xs.length = 3 ∧ sizeAt (asn1Sequence :: xs ++ asn1Sequence :: b :: rest) 0 = 1 + xs.length + n ∨
      3 < xs.length ∧ sizeAt (asn1Sequence :: xs ++ asn1Sequence :: b :: rest) 0 < 1 + xs.length + n := by
  rw [sizeAt, shifted_or]
  cases form with
  | short small =>
    refine .inl ⟨by simp, ?_⟩
    show 1 + 1 + n < 0x30 * 256 + b.toNat + 4
    omega
  | @long digits any few =>
    match digits, any with
    | [d], _ =>
      refine .inl ⟨by simp, ?_⟩
      show 1 + 2 + (0 * 256 + d.toNat) < d.toNat * 256 + 0x30 + 4
      omega
    | [d, e], _ =>
      refine .inr (.inl ⟨rfl, ?_⟩)
      show d.toNat * 256 + e.toNat + 4 = 1 + 3 + ((0 * 256 + d.toNat) * 256 + e.toNat)
      omega
    | d :: e :: f :: ds, _ =>
      have least := value_le_append [d, e] (f :: ds)
      have two : value [d, e] = (0 * 256 + d.toNat) * 256 + e.toNat := rfl
      refine .inr (.inr ⟨by simp, ?_⟩)
      show d.toNat * 256 + e.toNat + 4 < 1 + (ds.length + 4) + value ([d, e] ++ f :: ds)
      omega

theorem Certificate.sizeAt_cases (c : Certificate) :
    c.lengthBytes.length < 3 ∧ c.size < sizeAt c.bytes 0 ∨ c.TwoBytes ∧ sizeAt c.bytes 0 = c.size ∨
      3 < c.lengthBytes.length ∧ sizeAt c.bytes 0 < c.size := by
  obtain ⟨b, rest, body⟩ := c.body_cons
  have cases := sizeAt_form c.form b rest
  rw [← body] at cases
  rw [size_eq]
  exact cases

/-! ## Elements in a buffer -/

/-- At `p` there is an element of this tag, of the `len` bytes at `q`, which ends before `last`. Its length is in at
most four bytes behind the first. -/
def ElementAt (buf : List UInt8) (tag : UInt8) (p last q len : Nat) : Prop :=
  ∃ lengthBytes rest, buf.drop p = tag :: lengthBytes ++ rest ∧ LengthForm lengthBytes len ∧ lengthBytes.length ≤ 5 ∧
    q = p + 1 + lengthBytes.length ∧ q + len ≤ last

/-- `mbedtls_asn1_get_tag` finds the elements that there are. -/
structure FindsElements (M : Mbedtls) : Prop where
  sound : ∀ {buf p last tag len t}, M.asn1GetTag buf p last tag len = .found t → ElementAt buf tag p last t.q t.len
  complete : ∀ {buf p last tag q n}, ElementAt buf tag p last q n → ∀ len, ∃ t, M.asn1GetTag buf p last tag len = .found t

/-- Which of the bytes are the length, the first one tells. -/
theorem LengthForm.unique {n n' : Nat} {rest rest' : List UInt8} (form : LengthForm xs n) (form' : LengthForm ys n')
    (same : xs ++ rest = ys ++ rest') : xs = ys ∧ n = n' ∧ rest = rest' := by
  have short {n : Nat} (small : n < 128) : (UInt8.ofNat n).toNat = n := UInt8.toNat_ofNat_of_lt' (by change n < 256; omega)
  have long {digits : List UInt8} (few : digits.length < 127) : (UInt8.ofNat (0x80 + digits.length)).toNat = 0x80 + digits.length :=
    UInt8.toNat_ofNat_of_lt' (by change _ < 256; omega)
  cases form with
  | short small =>
    cases form' with
    | short small' =>
      obtain ⟨first, rest⟩ := List.cons.inj same
      have number := congrArg UInt8.toNat first
      rw [short small, short small'] at number
      exact ⟨by rw [first], number, rest⟩
    | long any few =>
      have number := congrArg UInt8.toNat (List.cons.inj same).1
      rw [short small, long few] at number
      omega
  | @long digits any few =>
    cases form' with
    | short small =>
      have number := congrArg UInt8.toNat (List.cons.inj same).1
      rw [short small, long few] at number
      omega
    | @long digits' any' few' =>
      obtain ⟨first, rest⟩ := List.cons.inj same
      have number := congrArg UInt8.toNat first
      rw [long few, long few'] at number
      obtain ⟨rfl, more⟩ := List.append_inj rest (by omega)
      exact ⟨rfl, rfl, more⟩

theorem ElementAt.unique {buf : List UInt8} {tag : UInt8} {p last last' q q' len len' : Nat} (element : ElementAt buf tag p last q len)
    (element' : ElementAt buf tag p last' q' len') : q = q' ∧ len = len' := by
  obtain ⟨xs, rest, bytes, form, -, rfl, -⟩ := element
  obtain ⟨ys, rest', bytes', form', -, rfl, -⟩ := element'
  rw [bytes] at bytes'
  obtain ⟨rfl, rfl, -⟩ := form.unique form' (List.cons.inj bytes').2
  exact ⟨rfl, rfl⟩

/-- Of two certificates at one place each is the other. -/
theorem Certificate.bytes_unique {c c' : Certificate} {rest rest' : List UInt8} (same : c.bytes ++ rest = c'.bytes ++ rest') :
    c = c' ∧ rest = rest' := by
  obtain ⟨xs, body, form, elements, tbs⟩ := c
  obtain ⟨ys, body', form', elements', tbs'⟩ := c'
  rw [bytes, bytes, List.append_assoc, List.append_assoc] at same
  obtain ⟨rfl, length, more⟩ := form.unique form' (List.cons.inj same).2
  obtain ⟨rfl, rfl⟩ := List.append_inj more length
  exact ⟨rfl, rfl⟩

/-- The element that a certificate is. -/
theorem Certificate.elementAt {buf rest : List UInt8} {p last q len : Nat} (at_ : buf.drop p = c.bytes ++ rest)
    (element : ElementAt buf asn1Sequence p last q len) : q = p + 1 + c.lengthBytes.length ∧ len = c.body.length := by
  obtain ⟨xs, rest', bytes, form, -, rfl, -⟩ := element
  rw [at_, Certificate.bytes, List.append_assoc] at bytes
  obtain ⟨rfl, rfl, -⟩ := form.unique c.form (List.cons.inj bytes).2.symm
  exact ⟨rfl, rfl⟩

/-! ## Finding them -/

/-- The length at the start of the bytes. -/
def lengthAt : List UInt8 → Option (List UInt8 × Nat)
  | [] => none
  | b :: rest =>
    let n := b.toNat - 0x80
    if b.toNat < 0x80 then some ([b], b.toNat)
    else if n = 0 ∨ 4 < n ∨ rest.length < n then none
    else some (b :: rest.take n, value (rest.take n))

/-- `mbedtls_asn1_get_tag` as a function of the bytes in the buffer. -/
def elementTag (buf : List UInt8) (p last : Nat) (tag : UInt8) (len : Nat) : Tagged p last :=
  match lengthAt (buf.drop (p + 1)) with
  | none => .failed p len
  | some (lengthBytes, n) =>
    if h : buf[p]? = some tag ∧ p + 1 + lengthBytes.length + n ≤ last then .found ⟨p + 1 + lengthBytes.length, n, by omega, h.2⟩
    else .failed p len

theorem lengthAt_sound {bytes : List UInt8} {n : Nat} (found : lengthAt bytes = some (xs, n)) :
    LengthForm xs n ∧ xs.length ≤ 5 ∧ ∃ rest, bytes = xs ++ rest := by
  cases bytes with
  | nil => cases found
  | cons b rest =>
    rw [lengthAt] at found
    split at found
    · rename_i small
      cases found
      refine ⟨?_, by rw [List.length_singleton]; decide, rest, rfl⟩
      have form : LengthForm [UInt8.ofNat b.toNat] b.toNat := .short small
      rwa [UInt8.ofNat_toNat] at form
    · rename_i large
      split at found
      · cases found
      · rename_i counted
        cases found
        have length : (rest.take (b.toNat - 0x80)).length = b.toNat - 0x80 := by
          rw [List.length_take]
          omega
        refine ⟨?_, by rw [List.length_cons]; omega, rest.drop (b.toNat - 0x80), by rw [List.cons_append, List.take_append_drop]⟩
        have form : LengthForm (UInt8.ofNat (0x80 + (rest.take (b.toNat - 0x80)).length) :: rest.take (b.toNat - 0x80)) _ :=
          .long (fun none => by rw [none, List.length_nil] at length; omega) (by omega)
        rwa [length, show 0x80 + (b.toNat - 0x80) = b.toNat by omega, UInt8.ofNat_toNat] at form

theorem lengthAt_complete {n : Nat} (form : LengthForm xs n) (short : xs.length ≤ 5) (rest : List UInt8) :
    lengthAt (xs ++ rest) = some (xs, n) := by
  cases form with
  | short small =>
    have number : (UInt8.ofNat n).toNat = n := UInt8.toNat_ofNat_of_lt' (by change n < 256; omega)
    rw [List.singleton_append, lengthAt]
    rw [number, if_pos small]
  | @long digits any few =>
    have number : (UInt8.ofNat (0x80 + digits.length)).toNat = 0x80 + digits.length :=
      UInt8.toNat_ofNat_of_lt' (by change _ < 256; omega)
    have positive := List.length_pos_iff.2 any
    rw [List.length_cons] at short
    rw [List.cons_append, lengthAt]
    rw [number, if_neg (by omega), Nat.add_sub_cancel_left, if_neg (by rw [List.length_append]; omega), List.take_left]

theorem elementTag_finds {M : Mbedtls} (tags : M.asn1GetTag = elementTag) : FindsElements M where
  sound {buf p last tag len t} found := by
    rw [tags, elementTag] at found
    split at found
    · cases found
    rename_i lengthBytes n length
    obtain ⟨form, short, rest, bytes⟩ := lengthAt_sound length
    split at found
    · rename_i inside
      cases found
      refine ⟨lengthBytes, rest, ?_, form, short, rfl, inside.2⟩
      obtain ⟨less, first⟩ := List.getElem?_eq_some_iff.1 inside.1
      rw [List.drop_eq_getElem_cons less, first, bytes, List.cons_append]
    · cases found
  complete {buf p last tag q n} element len := by
    obtain ⟨lengthBytes, rest, bytes, form, short, rfl, inside⟩ := element
    have first : buf[p]? = some tag := by
      rw [← List.head?_drop, bytes]
      rfl
    have behind : buf.drop (p + 1) = lengthBytes ++ rest := by
      rw [← List.drop_drop, bytes]
      rfl
    have length := lengthAt_complete form short rest
    rw [← behind] at length
    rw [tags, elementTag, length]
    dsimp only
    rw [dif_pos ⟨first, inside⟩]
    exact ⟨_, rfl⟩

end ArtikSdk.Security
