import ArtikSdk.Lib.View
import ArtikSdk.Dhcp.Server.State

/-!
# DHCP server: the option parser

`dhcpd_parseoptions` as a scan of the memory from `ds_inpacket` on. `parseSwitch` is the
body of its loop up to the end of the `switch`, `parseLoop` the loop. After an END that
moves to an overloaded field the loop advances once more by the length of the option
before it, as the source does.
-/

namespace ArtikSdk.Dhcp.Server
open Lib Scan

/-- `DHCPD_OPTION_FIELD`, `DHCPD_FILE_FIELD`, `DHCPD_SNAME_FIELD` -/
inductive Field where
  | options
  | file
  | sname
deriving DecidableEq

/-- The local variables of `dhcpd_parseoptions`, and the options found so far. -/
structure Cursor where
  ptr : Nat
  remaining : Int
  optlen : Nat
  overloaded : Byte
  currfield : Field
  opt : Options

/-- `ptr[DHCPD_OPTION_LENGTH] + 2` -/
def optionLength (ptr : Nat) : Scan Nat := do
  let len ← byte (ptr + 1)
  return len.toNat + 2

/-- The cases of the options that hold a word in network order. -/
def wordOption (c : Cursor) (set : Options → BitVec 32 → Options) : Scan (Cursor × Bool) := do
  let optlen ← optionLength c.ptr
  if 4 ≤ optlen ∧ (optlen : Int) < c.remaining then
    let tmp ← word (c.ptr + 2)
    return ({ c with optlen, opt := set c.opt (htonl tmp) }, false)
  else
    return ({ c with optlen }, false)

/-- The cases of the options that hold a byte. -/
def byteOption (c : Cursor) (set : Cursor → Byte → Cursor) : Scan (Cursor × Bool) := do
  let optlen ← optionLength c.ptr
  if 1 ≤ optlen ∧ (optlen : Int) < c.remaining then
    let value ← byte (c.ptr + 2)
    return (set { c with optlen } value, false)
  else
    return ({ c with optlen }, false)

/-- The `switch`; the flag says that the function returns `true`. -/
def parseSwitch (c : Cursor) : Scan (Cursor × Bool) := do
  let code ← byte c.ptr
  if code = Code.pad then
    return ({ c with optlen := 1 }, false)
  else if code = Code.overload then
    byteOption c fun c value => { c with overloaded := value }
  else if code = Code.fin then
    if c.currfield = .options ∧ c.overloaded &&& 1 ≠ 0 then
      return ({ c with ptr := Msg.file, remaining := 128, currfield := .file }, false)
    else if c.currfield = .file ∧ c.overloaded &&& 2 ≠ 0 then
      return ({ c with ptr := Msg.sname, remaining := 64, currfield := .sname }, false)
    else
      return (c, true)
  else if code = Code.reqIpaddr then
    wordOption c fun opt tmp => { opt with reqip := tmp }
  else if code = Code.leaseTime then
    wordOption c fun opt tmp => { opt with leasetime := tmp.toNat }
  else if code = Code.msgType then
    byteOption c fun c value => { c with opt := { c.opt with msgtype := value } }
  else if code = Code.serverId then
    wordOption c fun opt tmp => { opt with serverip := tmp }
  else
    let optlen ← optionLength c.ptr
    return ({ c with optlen }, false)

/-- The loop, for at most `fuel` rounds. -/
def parseLoop : Nat → Cursor → Scan (Bool × Options)
  | 0, _ => fun _ => none
  | fuel + 1, c => do
    let (c, found) ← parseSwitch c
    if found then
      return (true, c.opt)
    else
      let c := { c with ptr := c.ptr + c.optlen, remaining := c.remaining - c.optlen }
      if c.remaining > 0 then
        parseLoop fuel c
      else
        return (false, c.opt)

/-- `memcmp(ptr, g_magiccookie, 4) == 0` -/
def cookieMatches : Scan Bool := do
  let b0 ← byte Msg.options
  let b1 ← byte (Msg.options + 1)
  let b2 ← byte (Msg.options + 2)
  let b3 ← byte (Msg.options + 3)
  return [b0, b1, b2, b3] = magicCookie

/-- Where the loop starts. -/
def Cursor.start : Cursor := ⟨Msg.options + 4, optionsSize - 4, 0, 0, .options, Options.default⟩

/-- `dhcpd_parseoptions`: the return value, and `g_state` with the options found. -/
def dhcpdParseoptions (g : State) : Scan (Bool × State) := do
  if ← cookieMatches then
    let (found, opt) ← parseLoop 512 Cursor.start
    return (found, { g with opt := opt, optend := none })
  else
    return (false, g)

/-- The memory from `ds_inpacket` on: the outgoing message follows the incoming one. -/
def State.view (g : State) : View := fun k =>
  if k < Msg.size then some (g.inpacket k)
  else if k < 2 * Msg.size then some (g.outpacket (k - Msg.size))
  else none

/-! ## The result rests on the bytes shown -/

theorem mono_optionLength (ptr : Nat) : Mono (optionLength ptr) :=
  (mono_byte _).bind fun _ => mono_pure _

theorem mono_wordOption (c : Cursor) (set : Options → BitVec 32 → Options) : Mono (wordOption c set) :=
  (mono_optionLength _).bind fun _ => Mono.ite ((mono_word _).bind fun _ => mono_pure _) (mono_pure _)

theorem mono_byteOption (c : Cursor) (set : Cursor → Byte → Cursor) : Mono (byteOption c set) :=
  (mono_optionLength _).bind fun _ => Mono.ite ((mono_byte _).bind fun _ => mono_pure _) (mono_pure _)

theorem mono_parseSwitch (c : Cursor) : Mono (parseSwitch c) := by
  refine (mono_byte _).bind fun code => ?_
  refine Mono.ite (mono_pure _) (Mono.ite (mono_byteOption _ _) (Mono.ite ?_ ?_))
  · exact Mono.ite (mono_pure _) (Mono.ite (mono_pure _) (mono_pure _))
  · refine Mono.ite (mono_wordOption _ _) (Mono.ite (mono_wordOption _ _) (Mono.ite (mono_byteOption _ _) ?_))
    exact Mono.ite (mono_wordOption _ _) ((mono_optionLength _).bind fun _ => mono_pure _)

theorem mono_parseLoop (fuel : Nat) (c : Cursor) : Mono (parseLoop fuel c) := by
  induction fuel generalizing c with
  | zero =>
    intro v v' r _ h
    cases h
  | succ fuel ih =>
    refine (mono_parseSwitch c).bind fun p => ?_
    exact Mono.ite (mono_pure _) (Mono.ite (ih _) (mono_pure _))

theorem mono_cookieMatches : Mono cookieMatches :=
  (mono_byte _).bind fun _ => (mono_byte _).bind fun _ => (mono_byte _).bind fun _ => (mono_byte _).bind fun _ => mono_pure _

theorem mono_parseoptions (g : State) : Mono (dhcpdParseoptions g) :=
  mono_cookieMatches.bind fun _ => Mono.ite ((mono_parseLoop _ _).bind fun _ => mono_pure _) (mono_pure _)

/-! ## The parser terminates inside the two messages -/

/-- Every byte of the two messages is shown. -/
def Total (v : View) : Prop := ∀ k, k < 2 * Msg.size → ∃ b, v k = some b

theorem total_view (g : State) : Total g.view := by
  intro k hk
  unfold State.view
  split
  · exact ⟨_, rfl⟩
  · exact ⟨_, rfl⟩

theorem byte_total {v : View} (total : Total v) {a : Nat} (h : a < 2 * Msg.size) : ∃ b, byte a v = some b := total a h

theorem word_total {v : View} (total : Total v) {a : Nat} (h : a + 3 < 2 * Msg.size) : ∃ w, word a v = some w := by
  obtain ⟨b0, h0⟩ := byte_total total (a := a) (by omega)
  obtain ⟨b1, h1⟩ := byte_total total (a := a + 1) (by omega)
  obtain ⟨b2, h2⟩ := byte_total total (a := a + 2) (by omega)
  obtain ⟨b3, h3⟩ := byte_total total (a := a + 3) (by omega)
  exact ⟨_, by rw [word, bind_apply_of_some h0, bind_apply_of_some h1, bind_apply_of_some h2, bind_apply_of_some h3]; rfl⟩

/-- The switch has consumed an option of the current field. -/
structure Kept (c c' : Cursor) : Prop where
  ptr : c'.ptr = c.ptr
  remaining : c'.remaining = c.remaining
  currfield : c'.currfield = c.currfield
  optlen : 1 ≤ c'.optlen

theorem optionLength_total {v : View} (total : Total v) {ptr : Nat} (h : ptr < Msg.size) :
    ∃ len, optionLength ptr v = some (len + 2) := by
  obtain ⟨b, read⟩ := byte_total total (a := ptr + 1) (by simp only [Msg.size] at *; omega)
  exact ⟨b.toNat, by rw [optionLength, bind_apply_of_some read]; rfl⟩

theorem wordOption_total {v : View} (total : Total v) {c : Cursor} (h : c.ptr < Msg.size) (set : Options → BitVec 32 → Options) :
    ∃ c', wordOption c set v = some (c', false) ∧ Kept c c' := by
  obtain ⟨len, read⟩ := optionLength_total total h
  rw [wordOption, bind_apply_of_some read]
  split
  · obtain ⟨w, value⟩ := word_total total (a := c.ptr + 2) (by simp only [Msg.size] at *; omega)
    rw [bind_apply_of_some value]
    exact ⟨_, rfl, rfl, rfl, rfl, by simp⟩
  · exact ⟨_, rfl, rfl, rfl, rfl, by simp⟩

theorem byteOption_total {v : View} (total : Total v) {c : Cursor} (h : c.ptr < Msg.size) (set : Cursor → Byte → Cursor)
    (keep : ∀ c b, 1 ≤ c.optlen → Kept c (set c b)) : ∃ c', byteOption c set v = some (c', false) ∧ Kept c c' := by
  obtain ⟨len, read⟩ := optionLength_total total h
  rw [byteOption, bind_apply_of_some read]
  split
  · obtain ⟨b, value⟩ := byte_total total (a := c.ptr + 2) (by simp only [Msg.size] at *; omega)
    rw [bind_apply_of_some value]
    obtain ⟨ptr, remaining, currfield, optlen⟩ := keep { c with optlen := len + 2 } b (by simp)
    exact ⟨_, rfl, ptr, remaining, currfield, optlen⟩
  · exact ⟨_, rfl, rfl, rfl, rfl, by simp⟩

/-- The end of the field being parsed. -/
def Field.fieldEnd : Field → Int
  | .options => 548
  | .file => 236
  | .sname => 108

/-- What can still be walked: the rest of the field, and the fields after it. -/
def Cursor.rank (c : Cursor) : Int :=
  c.remaining + match c.currfield with
    | .options => 194
    | .file => 65
    | .sname => 0

/-- The cursor stands inside its field. -/
structure Inside (c : Cursor) : Prop where
  left : 0 < c.remaining
  ends : c.ptr + c.remaining = c.currfield.fieldEnd

theorem Inside.ptr_lt {c : Cursor} (h : Inside c) : c.ptr < Msg.size := by
  obtain ⟨left, ends⟩ := h
  simp only [Msg.size]
  cases field : c.currfield <;> simp only [field, Field.fieldEnd] at ends <;> omega

/-- The switch never reads outside the two messages. It returns, consumes an option, or
moves to a field that comes later. -/
theorem parseSwitch_total {v : View} (total : Total v) {c : Cursor} (inside : Inside c) :
    ∃ c' found, parseSwitch c v = some (c', found) ∧
      (found = true ∨ Kept c c' ∨ c'.ptr + c'.remaining = c'.currfield.fieldEnd ∧ c'.rank < c.rank) := by
  have low := inside.ptr_lt
  obtain ⟨code, read⟩ := byte_total total (a := c.ptr) (by simp only [Msg.size] at *; omega)
  have words := wordOption_total total low
  rw [parseSwitch, bind_apply_of_some read]
  split
  · exact ⟨_, _, rfl, Or.inr (Or.inl ⟨rfl, rfl, rfl, le_rfl⟩)⟩
  split
  · obtain ⟨c', same, kept⟩ := byteOption_total total low (fun c value => { c with overloaded := value })
      (fun c b positive => ⟨rfl, rfl, rfl, positive⟩)
    exact ⟨c', _, same, Or.inr (Or.inl kept)⟩
  split
  · split
    · rename_i move
      refine ⟨_, _, rfl, Or.inr (Or.inr ⟨rfl, ?_⟩)⟩
      have := inside.left
      simp only [Cursor.rank, move.1]
      omega
    · split
      · rename_i move
        refine ⟨_, _, rfl, Or.inr (Or.inr ⟨rfl, ?_⟩)⟩
        have := inside.left
        simp only [Cursor.rank, move.1]
        omega
      · exact ⟨c, true, rfl, Or.inl rfl⟩
  split
  · obtain ⟨c', same, kept⟩ := words fun opt tmp => { opt with reqip := tmp }
    exact ⟨c', _, same, Or.inr (Or.inl kept)⟩
  split
  · obtain ⟨c', same, kept⟩ := words fun opt tmp => { opt with leasetime := tmp.toNat }
    exact ⟨c', _, same, Or.inr (Or.inl kept)⟩
  split
  · obtain ⟨c', same, kept⟩ := byteOption_total total low
      (fun c value => { c with opt := { c.opt with msgtype := value } })
      (fun c b positive => ⟨rfl, rfl, rfl, positive⟩)
    exact ⟨c', _, same, Or.inr (Or.inl kept)⟩
  split
  · obtain ⟨c', same, kept⟩ := words fun opt tmp => { opt with serverip := tmp }
    exact ⟨c', _, same, Or.inr (Or.inl kept)⟩
  · obtain ⟨len, length⟩ := optionLength_total total low
    rw [bind_apply_of_some length]
    exact ⟨_, _, rfl, Or.inr (Or.inl ⟨rfl, rfl, rfl, by simp⟩)⟩

/-- The loop ends within its rank. -/
theorem parseLoop_total {v : View} (total : Total v) :
    ∀ {fuel : Nat} {c : Cursor}, Inside c → c.rank ≤ fuel → ∃ r, parseLoop fuel c v = some r := by
  intro fuel
  induction fuel with
  | zero =>
    intro c inside enough
    have := inside.left
    unfold Cursor.rank at enough
    split at enough <;> omega
  | succ fuel ih =>
    intro c inside enough
    obtain ⟨c', found, switch, outcome⟩ := parseSwitch_total total inside
    rw [parseLoop, bind_apply_of_some switch]
    simp only
    split
    · exact ⟨_, rfl⟩
    · rename_i goOn
      split
      · rename_i left
        apply ih
        · refine ⟨left, ?_⟩
          rcases outcome with returned | kept | ⟨ends, -⟩
          · exact absurd returned goOn
          · have ends := inside.ends
            simp only [kept.ptr, kept.remaining, kept.currfield] at *
            omega
          · simp only
            omega
        · rcases outcome with returned | kept | ⟨-, less⟩
          · exact absurd returned goOn
          · have less := kept.optlen
            simp only [Cursor.rank, kept.remaining, kept.currfield] at enough ⊢
            omega
          · simp only [Cursor.rank] at enough less ⊢
            omega
      · exact ⟨_, rfl⟩

theorem start_inside : Inside Cursor.start := ⟨by decide, by decide⟩

/-- `dhcpd_parseoptions` always returns. -/
theorem parseoptions_total {v : View} (total : Total v) (g : State) : ∃ r, dhcpdParseoptions g v = some r := by
  obtain ⟨b0, h0⟩ := byte_total total (a := Msg.options) (by decide)
  obtain ⟨b1, h1⟩ := byte_total total (a := Msg.options + 1) (by decide)
  obtain ⟨b2, h2⟩ := byte_total total (a := Msg.options + 2) (by decide)
  obtain ⟨b3, h3⟩ := byte_total total (a := Msg.options + 3) (by decide)
  have cookie : cookieMatches v = some (decide ([b0, b1, b2, b3] = magicCookie)) := by
    rw [cookieMatches, bind_apply_of_some h0, bind_apply_of_some h1, bind_apply_of_some h2, bind_apply_of_some h3]
    rfl
  rw [dhcpdParseoptions, bind_apply_of_some cookie]
  split
  · obtain ⟨r, loop⟩ : ∃ r, parseLoop 512 Cursor.start v = some r := parseLoop_total total start_inside (by decide)
    exact ⟨_, by rw [bind_apply_of_some loop]; rfl⟩
  · exact ⟨_, rfl⟩

/-! ## Well-formed messages -/

/-- What the `switch` does with an option that it takes. -/
def Options.apply (opt : Options) (o : Tlv.Opt) : Options :=
  if o.1 = Code.reqIpaddr then { opt with reqip := htonl (wordOf o.2) }
  else if o.1 = Code.leaseTime then { opt with leasetime := (htonl (wordOf o.2)).toNat }
  else if o.1 = Code.msgType then { opt with msgtype := o.2.headD 0 }
  else if o.1 = Code.serverId then { opt with serverip := htonl (wordOf o.2) }
  else opt

/-- The options found in a list of options. -/
def optionsIn (os : List Tlv.Opt) : Options := os.foldl Options.apply Options.default

/-- An option of a message without overloaded fields, with the length its code asks for. -/
structure Simple (o : Tlv.Opt) : Prop extends Tlv.Plain Code.pad Code.fin o where
  notOverload : o.1 ≠ Code.overload
  word : o.1 = Code.reqIpaddr ∨ o.1 = Code.leaseTime ∨ o.1 = Code.serverId → o.2.length = 4
  byte : o.1 = Code.msgType → o.2.length = 1

theorem reads_word {v : View} {a : Nat} {data : List Byte} (four : data.length = 4) (h : View.Reads v a data) :
    word a v = some (wordOf data) := by
  apply word_of_reads
  rwa [wordBytes_wordOf four]

theorem optionLength_of_reads {v : View} {ptr : Nat} {o : Tlv.Opt} (h : View.Reads v ptr (Tlv.encodeOne o)) (short : o.2.length < 256) :
    optionLength ptr v = some (o.2.length + 2) := by
  rw [Tlv.encodeOne, View.reads_cons, View.reads_cons] at h
  rw [optionLength, bind_apply_of_some h.2.1, pure_apply, BitVec.toNat_ofNat, Nat.mod_eq_of_lt (by omega)]

/-- One option is consumed. -/
theorem parseSwitch_option {v : View} {c : Cursor} {o : Tlv.Opt} (simple : Simple o) (h : View.Reads v c.ptr (Tlv.encodeOne o))
    (room : (o.2.length + 2 : Int) < c.remaining) :
    parseSwitch c v = some ({ c with optlen := o.2.length + 2, opt := c.opt.apply o }, false) := by
  have length := optionLength_of_reads h simple.short
  have data : View.Reads v (c.ptr + 2) o.2 := by
    rw [Tlv.encodeOne, View.reads_cons, View.reads_cons] at h
    exact h.2.2
  have code : byte c.ptr v = some o.1 := by
    rw [Tlv.encodeOne, View.reads_cons] at h
    exact h.1
  have word : o.1 = Code.reqIpaddr ∨ o.1 = Code.leaseTime ∨ o.1 = Code.serverId → ∀ set,
      wordOption c set v = some ({ c with optlen := o.2.length + 2, opt := set c.opt (htonl (wordOf o.2)) }, false) := by
    intro isWord set
    have four := simple.word isWord
    rw [wordOption, bind_apply_of_some length, if_pos ⟨by omega, by push_cast; exact room⟩,
      bind_apply_of_some (reads_word four data), pure_apply]
  rw [parseSwitch, bind_apply_of_some code, if_neg simple.notPad, if_neg simple.notOverload, if_neg simple.notFin, Options.apply]
  split
  · exact word (Or.inl ‹_›) _
  split
  · exact word (Or.inr (Or.inl ‹_›)) _
  split
  · rename_i isType
    obtain ⟨b, one⟩ := List.length_eq_one_iff.1 (simple.byte isType)
    rw [one, View.reads_cons] at data
    rw [byteOption, bind_apply_of_some length, if_pos ⟨by omega, by push_cast; exact room⟩, bind_apply_of_some data.1, one]
    rfl
  split
  · exact word (Or.inr (Or.inr ‹_›)) _
  · rw [bind_apply_of_some length, pure_apply]

/-- **The parser reads what was written.** A list of simple options is found as a whole. -/
theorem parseLoop_encode {v : View} {os : List Tlv.Opt} (simple : ∀ o ∈ os, Simple o) :
    ∀ {fuel : Nat} {c : Cursor}, os.length < fuel → c.currfield = .options → c.overloaded = 0 →
      View.Reads v c.ptr (Tlv.encode os ++ [Code.fin]) → (Tlv.encode os).length < c.remaining →
        parseLoop fuel c v = some (true, os.foldl Options.apply c.opt) := by
  induction os with
  | nil =>
    intro fuel c enough field single reads room
    obtain ⟨fuel, rfl⟩ : ∃ k, fuel = k + 1 := ⟨fuel - 1, by simp only [List.length_nil] at enough; omega⟩
    rw [Tlv.encode_nil, List.nil_append, View.reads_cons] at reads
    have switch : parseSwitch c v = some (c, true) := by
      rw [parseSwitch, bind_apply_of_some reads.1]
      simp [field, single]
    rw [parseLoop, bind_apply_of_some switch]
    rfl
  | cons o os ih =>
    intro fuel c enough field single reads room
    obtain ⟨fuel, rfl⟩ : ∃ k, fuel = k + 1 := ⟨fuel - 1, by omega⟩
    rw [Tlv.encode_cons, List.append_assoc, View.reads_append] at reads
    rw [Tlv.encode_cons, List.length_append, Tlv.encodeOne_length] at room
    push_cast at room
    have switch := parseSwitch_option (simple o (List.mem_cons_self ..)) reads.1 (by omega)
    rw [parseLoop, bind_apply_of_some switch]
    simp only [Bool.false_eq_true, if_false]
    rw [if_pos (by push_cast; omega), List.foldl_cons]
    apply ih (fun p member => simple p (List.mem_cons_of_mem _ member)) (c := ⟨_, _, _, _, _, _⟩)
    · simp only [List.length_cons] at enough
      omega
    · exact field
    · exact single
    · rw [← Tlv.encodeOne_length]
      exact reads.2
    · push_cast
      omega

theorem cookie_of_reads {v : View} (reads : View.Reads v Msg.options magicCookie) : cookieMatches v = some true := by
  simp only [magicCookie, View.reads_cons, Nat.add_assoc, Nat.reduceAdd] at reads
  obtain ⟨h0, h1, h2, h3, -⟩ := reads
  rw [cookieMatches, bind_apply_of_some h0, bind_apply_of_some h1, bind_apply_of_some h2, bind_apply_of_some h3]
  rfl

/-- A message with simple options is accepted, and they are what is found. -/
theorem parseoptions_encode {v : View} {os : List Tlv.Opt} (simple : ∀ o ∈ os, Simple o)
    (reads : View.Reads v Msg.options (magicCookie ++ (Tlv.encode os ++ [Code.fin]))) (room : (Tlv.encode os).length < 308) (g : State) :
    dhcpdParseoptions g v = some (true, { g with opt := optionsIn os, optend := none }) := by
  rw [View.reads_append] at reads
  obtain ⟨cookie, area⟩ := reads
  have few := Tlv.length_le_encode os
  have room' : (Tlv.encode os).length < Cursor.start.remaining := by
    simp only [Cursor.start, optionsSize]
    omega
  have loop : parseLoop 512 Cursor.start v = some (true, os.foldl Options.apply Cursor.start.opt) :=
    parseLoop_encode simple (by omega) rfl rfl area room'
  rw [dhcpdParseoptions, bind_apply_of_some (cookie_of_reads cookie), if_pos rfl, bind_apply_of_some loop]
  rfl

end ArtikSdk.Dhcp.Server
