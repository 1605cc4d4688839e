import ArtikSdk.Lib.Chain
import ArtikSdk.Lib.CString
import ArtikSdk.Bluetooth.Ftp

/-!
# Bluetooth FTP listings

`_parse_list` of `ftp.c` turns the reply to `ListFolder` into a linked list of files. A string is
copied into a block of its length and one more, which holds what it held before: four blocks of
code do it, and not in the same order. That of the property `Modified` takes the length of what the
block holds for the length of the string.
-/

namespace ArtikSdk.Bluetooth.Listing
open Lib

/-- A string of the bus. -/
abbrev Text := { s : List Byte // 0 ∉ s }

/-- The members of `artik_bt_ftp_file` that are strings. -/
inductive Field where
  | fileType
  | fileName
  | modified
  | filePermission
deriving DecidableEq

/-- A property of an entry, with the type that obexd gives it: `text` are `Type`, `Name`, `Modified`
and `User-perm`, which are copied. -/
inductive Property where
  | text (field : Field) (s : Text)
  | size (n : BitVec 64)
  | accessed (s : Text)
  | created (s : Text)
  | other (key : String)

/-- `artik_bt_ftp_file` without its link. -/
structure File (α : Type) where
  fileType : Option α
  fileName : Option α
  modified : Option α
  filePermission : Option α
  size : BitVec 64
deriving DecidableEq

/-- What `memset` leaves. -/
def File.zero {α : Type} : File α := ⟨none, none, none, none, 0⟩

def File.get {α : Type} (file : File α) : Field → Option α
  | .fileType => file.fileType
  | .fileName => file.fileName
  | .modified => file.modified
  | .filePermission => file.filePermission

def File.set {α : Type} (file : File α) (value : Option α) : Field → File α
  | .fileType => { file with fileType := value }
  | .fileName => { file with fileName := value }
  | .modified => { file with modified := value }
  | .filePermission => { file with filePermission := value }

def File.map {α β : Type} (f : α → β) (file : File α) : File β :=
  ⟨file.fileType.map f, file.fileName.map f, file.modified.map f, file.filePermission.map f, file.size⟩

/-- A block of the heap. -/
structure Block where
  size : Nat
  bytes : Mem

def Block.read (b : Block) : List Byte := CString.read b.size b.bytes

/-- A property and what `malloc` gives for its copy: null, or a block with the bytes in it. -/
structure Slot where
  property : Property
  block : Option Mem

/-- What is left in the block of a string. -/
def copy (s : List Byte) (m : Mem) : Field → Mem
  | .fileType | .fileName => (CString.strncpy s s.length m).store s.length [0]
  | .filePermission => CString.strncpy s s.length (m.store s.length [0])
  | .modified =>
    let m := m.store s.length [0]
    CString.strncpy s (CString.strlen (s.length + 1) m) m

/-- The member for a string: null where `malloc` gives nothing. -/
def copied (field : Field) (s : List Byte) (block : Option Mem) : Option Block :=
  block.map fun m => ⟨s.length + 1, copy s m field⟩

/-- One round of the loop over the properties. -/
def readProperty (file : File Block) (slot : Slot) : File Block :=
  match slot.property with
  | .text field s => file.set (copied field s.1 slot.block) field
  | .size n => { file with size := n }
  | .accessed _ | .created _ | .other _ => file

/-- An entry of the reply: the address that `malloc` gives for its node, or null, and its properties. -/
structure Entry where
  node : Option Nat
  slots : List Slot

/-- A reply to `ListFolder`. `malloc` does not give null for an address, nor an address twice. -/
structure Reply where
  entries : List Entry
  nonnull : ∀ e ∈ entries, e.node ≠ some 0
  distinct : (entries.filterMap Entry.node).Nodup

/-- The heap of the nodes, `head_item` and `current_item`. -/
structure Parse where
  heap : Heap (File Block)
  headItem : Nat
  currentItem : Nat

/-- One round of the loop over the entries; `none` where it returns a null list. -/
def parseEntry (p : Parse) (e : Entry) : Except Heap.Fault (Option Parse) :=
  match e.node with
  | none => .ok none
  | some fileItem => do
    let heap := p.heap.allocate fileItem ⟨0, e.slots.foldl readProperty File.zero⟩
    let heap ← if p.currentItem ≠ 0 then heap.setNext p.currentItem fileItem else .ok heap
    .ok (some ⟨heap, if p.headItem = 0 then fileItem else p.headItem, fileItem⟩)

/-- `_parse_list`: the heap and the head of the list. -/
def parseList : Parse → List Entry → Except Heap.Fault (Heap (File Block) × Nat)
  | p, [] => .ok (p.heap, p.headItem)
  | p, e :: entries =>
    match parseEntry p e with
    | .error f => .error f
    | .ok none => .ok (p.heap, 0)
    | .ok (some p) => parseList p entries

/-- `bt_ftp_list_folder`, with the answer of obexd, if it gives one: what it returns, and the heap and
`*file_list` where it writes that. -/
def btFtpListFolder (s : Ftp.State) (reply : Option Reply) :
    Except Heap.Fault (ArtikError × Option (Heap (File Block) × Nat)) :=
  if Ftp.idle s ≠ .ok then .ok (Ftp.idle s, none)
  else
    match reply with
    | none => .ok (.btError, none)
    | some r => do
      let list ← parseList ⟨Heap.empty, 0, 0⟩ r.entries
      .ok (.ok, some list)

/-! ## What is asked for -/

/-- The file that a property says. -/
def describe (file : File (List Byte)) (property : Property) : File (List Byte) :=
  match property with
  | .text field s => file.set (some s.1) field
  | .size n => { file with size := n }
  | .accessed _ | .created _ | .other _ => file

/-- The file that an entry says: what it says twice, it says last. -/
def Entry.file (e : Entry) : File (List Byte) := (e.slots.map Slot.property).foldl describe File.zero

/-- The list that is returned has one node for each entry, with what the entry says. -/
def Lists (s : Ftp.State) (r : Reply) : Prop :=
  ∃ heap head nodes, btFtpListFolder s (some r) = .ok (.ok, some (heap, head)) ∧ Chain heap head nodes ∧
    nodes.map (fun node => node.2.map Block.read) = r.entries.map Entry.file

/-- The last slot for a member. -/
def Entry.last (e : Entry) (field : Field) : Option (Text × Option Mem) :=
  (e.slots.filterMap fun slot =>
    match slot.property with
    | .text field' s => if field' = field then some (s, slot.block) else none
    | _ => none).getLast?

/-- There is memory for the string, and for `Modified` no null in it where the string goes. -/
def Fits (field : Field) (s : Text) (block : Option Mem) : Prop :=
  ∃ m, block = some m ∧ (field = .modified → ∀ k < s.1.length, m k ≠ 0)

/-- There is memory for the entry and for all its strings. -/
def Entry.Provided (e : Entry) : Prop :=
  e.node.isSome ∧ ∀ field s block, e.last field = some (s, block) → Fits field s block

/-! ## One file -/

section File

variable {α β : Type} {f g : File α} {file : File Block} {value : Option α} {field field' : Field} {s : Text} {m : Mem}
  {block : Option Mem} {slots : List Slot} {slot : Slot} {e : Entry}

theorem File.ext_get (members : ∀ field, f.get field = g.get field) (size : f.size = g.size) : f = g := by
  have fileType : f.fileType = g.fileType := members .fileType
  have fileName : f.fileName = g.fileName := members .fileName
  have modified : f.modified = g.modified := members .modified
  have filePermission : f.filePermission = g.filePermission := members .filePermission
  cases f
  cases g
  simp_all only

theorem File.get_set : (f.set value field).get field' = if field = field' then value else f.get field' := by
  cases field <;> cases field' <;> rfl

theorem File.size_set : (f.set value field).size = f.size := by cases field <;> rfl

theorem File.get_map (h : α → β) : (f.map h).get field = (f.get field).map h := by cases field <;> rfl

/-- **What is copied**: the string, or for `Modified` as much of it as the block had bytes before a null. -/
theorem read_copy : Block.read ⟨s.1.length + 1, copy s.1 m field⟩ =
    if field = .modified then s.1.take (CString.strlen (s.1.length + 1) (m.store s.1.length [0])) else s.1 := by
  have null : m.store s.1.length [0] s.1.length = 0 := by
    rw [Mem.store_inside m (Nat.le_refl _) (by simp)]
    simp
  have plain : ∀ {m : Mem}, m.Holds 0 (s.1 ++ [0]) → Block.read ⟨s.1.length + 1, m⟩ = s.1 :=
    fun holds => CString.read_of_holds s.2 holds (Nat.lt_succ_self _)
  cases field with
  | fileType | fileName =>
    refine plain (Mem.holds_append.2 ⟨Mem.Holds.store ?_ (Or.inl (by simp)), ?_⟩)
    · rw [CString.strncpy_le (Nat.le_refl _), List.take_length]
      exact Mem.holds_store _ _ _
    · rw [Nat.zero_add]
      exact Mem.holds_store _ _ _
  | filePermission =>
    have written := CString.strncpy_holds (s := s.1) (Nat.le_refl _) null
    rw [List.take_length] at written
    exact plain written
  | modified =>
    obtain ⟨short, stops, -⟩ := CString.strlen_spec null
    have written := CString.strncpy_holds short stops
    have inside : (s.1.take (CString.strlen (s.1.length + 1) (m.store s.1.length [0]))).length < s.1.length + 1 := by
      rw [List.length_take_of_le short]
      exact Nat.lt_succ_of_le short
    exact CString.read_of_holds (fun member => s.2 (List.mem_of_mem_take member)) written inside

/-- What the block holds has the length of the string only where it has no null. -/
theorem strlen_eq_iff : CString.strlen (s.1.length + 1) (m.store s.1.length [0]) = s.1.length ↔ ∀ k < s.1.length, m k ≠ 0 := by
  have null : m.store s.1.length [0] s.1.length = 0 := by
    rw [Mem.store_inside m (Nat.le_refl _) (by simp)]
    simp
  have before : ∀ k < s.1.length, m.store s.1.length [0] k = m k := fun k inside => Mem.store_outside m (Or.inl inside)
  obtain ⟨short, stops, goes⟩ := CString.strlen_spec null
  constructor
  · intro full k inside
    rw [← before k inside]
    exact goes k (full.symm ▸ inside)
  · intro nonzero
    refine short.eq_of_not_lt fun less => ?_
    rw [before _ less] at stops
    exact nonzero _ less stops

theorem copied_iff : (copied field s.1 block).map Block.read = some s.1 ↔ Fits field s block := by
  cases block with
  | none =>
    constructor
    · rintro ⟨⟩
    · rintro ⟨m, ⟨⟩, -⟩
  | some m =>
    have taken : s.1.take (CString.strlen (s.1.length + 1) (m.store s.1.length [0])) = s.1 ↔ ∀ k < s.1.length, m k ≠ 0 := by
      rw [← strlen_eq_iff, List.take_eq_self_iff]
      constructor
      · intro long
        exact (CString.strlen_spec (by rw [Mem.store_inside m (Nat.le_refl _) (by simp)]; simp)).1.antisymm long
      · exact Eq.ge
    have fits : Fits field s (some m) ↔ (field = .modified → ∀ k < s.1.length, m k ≠ 0) := by
      simp only [Fits, Option.some.injEq, exists_eq_left']
    rw [copied, Option.map_some, Option.map_some, Option.some.injEq, read_copy, fits]
    split
    · rename_i modified
      rw [taken, imp_iff_right modified]
    · rename_i other
      exact iff_of_true rfl fun modified => absurd modified other

/-- The last slot for a member, one slot more. -/
theorem last_concat (node : Option Nat) : Entry.last ⟨node, slots ++ [slot]⟩ field =
    match slot.property with
    | .text field' s => if field' = field then some (s, slot.block) else Entry.last ⟨node, slots⟩ field
    | _ => Entry.last ⟨node, slots⟩ field := by
  rw [Entry.last, List.filterMap_append, List.getLast?_append]
  cases property : slot.property with
  | text field' s =>
    by_cases same : field' = field
    · simp [property, same]
    · simp [property, same, Entry.last]
  | size | accessed | created | other => simp [property, Entry.last]

/-- The loop over the properties leaves in each member what its last slot says. -/
theorem get_file (node : Option Nat) : (slots.foldl readProperty File.zero).get field =
    (Entry.last ⟨node, slots⟩ field).bind fun last => copied field last.1.1 last.2 := by
  induction slots using List.reverseRecOn with
  | nil => cases field <;> rfl
  | append_singleton slots slot ih =>
    rw [List.foldl_concat, last_concat, readProperty]
    cases slot.property with
    | text field' s =>
      by_cases same : field' = field
      · subst same
        simp only [File.get_set, if_true, Option.bind_some]
      · simp only [File.get_set, if_neg same, ih]
    | size n =>
      rw [← ih]
      cases field <;> rfl
    | accessed | created | other => exact ih

theorem file_concat (node : Option Nat) :
    Entry.file ⟨node, slots ++ [slot]⟩ = describe (Entry.file ⟨node, slots⟩) slot.property := by
  rw [Entry.file, List.map_append, List.foldl_append]
  rfl

theorem get_entry (node : Option Nat) : (Entry.file ⟨node, slots⟩).get field =
    (Entry.last ⟨node, slots⟩ field).map fun last => last.1.1 := by
  induction slots using List.reverseRecOn with
  | nil => cases field <;> rfl
  | append_singleton slots slot ih =>
    rw [last_concat, file_concat]
    cases slot.property with
    | text field' s =>
      by_cases same : field' = field
      · subst same
        simp only [describe, File.get_set, if_true, Option.map_some]
      · simp only [describe, File.get_set, if_neg same, ih]
    | size n =>
      rw [← ih]
      cases field <;> rfl
    | accessed | created | other => exact ih

theorem size_file (node : Option Nat) : (slots.foldl readProperty File.zero).size = (Entry.file ⟨node, slots⟩).size := by
  induction slots using List.reverseRecOn with
  | nil => rfl
  | append_singleton slots slot ih =>
    rw [List.foldl_concat, file_concat, readProperty]
    cases slot.property with
    | text field s => simp only [describe, File.size_set, ih]
    | size n => rfl
    | accessed | created | other => exact ih

/-- **One entry**: its file is what it says just where there was memory for its strings. -/
theorem file_iff : (e.slots.foldl readProperty File.zero).map Block.read = e.file ↔
    ∀ field s block, e.last field = some (s, block) → Fits field s block := by
  have member : ∀ field, ((e.slots.foldl readProperty File.zero).map Block.read).get field = e.file.get field ↔
      ∀ s block, e.last field = some (s, block) → Fits field s block := by
    intro field
    rw [File.get_map, get_file e.node, get_entry e.node]
    cases e.last field with
    | none => exact iff_of_true rfl nofun
    | some last =>
      obtain ⟨s, block⟩ := last
      simp only [Option.bind_some, Option.map_some, copied_iff, Option.some.injEq, Prod.mk.injEq]
      exact ⟨fun fits _ _ same => same.1 ▸ same.2 ▸ fits, fun all => all s block ⟨rfl, rfl⟩⟩
  constructor
  · intro same field
    exact (member field).1 (congrArg (File.get · field) same)
  · intro fits
    exact File.ext_get (fun field => (member field).2 (fits field)) (size_file e.node)

end File

/-! ## The list -/

variable {p : Parse} {e : Entry} {entries : List Entry} {nodes : List (Nat × File Block)} {a : Nat}

/-- The list so far. -/
structure Follows (p : Parse) (nodes : List (Nat × File Block)) : Prop where
  chain : Chain p.heap p.headItem nodes
  current : p.currentItem = lastAddr 0 nodes

/-- **One round** appends a node. -/
theorem parseEntry_follows (follows : Follows p nodes) (node : e.node = some a) (nonnull : a ≠ 0) (unused : p.heap.cell a = none) :
    ∃ p', parseEntry p e = .ok (some p') ∧ Follows p' (nodes ++ [(a, e.slots.foldl readProperty File.zero)]) ∧
      ∀ b, b ≠ a → p.heap.cell b = none → p'.heap.cell b = none := by
  have appended := follows.chain.append nonnull unused (e.slots.foldl readProperty File.zero)
  by_cases first : nodes = []
  · subst first
    have head : p.headItem = 0 := follows.chain
    have none : p.currentItem = 0 := follows.current
    refine ⟨⟨p.heap.allocate a ⟨0, e.slots.foldl readProperty File.zero⟩, a, a⟩, ?_, ⟨appended.1 rfl, rfl⟩, fun b other empty => ?_⟩
    · simp [parseEntry, node, head, none]
      rfl
    · rw [← empty]
      exact Function.update_of_ne other _ _
  · obtain ⟨h', linked, chain, -, same⟩ := appended.2 first
    have last : p.currentItem ≠ 0 := by
      rw [follows.current]
      exact fun null => first ((lastAddr_eq_zero follows.chain).1 null)
    have head : p.headItem ≠ 0 := by
      obtain ⟨q, nodes, rfl⟩ := List.exists_cons_of_ne_nil first
      exact follows.chain.2.1
    have other : lastAddr 0 nodes ≠ a := by
      obtain ⟨nodes, q, rfl⟩ := (nodes.eq_nil_or_concat').resolve_left first
      rw [lastAddr_append]
      rintro rfl
      obtain ⟨-, next, cell⟩ := Segment.cells follows.chain (List.mem_append_right _ (List.mem_singleton_self q))
      rw [unused] at cell
      cases cell
    have whole := Heap.setNext_allocate other ⟨0, e.slots.foldl readProperty File.zero⟩ linked
    refine ⟨⟨h'.allocate a ⟨0, e.slots.foldl readProperty File.zero⟩, p.headItem, a⟩, ?_, ⟨chain, ?_⟩, fun b other empty => ?_⟩
    · simp only [parseEntry, node, if_pos last, if_neg head, follows.current ▸ whole]
      rfl
    · rw [lastAddr_append]
    · have at_b := same b
      rw [empty, Option.isSome_none, Option.isSome_eq_false_iff, Option.isNone_iff_eq_none] at at_b
      rw [← at_b]
      exact Function.update_of_ne other _ _

/-- **The loop** returns a node for each entry, or a null list where one has no memory. -/
theorem parseList_follows (follows : Follows p nodes) (nonnull : ∀ e ∈ entries, e.node ≠ some 0)
    (distinct : (entries.filterMap Entry.node).Nodup) (unused : ∀ a ∈ entries.filterMap Entry.node, p.heap.cell a = none) :
    ∃ heap head nodes', parseList p entries = .ok (heap, head) ∧ Chain heap head nodes' ∧
      nodes'.map Prod.snd = if ∀ e ∈ entries, e.node.isSome
        then nodes.map Prod.snd ++ entries.map (·.slots.foldl readProperty File.zero) else [] := by
  induction entries generalizing p nodes with
  | nil => exact ⟨p.heap, p.headItem, nodes, rfl, follows.chain, by simp⟩
  | cons e entries ih =>
    cases node : e.node with
    | none =>
      refine ⟨p.heap, 0, [], by simp only [parseList, parseEntry, node], rfl, ?_⟩
      rw [if_neg fun all => ?_]
      · rfl
      · have some := all e (List.mem_cons_self ..)
        rw [node] at some
        cases some
    | some a =>
      rw [List.filterMap_cons_some node] at distinct unused
      obtain ⟨away, distinct⟩ := List.nodup_cons.1 distinct
      obtain ⟨p', parsed, follows', others⟩ := parseEntry_follows follows node
        (fun null => nonnull e (List.mem_cons_self ..) (null ▸ node)) (unused a (List.mem_cons_self ..))
      obtain ⟨heap, head, nodes', rest, chain, items⟩ := ih follows' (fun e member => nonnull e (List.mem_cons_of_mem _ member)) distinct
        fun b member => others b (fun same => away (same ▸ member)) (unused b (List.mem_cons_of_mem _ member))
      refine ⟨heap, head, nodes', by simp only [parseList, parsed, rest], chain, ?_⟩
      simp only [items, List.forall_mem_cons, node, Option.isSome_some, true_and, List.map_append, List.map_cons, List.map_nil,
        List.append_assoc, List.singleton_append]

/-! ## The call -/

variable {s : Ftp.State} {r : Reply}

/-- The list of a reply. -/
theorem listing (r : Reply) : ∃ heap head nodes, parseList ⟨Heap.empty, 0, 0⟩ r.entries = .ok (heap, head) ∧ Chain heap head nodes ∧
    nodes.map Prod.snd = if ∀ e ∈ r.entries, e.node.isSome then r.entries.map (·.slots.foldl readProperty File.zero) else [] := by
  have start : Follows ⟨Heap.empty, 0, 0⟩ [] := ⟨rfl, rfl⟩
  exact parseList_follows start r.nonnull r.distinct fun _ _ => rfl

/-- What is returned is what the call returns in the model of the transfers, and no node is lost on the way. -/
theorem btFtpListFolder_returns (s : Ftp.State) (reply : Option Reply) :
    ∃ list, btFtpListFolder s reply = .ok ((Ftp.btFtpListFolder reply.isSome s).2, list) := by
  unfold btFtpListFolder Ftp.btFtpListFolder
  split
  · exact ⟨_, rfl⟩
  · cases reply with
    | none => exact ⟨_, rfl⟩
    | some r =>
      obtain ⟨heap, head, -, parsed, -, -⟩ := listing r
      refine ⟨some (heap, head), ?_⟩
      simp only [parsed]
      rfl

theorem lists_items (idle : Ftp.idle s = .ok) : Lists s r ↔
    (if ∀ e ∈ r.entries, e.node.isSome
      then r.entries.map fun e => (e.slots.foldl readProperty File.zero).map Block.read else []) = r.entries.map Entry.file := by
  obtain ⟨heap, head, nodes, parsed, chain, items⟩ := listing r
  have returned : btFtpListFolder s (some r) = .ok (.ok, some (heap, head)) := by
    rw [btFtpListFolder, if_neg (not_not.2 idle)]
    simp only [parsed]
    rfl
  have shown : nodes.map (fun node => node.2.map Block.read) = if ∀ e ∈ r.entries, e.node.isSome
      then r.entries.map fun e => (e.slots.foldl readProperty File.zero).map Block.read else [] := by
    have mapped := congrArg (List.map (File.map Block.read)) items
    rw [List.map_map] at mapped
    refine mapped.trans ?_
    split
    · rw [List.map_map]
      rfl
    · rfl
  rw [← shown]
  constructor
  · rintro ⟨heap', head', nodes', returned', chain', same⟩
    rw [returned] at returned'
    cases returned'
    rwa [chain.unique chain']
  · exact fun same => ⟨heap, head, nodes, returned, chain, same⟩

/-- **A listing is exact** just where there was memory for each entry and each of its strings, and
the memory for a `Modified` had no null where the string goes. -/
theorem lists_iff (idle : Ftp.idle s = .ok) : Lists s r ↔ ∀ e ∈ r.entries, e.Provided := by
  rw [lists_items idle]
  split
  · rename_i nodes
    rw [List.map_inj_left]
    exact forall₂_congr fun e member => file_iff.trans (and_iff_right (nodes e member)).symm
  · rename_i missing
    refine iff_of_false (fun empty => missing ?_) fun provided => missing fun e member => (provided e member).1
    rw [List.map_eq_nil_iff.1 empty.symm]
    exact List.forall_mem_nil _

/-- A session. -/
def opened : Ftp.State := { Ftp.State.init with sessionPath := some ['/'] }

/-- A file modified at `2`, whose copy goes into a block of zeros. -/
def dated : Entry := ⟨some 1, [⟨.text .modified ⟨[50], by simp⟩, some fun _ => 0⟩]⟩

def touched : Reply where
  entries := [dated]
  nonnull := by simp [dated]
  distinct := List.nodup_singleton 1

theorem lists_iff_touched : Lists opened touched ↔ ∀ e ∈ touched.entries, e.Provided := lists_iff rfl

/-- Of the date nothing is listed. -/
theorem touched_undated : ¬ ∀ s r, Ftp.idle s = .ok → Lists s r := by
  intro all
  have items := (lists_items rfl).1 (all opened touched rfl)
  have node : ∀ e ∈ touched.entries, e.node.isSome = true := List.forall_mem_singleton.2 rfl
  rw [if_pos node] at items
  obtain ⟨m, given, nonzero⟩ := file_iff.1 (List.head_eq_of_cons_eq items) .modified ⟨[50], by simp⟩ _ rfl
  obtain rfl := Option.some.inj given
  exact nonzero rfl 0 Nat.one_pos rfl

end ArtikSdk.Bluetooth.Listing
