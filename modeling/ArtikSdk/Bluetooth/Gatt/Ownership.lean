import ArtikSdk.Bluetooth.Gatt.Requests

/-!
# GATT server: who holds which buffer

A value buffer belongs to one attribute or to one request. `Tied` ties the attributes, the
requests and the heap to a ledger: the last accepted value of each attribute, and the attribute
and bytes of each request. What each call does to them is one lemma.
-/

namespace ArtikSdk.Bluetooth.Gatt
open Lib

/-- The last accepted value of an attribute, and what was asked by an invocation: the attribute,
and the bytes of a write. -/
structure Ledger where
  accepted : Nat → List Byte
  asked : Nat → Nat × List Byte

def Ledger.init : Ledger := ⟨fun _ => [], fun _ => (0, [])⟩

def Ledger.accept (o : Nat) (bytes : List Byte) (l : Ledger) : Ledger := { l with accepted := Function.update l.accepted o bytes }

def Ledger.ask (k o : Nat) (bytes : List Byte) (l : Ledger) : Ledger := { l with asked := Function.update l.asked k (o, bytes) }

theorem Ledger.accept_self (l : Ledger) (o : Nat) (bytes : List Byte) : (l.accept o bytes).accepted o = bytes := Function.update_self ..

theorem Ledger.accept_other (l : Ledger) {o p : Nat} (bytes : List Byte) (other : p ≠ o) : (l.accept o bytes).accepted p = l.accepted p :=
  Function.update_of_ne other ..

theorem Ledger.ask_self (l : Ledger) (k o : Nat) (bytes : List Byte) : (l.ask k o bytes).asked k = (o, bytes) := Function.update_self ..

theorem Ledger.ask_other (l : Ledger) {k j : Nat} (o : Nat) (bytes : List Byte) (other : j ≠ k) : (l.ask k o bytes).asked j = l.asked j :=
  Function.update_of_ne other ..

/-- The buffer pointers of attributes and requests. -/
def owners (as : List Attribute) (rs : List BtGattReqHandle) : List Nat :=
  as.filterMap Attribute.value ++ rs.filterMap BtGattReqHandle.value

/-- An attribute stores the bytes. -/
def Attribute.Holds (h : Cells (List Byte)) (bytes : List Byte) (a : Attribute) : Prop :=
  a.valueLength = bytes.length ∧ (a.value = none ∧ bytes = [] ∨ ∃ b, a.value = some b ∧ h.cells b = some bytes)

/-- A handle is for what was asked. -/
def BtGattReqHandle.Asks (h : Cells (List Byte)) (asked : Nat × List Byte) (r : BtGattReqHandle) : Prop :=
  r.chr.or r.desc = some asked.1 ∧
    (r.type = .read ∧ r.value = none ∨
      r.type = .write ∧ r.len = asked.2.length ∧ ∃ b, r.value = some b ∧ h.cells b = some asked.2)

structure Tied (as : List Attribute) (rs : List BtGattReqHandle) (h : Cells (List Byte)) (objects invocations : Nat)
    (l : Ledger) : Prop where
  distinct : (as.map Attribute.objectId).Nodup
  made : ∀ a ∈ as, a.objectId < objects
  named : (rs.map BtGattReqHandle.invocation).Nodup
  begun : ∀ r ∈ rs, r.invocation < invocations
  owned : h.Owned (owners as rs)
  holds : ∀ a ∈ as, a.Holds h (l.accepted a.objectId)
  asks : ∀ r ∈ rs, r.Asks h (l.asked r.invocation)

variable {as bs : List Attribute} {rs : List BtGattReqHandle} {h h' : Cells (List Byte)} {n m : Nat} {l : Ledger}
  {a : Attribute} {r : BtGattReqHandle} {bytes : List Byte} {b o k : Nat}

theorem Tied.init : Tied [] [] .empty 0 0 .init := by
  constructor <;> simp [owners, Cells.Owned.empty]

theorem owners_perm (same : as.Perm bs) (rs : List BtGattReqHandle) : (owners as rs).Perm (owners bs rs) :=
  (same.filterMap _).append_right _

theorem owners_requests {rs' : List BtGattReqHandle} (as : List Attribute) (same : rs.Perm rs') : (owners as rs).Perm (owners as rs') :=
  (same.filterMap _).append_left _

theorem Tied.perm (tied : Tied as rs h n m l) (same : as.Perm bs) : Tied bs rs h n m l where
  distinct := (same.map _).nodup_iff.1 tied.distinct
  made a member := tied.made a (same.mem_iff.2 member)
  named := tied.named
  begun := tied.begun
  owned := tied.owned.perm (owners_perm same rs)
  holds a member := tied.holds a (same.mem_iff.2 member)
  asks := tied.asks

theorem Tied.requests (tied : Tied as rs h n m l) {rs' : List BtGattReqHandle} (same : rs.Perm rs') : Tied as rs' h n m l where
  distinct := tied.distinct
  made := tied.made
  named := (same.map _).nodup_iff.1 tied.named
  begun r member := tied.begun r (same.mem_iff.2 member)
  owned := tied.owned.perm (owners_requests as same)
  holds := tied.holds
  asks r member := tied.asks r (same.mem_iff.2 member)

/-! ## Frames -/

theorem Attribute.Holds.frame (holds : a.Holds h bytes) (same : ∀ b, a.value = some b → h'.cells b = h.cells b) : a.Holds h' bytes := by
  obtain ⟨len, empty | ⟨b, value, cell⟩⟩ := holds
  · exact ⟨len, Or.inl empty⟩
  · exact ⟨len, Or.inr ⟨b, value, by rw [same b value, cell]⟩⟩

theorem BtGattReqHandle.Asks.frame {asked : Nat × List Byte} (asks : r.Asks h asked)
    (same : ∀ b, r.value = some b → h'.cells b = h.cells b) : r.Asks h' asked := by
  obtain ⟨target, read | ⟨write, len, b, value, cell⟩⟩ := asks
  · exact ⟨target, Or.inl read⟩
  · exact ⟨target, Or.inr ⟨write, len, b, value, by rw [same b value, cell]⟩⟩

theorem mem_owners_attribute (member : a ∈ as) (value : a.value = some b) : b ∈ owners as rs :=
  List.mem_append_left _ (List.mem_filterMap.2 ⟨a, member, value⟩)

theorem mem_owners_request (member : r ∈ rs) (value : r.value = some b) : b ∈ owners as rs :=
  List.mem_append_right _ (List.mem_filterMap.2 ⟨r, member, value⟩)

/-- The heap changes where nobody has a pointer. -/
theorem Tied.frame (tied : Tied as rs h n m l) (owned : h'.Owned (owners as rs))
    (same : ∀ b ∈ owners as rs, h'.cells b = h.cells b) : Tied as rs h' n m l where
  distinct := tied.distinct
  made := tied.made
  named := tied.named
  begun := tied.begun
  owned := owned
  holds a member := (tied.holds a member).frame fun b value => same b (mem_owners_attribute member value)
  asks r member := (tied.asks r member).frame fun b value => same b (mem_owners_request member value)

theorem owners_cons_attribute (a : Attribute) (as : List Attribute) (rs : List BtGattReqHandle) :
    owners (a :: as) rs = a.value.toList ++ owners as rs := by
  rw [owners, owners, List.filterMap_cons]
  cases a.value <;> rfl

theorem owners_cons_request (as : List Attribute) (r : BtGattReqHandle) (rs : List BtGattReqHandle) :
    (owners as (r :: rs)).Perm (r.value.toList ++ owners as rs) := by
  rw [owners, owners, List.filterMap_cons]
  cases r.value with
  | none => exact List.Perm.refl _
  | some b => exact List.perm_middle

/-! ## What the calls do -/

/-- Nothing else holds the pointer of an attribute. -/
theorem Tied.others (tied : Tied (a :: as) rs h n m l) : (∀ c ∈ as, c.objectId ≠ a.objectId) ∧ a.objectId < n := by
  have distinct := List.nodup_cons.1 (List.map_cons ▸ tied.distinct)
  exact ⟨fun c member same => distinct.1 (same ▸ List.mem_map_of_mem member), tied.made a (List.mem_cons_self ..)⟩

theorem Tied.rest (tied : Tied (a :: as) rs h n m l) (owned : h'.Owned (owners as rs))
    (same : ∀ b ∈ owners as rs, h'.cells b = h.cells b) : Tied as rs h' n m l where
  distinct := (List.nodup_cons.1 (List.map_cons ▸ tied.distinct)).2
  made c member := tied.made c (List.mem_cons_of_mem _ member)
  named := tied.named
  begun := tied.begun
  owned := owned
  holds c member := (tied.holds c (List.mem_cons_of_mem _ member)).frame fun b value => same b (mem_owners_attribute member value)
  asks r member := (tied.asks r member).frame fun b value => same b (mem_owners_request member value)

/-- `if (*val) free(*val)`: the attribute is left without a value. -/
theorem Tied.freed (tied : Tied (a :: as) rs h n m l) :
    ∃ h', h.freeAll a.value.toList = some h' ∧ Tied as rs h' n m l ∧ (h.NoLeak (owners (a :: as) rs) → h'.NoLeak (owners as rs)) := by
  have owned := tied.owned
  rw [owners_cons_attribute] at owned ⊢
  obtain ⟨h', frees, owned', frame, all⟩ := owned.freeAll
  refine ⟨h', frees, tied.rest owned' fun b member => frame b fun mine => ?_, all⟩
  exact (List.nodup_append.1 owned.nodup).2.2 b mine b member rfl

/-- An attribute comes in with the buffer of its value. -/
theorem Tied.enter (tied : Tied as rs h n m l) (other : ∀ c ∈ as, c.objectId ≠ a.objectId) (made : a.objectId < n)
    (owned : h.Owned (owners (a :: as) rs)) (holds : a.Holds h bytes) :
    Tied (a :: as) rs h n m (l.accept a.objectId bytes) where
  distinct := by
    rw [List.map_cons, List.nodup_cons]
    refine ⟨fun member => ?_, tied.distinct⟩
    obtain ⟨c, member, same⟩ := List.mem_map.1 member
    exact other c member same
  made c member := by
    rcases List.mem_cons.1 member with rfl | member
    · exact made
    · exact tied.made c member
  named := tied.named
  begun := tied.begun
  owned := owned
  holds c member := by
    rcases List.mem_cons.1 member with rfl | member
    · rw [Ledger.accept_self]
      exact holds
    · rw [Ledger.accept_other _ _ (other c member)]
      exact tied.holds c member
  asks := tied.asks

/-- A buffer that nobody has a pointer to yet. -/
theorem Tied.alloc (tied : Tied as rs h n m l) (bytes : List Byte) : Tied as rs (h.alloc bytes) n m l :=
  tied.frame ⟨tied.owned.nodup, fun b member => (tied.owned.alloc bytes).live b (List.mem_cons_of_mem _ member)⟩ fun _ member =>
    Cells.alloc_other _ (Nat.ne_of_lt (tied.owned.lt_next member))

/-- An attribute comes in with a value that is copied. -/
theorem Tied.copy (tied : Tied as rs h n m l) (bytes : List Byte) (other : ∀ c ∈ as, c.objectId ≠ a.objectId) (made : a.objectId < n)
    (value : a.value = some h.next) (len : a.valueLength = bytes.length) :
    Tied (a :: as) rs (h.alloc bytes) n m (l.accept a.objectId bytes) ∧
      (h.NoLeak (owners as rs) → (h.alloc bytes).NoLeak (owners (a :: as) rs)) := by
  have front : owners (a :: as) rs = h.next :: owners as rs := by
    rw [owners_cons_attribute, value]
    rfl
  refine ⟨(tied.alloc bytes).enter other made (front ▸ tied.owned.alloc bytes) ⟨len, Or.inr ⟨h.next, value, Cells.alloc_self ..⟩⟩,
    fun all => ?_⟩
  rw [front]
  exact all.alloc bytes

theorem Tied.registered (tied : Tied as rs h n m l) : Tied as rs h (n + 1) m l :=
  ⟨tied.distinct, fun a member => Nat.lt_succ_of_lt (tied.made a member), tied.named, tied.begun, tied.owned, tied.holds, tied.asks⟩

/-- A new attribute. -/
theorem Tied.add (tied : Tied as rs h n m l) (bytes : List Byte) (object : a.objectId = n) (len : a.valueLength = bytes.length)
    (value : a.value = if bytes = [] then none else some h.next) :
    Tied (a :: as) rs (if bytes = [] then h else h.alloc bytes) (n + 1) m (l.accept n bytes) ∧
      (h.NoLeak (owners as rs) → (if bytes = [] then h else h.alloc bytes).NoLeak (owners (a :: as) rs)) := by
  have more := tied.registered
  have other : ∀ c ∈ as, c.objectId ≠ a.objectId := fun c member => by
    have := tied.made c member
    omega
  rw [← object] at more ⊢
  by_cases empty : bytes = []
  · rw [if_pos empty] at value ⊢
    have front : owners (a :: as) rs = owners as rs := by
      rw [owners_cons_attribute, value]
      rfl
    rw [front]
    exact ⟨more.enter other (Nat.lt_succ_self _) (front ▸ tied.owned) ⟨len, Or.inl ⟨value, empty⟩⟩, id⟩
  · rw [if_neg empty] at value ⊢
    exact more.copy bytes other (Nat.lt_succ_self _) value len

/-- Pointers and values stay. -/
theorem Tied.map (tied : Tied as rs h n m l) {f : Attribute → Attribute}
    (same : ∀ a, (f a).objectId = a.objectId ∧ (f a).value = a.value ∧ (f a).valueLength = a.valueLength) :
    Tied (as.map f) rs h n m l ∧ owners (as.map f) rs = owners as rs := by
  have objects : (as.map f).map Attribute.objectId = as.map Attribute.objectId := by
    rw [List.map_map]
    exact List.map_congr_left fun a _ => (same a).1
  have values : owners (as.map f) rs = owners as rs := by
    rw [owners, owners, List.filterMap_map]
    congr 2
    funext a
    exact (same a).2.1
  refine ⟨⟨objects ▸ tied.distinct, fun c member => ?_, tied.named, tied.begun, values ▸ tied.owned, fun c member => ?_, tied.asks⟩, values⟩
  · obtain ⟨a, old, rfl⟩ := List.mem_map.1 member
    rw [(same a).1]
    exact tied.made a old
  · obtain ⟨a, old, rfl⟩ := List.mem_map.1 member
    obtain ⟨object, value, len⟩ := same a
    rw [Attribute.Holds, object, value, len]
    exact tied.holds a old

/-- The attribute takes over the buffer of a request. -/
theorem Tied.take (tied : Tied as (r :: rs) h n m l) (other : ∀ c ∈ as, c.objectId ≠ a.objectId) (made : a.objectId < n)
    (write : r.type = .write) (value : a.value = r.value) (len : a.valueLength = r.len) :
    Tied (a :: as) rs h n m (l.accept a.objectId (l.asked r.invocation).2) ∧
      (h.NoLeak (owners as (r :: rs)) → h.NoLeak (owners (a :: as) rs)) := by
  have same : (owners as (r :: rs)).Perm (owners (a :: as) rs) := by
    rw [owners_cons_attribute, value]
    exact owners_cons_request as r rs
  obtain ⟨-, ⟨read, -⟩ | ⟨-, size, b, buffer, cell⟩⟩ := tied.asks r (List.mem_cons_self ..)
  · rw [read] at write
    cases write
  · have fewer : Tied as rs h n m l :=
      ⟨tied.distinct, tied.made, (List.nodup_cons.1 (List.map_cons ▸ tied.named)).2,
        fun r member => tied.begun r (List.mem_cons_of_mem _ member),
        ⟨(List.nodup_append.1 ((owners_cons_request as r rs).nodup_iff.1 tied.owned.nodup)).2.1,
          fun b member => tied.owned.live b ((owners_cons_request as r rs).mem_iff.2 (List.mem_append_right _ member))⟩,
        tied.holds, fun r member => tied.asks r (List.mem_cons_of_mem _ member)⟩
    exact ⟨fewer.enter other made (tied.owned.perm same) ⟨len.trans size, Or.inr ⟨b, value.trans buffer, cell⟩⟩,
      fun all => all.perm same⟩

/-- A request goes with its buffer. -/
theorem Tied.drop (tied : Tied as (r :: rs) h n m l) :
    ∃ h', h.freeAll r.value.toList = some h' ∧ Tied as rs h' n m l ∧ (h.NoLeak (owners as (r :: rs)) → h'.NoLeak (owners as rs)) := by
  have same := owners_cons_request as r rs
  have owned := tied.owned.perm same
  obtain ⟨h', frees, owned', frame, all⟩ := owned.freeAll
  have keeps (b : Nat) (member : b ∈ owners as rs) : h'.cells b = h.cells b :=
    frame b fun mine => (List.nodup_append.1 owned.nodup).2.2 b mine b member rfl
  refine ⟨h', frees, ⟨tied.distinct, tied.made, (List.nodup_cons.1 (List.map_cons ▸ tied.named)).2,
    fun r member => tied.begun r (List.mem_cons_of_mem _ member), owned',
    fun a member => (tied.holds a member).frame fun b value => keeps b (mem_owners_attribute member value),
    fun r member => (tied.asks r (List.mem_cons_of_mem _ member)).frame fun b value => keeps b (mem_owners_request member value)⟩,
    fun leaks => all (leaks.perm same)⟩

/-- A request comes in. -/
theorem Tied.open (tied : Tied as rs h n m l) (invocation : r.invocation = m) (owned : h.Owned (owners as (r :: rs)))
    (asks : r.Asks h (o, bytes)) : Tied as (r :: rs) h n (m + 1) (l.ask m o bytes) where
  distinct := tied.distinct
  made := tied.made
  named := by
    rw [List.map_cons, List.nodup_cons]
    refine ⟨fun member => ?_, tied.named⟩
    obtain ⟨q, member, named⟩ := List.mem_map.1 member
    have := tied.begun q member
    omega
  begun q member := by
    rcases List.mem_cons.1 member with rfl | member
    · omega
    · exact Nat.lt_succ_of_lt (tied.begun q member)
  owned := owned
  holds := tied.holds
  asks q member := by
    rcases List.mem_cons.1 member with rfl | member
    · rw [invocation, Ledger.ask_self]
      exact asks
    · rw [Ledger.ask_other _ _ _ (Nat.ne_of_lt (tied.begun q member))]
      exact tied.asks q member

/-- A read is handed to the application. -/
theorem Tied.openRead (tied : Tied as rs h n m l) (invocation : r.invocation = m) (target : r.chr.or r.desc = some o)
    (read : r.type = .read) (value : r.value = none) :
    Tied as (r :: rs) h n (m + 1) (l.ask m o []) ∧ (h.NoLeak (owners as rs) → h.NoLeak (owners as (r :: rs))) := by
  have same : owners as (r :: rs) = owners as rs := by
    rw [owners, owners, List.filterMap_cons, value]
  rw [same]
  exact ⟨tied.open invocation (same ▸ tied.owned) ⟨target, Or.inl ⟨read, value⟩⟩, id⟩

/-- A write is received. -/
theorem Tied.openWrite (tied : Tied as rs h n m l) (bytes : List Byte) (invocation : r.invocation = m) (target : r.chr.or r.desc = some o)
    (write : r.type = .write) (value : r.value = some h.next) (len : r.len = bytes.length) :
    Tied as (r :: rs) (h.alloc bytes) n (m + 1) (l.ask m o bytes) ∧
      (h.NoLeak (owners as rs) → (h.alloc bytes).NoLeak (owners as (r :: rs))) := by
  have same : (owners as (r :: rs)).Perm (h.next :: owners as rs) := by
    have front := owners_cons_request as r rs
    rwa [value] at front
  exact ⟨(tied.alloc bytes).open invocation ((tied.owned.alloc bytes).perm same.symm) ⟨target, Or.inr ⟨write, len, h.next, value, Cells.alloc_self ..⟩⟩,
    fun all => (all.alloc bytes).perm same.symm⟩

/-- The buffers that `_free_service` frees, and those of empty values. -/
theorem owners_split (xs as : List Attribute) (rs : List BtGattReqHandle) :
    (owners (xs ++ as) rs).Perm
      ((xs.filter fun a => 0 < a.valueLength).filterMap Attribute.value ++
        ((xs.filter fun a => !decide (0 < a.valueLength)).filterMap Attribute.value ++ owners as rs)) := by
  rw [owners, owners, List.filterMap_append, List.append_assoc, ← List.append_assoc _ _ (_ ++ _), ← List.filterMap_append]
  exact ((List.filter_append_perm _ xs).symm.filterMap _).append_right _

/-- The attributes of a service go; where one of them is empty and has a buffer, that is lost. -/
theorem Tied.remove {xs : List Attribute} (tied : Tied (xs ++ as) rs h n m l) :
    ∃ h', h.freeAll ((xs.filter fun a => 0 < a.valueLength).filterMap Attribute.value) = some h' ∧ Tied as rs h' n m l ∧
      (h.NoLeak (owners (xs ++ as) rs) → (h'.NoLeak (owners as rs) ↔ ∀ a ∈ xs, a.value ≠ none → a.valueLength ≠ 0)) := by
  have same := owners_split xs as rs
  have owned := tied.owned.perm same
  obtain ⟨h', frees, owned', frame, all⟩ := owned.freeAll
  have keeps (b : Nat) (member : b ∈ owners as rs) : h'.cells b = h.cells b :=
    frame b fun mine => (List.nodup_append.1 owned.nodup).2.2 b mine b (List.mem_append_right _ member) rfl
  refine ⟨h', frees, ⟨?_, fun a member => tied.made a (List.mem_append_right _ member), tied.named, tied.begun,
    ⟨(List.nodup_append.1 owned'.nodup).2.1, fun b member => owned'.live b (List.mem_append_right _ member)⟩,
    fun a member => (tied.holds a (List.mem_append_right _ member)).frame fun b value => keeps b (mem_owners_attribute member value),
    fun r member => (tied.asks r member).frame fun b value => keeps b (mem_owners_request member value)⟩, fun leaks => ?_⟩
  · have distinct := tied.distinct
    rw [List.map_append] at distinct
    exact (List.nodup_append.1 distinct).2.1
  · constructor
    · intro complete a member value empty
      obtain ⟨b, value⟩ := Option.ne_none_iff_exists'.1 value
      refine owned'.leak (List.ne_nil_of_mem (a := b) ?_) complete
      exact List.mem_filterMap.2 ⟨a, List.mem_filter.2 ⟨member, by simp [empty]⟩, value⟩
    · intro none
      have nothing : (xs.filter fun a => !decide (0 < a.valueLength)).filterMap Attribute.value = [] := by
        rw [List.filterMap_eq_nil_iff]
        intro a member
        obtain ⟨member, empty⟩ := List.mem_filter.1 member
        by_contra value
        have := none a member value
        simp only [Bool.not_eq_true', decide_eq_false_iff_not] at empty
        omega
      have rest := all (leaks.perm same)
      rwa [nothing] at rest

end ArtikSdk.Bluetooth.Gatt
