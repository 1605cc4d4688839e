import ArtikSdk.Bluetooth.Gatt.Ownership

/-!
# GATT server: what each call does

When a call crashes, and otherwise what it answers and what it makes of the ledger.
-/

namespace ArtikSdk.Bluetooth.Gatt
open Lib

/-- The attributes, requests and buffers of a state are tied to the ledger. -/
def Hci.Tied (s : Hci) (l : Ledger) : Prop := Gatt.Tied s.attributes s.requests s.heap s.objects s.invocations l

/-- Every buffer that was not freed belongs to an attribute or to a request. -/
def Hci.NoLeak (s : Hci) : Prop := s.heap.NoLeak (owners s.attributes s.requests)

variable {s s' : Hci} {l : Ledger} {a : Attribute} {o k : Nat} {r : BtGattReqHandle} {svc : BtGattService} {chr : BtGattChar}
  {i : Nat} {id svcId charId descId : Int}

/-! ## Positions -/

theorem nth_eq_some {α : Type} {xs : List α} {x : α} : nth xs id = some x ↔ 0 ≤ id ∧ xs[id.toNat]? = some x := by
  rw [nth]
  split
  · simp
    omega
  · simp
    omega

theorem nth_mem {α : Type} {xs : List α} {x : α} (found : nth xs id = some x) : x ∈ xs := List.mem_of_getElem? (nth_eq_some.1 found).2

theorem nth_shorter {α : Type} {xs : List α} (short : shorter xs id) : nth xs id = none := by
  rw [nth]
  rcases short with negative | behind
  · rw [if_pos negative]
  · split
    · rfl
    · exact List.getElem?_eq_none (by omega)

theorem nth_length {α : Type} (xs : List α) : nth xs xs.length = none := by
  rw [nth, if_neg (by omega)]
  exact List.getElem?_eq_none (by simp)

/-- `_find_chr_list_by_id` looks behind the list where the id is its length. -/
theorem findChrListById_eq (svcId charId : Int) (s : Hci) :
    findChrListById svcId charId s =
      if svcId = s.gattServices.length then .error .nullPointer
      else .ok ((nth s.gattServices svcId).bind fun svc => nth svc.charData charId) := by
  rw [findChrListById]
  by_cases short : shorter s.gattServices svcId
  · have other : svcId ≠ s.gattServices.length := by
      rcases short with negative | behind <;> omega
    rw [if_pos short, if_neg other, nth_shorter short]
    rfl
  · rw [if_neg short]
    by_cases behind : svcId = s.gattServices.length
    · rw [if_pos behind, behind, nth_length]
    · rw [if_neg behind]
      cases found : nth s.gattServices svcId with
      | none =>
        rw [nth] at found
        simp only [shorter] at short
        split at found
        · omega
        · rw [List.getElem?_eq_none_iff] at found
          omega
      | some svc =>
        dsimp only [Option.bind_some]
        split
        · rename_i short
          rw [nth_shorter short]
        · rfl

theorem findDescListById_eq (svcId charId descId : Int) (s : Hci) :
    findDescListById svcId charId descId s =
      if svcId = s.gattServices.length then .error .nullPointer
      else .ok ((nth s.gattServices svcId).bind fun svc => (nth svc.charData charId).bind fun chr => nth chr.descData descId) := by
  rw [findDescListById, findChrListById_eq]
  split
  · rfl
  · simp only [Except.map, Option.bind_assoc]
    congr 3
    funext svc
    congr 1
    funext chr
    split
    · rename_i short
      rw [nth_shorter short]
    · rfl

/-! ## Pointers -/

theorem BtGattService.chr_attribute (member : chr ∈ svc.charData) : chr.toAttribute ∈ svc.attributes :=
  List.mem_flatMap.2 ⟨chr, member, List.mem_cons_self ..⟩

theorem BtGattService.desc_attribute (member : chr ∈ svc.charData) (desc : a ∈ chr.descData) : a ∈ svc.attributes :=
  List.mem_flatMap.2 ⟨chr, member, List.mem_cons_of_mem _ desc⟩

theorem Hci.mem_attributes (member : svc ∈ s.gattServices) (own : a ∈ svc.attributes) : a ∈ s.attributes :=
  List.mem_flatMap.2 ⟨svc, member, own⟩

theorem Hci.attribute_some (found : s.attribute o = some a) : a ∈ s.attributes ∧ a.objectId = o := by
  refine ⟨List.mem_of_find?_eq_some found, ?_⟩
  have same := List.find?_some found
  simpa using same

/-- The pointer of an attribute points to it. -/
theorem Hci.Tied.attribute (tied : s.Tied l) (member : a ∈ s.attributes) : s.attribute a.objectId = some a := by
  cases found : s.attribute a.objectId with
  | none =>
    have nothing := List.find?_eq_none.1 found a member
    simp at nothing
  | some c =>
    obtain ⟨there, same⟩ := Hci.attribute_some found
    rw [List.inj_on_of_nodup_map tied.distinct there member same]

theorem assign_attributes (o : Nat) (f : Attribute → Attribute) (s : Hci) :
    (s.assign o f).attributes = s.attributes.map (assign o f) := by
  simp only [Hci.attributes, Hci.assign, List.flatMap_map, List.map_flatMap]
  congr 1
  funext svc
  simp only [BtGattService.attributes, List.flatMap_map, List.map_flatMap, BtGattChar.assign, List.map_cons]

/-- An assignment through a pointer changes one attribute. -/
theorem Hci.Tied.split (tied : s.Tied l) (found : s.attribute o = some a) :
    ∃ rest, s.attributes.Perm (a :: rest) ∧ Gatt.Tied (a :: rest) s.requests s.heap s.objects s.invocations l ∧
      ∀ f, (s.assign o f).attributes.Perm (f a :: rest) := by
  obtain ⟨member, same⟩ := Hci.attribute_some found
  obtain ⟨front, back, shape⟩ := List.append_of_mem member
  have whole : s.attributes.Perm (a :: (front ++ back)) := by
    rw [shape]
    exact List.perm_middle
  have tied' := tied.perm whole
  refine ⟨front ++ back, whole, tied', fun f => ?_⟩
  have rest : (front ++ back).map (Gatt.assign o f) = front ++ back := by
    refine (List.map_congr_left fun c there => ?_).trans (List.map_id _)
    exact if_neg fun mine => tied'.others.1 c there (mine.trans same.symm)
  rw [assign_attributes]
  refine (whole.map _).trans ?_
  rw [List.map_cons, rest, Gatt.assign, if_pos same]

theorem Hci.Tied.handle (tied : s.Tied l) (found : s.request k = some r) :
    r.invocation = k ∧ ∃ rest, s.requests.Perm (r :: rest) ∧ (s.close k).requests.Perm rest := by
  have named : r.invocation = k := by
    have same := List.find?_some found
    simpa using same
  obtain ⟨q, front, back, -, other, shape, rest⟩ :=
    List.exists_of_eraseP (p := fun q => decide (q.invocation = k)) (List.mem_of_find?_eq_some found) (by simpa using named)
  have whole : s.requests.Perm (q :: (front ++ back)) := by
    rw [shape]
    exact List.perm_middle
  have mine : q = r := by
    refine List.inj_on_of_nodup_map tied.named (whole.mem_iff.2 (List.mem_cons_self ..)) (List.mem_of_find?_eq_some found) ?_
    rw [named]
    simpa using other
  rw [mine] at whole
  exact ⟨named, front ++ back, whole, by rw [Hci.close, rest]⟩

/-! ## Values -/

theorem freeValue_eq (found : s.attribute o = some a) :
    freeValue o s =
      match s.heap.freeAll a.value.toList with
      | none => .error .doubleFree
      | some heap => .ok { s with heap := heap } := by
  rw [freeValue, found]
  dsimp only
  cases value : a.value with
  | none => rfl
  | some b =>
    dsimp only [Option.toList_some, Cells.freeAll]
    cases s.heap.free b <;> rfl

theorem dropWrite_eq (r : BtGattReqHandle) (s : Hci) :
    dropWrite r s =
      match s.heap.freeAll r.value.toList with
      | none => .error .doubleFree
      | some heap => .ok { s with heap := heap } := by
  rw [dropWrite]
  cases value : r.value with
  | none => rfl
  | some b =>
    dsimp only [Option.toList_some, Cells.freeAll]
    cases s.heap.free b <;> rfl

/-- What stays as it is when a value is replaced. -/
structure Quiet (s s' : Hci) : Prop where
  exported : s'.exported = s.exported
  requests : s'.requests = s.requests
  objects : s'.objects = s.objects
  invocations : s'.invocations = s.invocations

theorem replaceValue_spec (tied : s.Tied l) (found : s.attribute o = some a) (bytes : List Byte) :
    ∃ s', replaceValue o bytes s = .ok s' ∧ Quiet s s' ∧ s'.Tied (l.accept o bytes) ∧ (s.NoLeak → s'.NoLeak) := by
  obtain ⟨-, rfl⟩ := Hci.attribute_some found
  obtain ⟨rest, whole, tied', assigned⟩ := tied.split found
  obtain ⟨h, frees, fewer, all⟩ := tied'.freed
  have others := tied'.others
  obtain ⟨copied, all'⟩ := fewer.copy (a := a.keep (some h.next) bytes.length) bytes others.1 others.2 rfl rfl
  have after := (assigned (.keep (some h.next) bytes.length)).symm
  refine ⟨{ s with heap := h.alloc bytes }.setValue a.objectId (some h.next) bytes.length, ?_, ⟨rfl, rfl, rfl, rfl⟩, ?_,
    fun leaks => ?_⟩
  · rw [replaceValue, freeValue_eq found, frees]
    rfl
  · exact copied.perm after
  · exact (all' (all (leaks.perm (owners_perm whole s.requests)))).perm (owners_perm after s.requests)

theorem Hci.Tied.stored (tied : s.Tied l) (member : a ∈ s.attributes) : s.stored a = .ok (l.accepted a.objectId) := by
  obtain ⟨len, ⟨none, empty⟩ | ⟨b, value, cell⟩⟩ := tied.holds a member
  · rw [Hci.stored, none, len, empty]
    rfl
  · rw [Hci.stored, value]
    simp only [cell]
    rw [len, List.take_length]

/-! ## Calls that add, look up and remove -/

/-- A call that does not look behind a list: a characteristic needs a service, a descriptor its
characteristic, and a look-up an id other than the number of services. -/
def ServerCall.Crashless (c : ServerCall) (s : Hci) : Prop :=
  match c with
  | .addService .. | .unregisterService _ => True
  | .addCharacteristic _ chr _ => chr.uuid = none ∨ s.gattServices ≠ []
  | .addDescriptor serviceId charId .. => ∃ svc chr, nth s.gattServices serviceId = some svc ∧ nth svc.charData charId = some chr
  | .setChrOnReadRequest svcId .. | .setChrOnWriteRequest svcId .. | .setChrOnNotifyRequest svcId ..
  | .setDescOnReadRequest svcId .. | .setDescOnWriteRequest svcId .. => svcId ≠ s.gattServices.length

/-- A removal does not lose a buffer: no value of the service is empty and has one. -/
def ServerCall.Frees (c : ServerCall) (s : Hci) : Prop :=
  match c with
  | .unregisterService id =>
    ∀ svc, nth s.gattServices id = some svc → ∀ a ∈ svc.attributes, a.value ≠ none → a.valueLength ≠ 0
  | _ => True

/-- The initial value of a new attribute is accepted. -/
def ServerCall.enter (c : ServerCall) (result : ArtikError) (objects : Nat) (l : Ledger) : Ledger :=
  match c with
  | .addCharacteristic _ given _ | .addDescriptor _ _ given _ => if result = .ok then l.accept objects given.value else l
  | _ => l

/-- What a call does to attributes and buffers. -/
structure Serves (c : ServerCall) (s : Hci) (l : Ledger) (s' : Hci) (o : ServerOutput) : Prop where
  tied : s'.Tied (c.enter o.result s.objects l)
  requests : s'.requests = s.requests
  invocations : s'.invocations = s.invocations
  frees : s.NoLeak → (s'.NoLeak ↔ c.Frees s)

theorem Serves.same {c : ServerCall} (tied : s.Tied l) (frees : c.Frees s) {result : ArtikError} (refused : result ≠ .ok) :
    Serves c s l s ⟨result, none⟩ := by
  refine ⟨?_, rfl, rfl, fun leaks => iff_of_true leaks frees⟩
  cases c <;> simpa [ServerCall.enter, refused] using tied

theorem btCheckError_refused (e : GError) : btCheckError (some e) ≠ .ok := by
  cases e <;> simp [btCheckError]

theorem addService_serves (tied : s.Tied l) (uuid : Option String) (primary : Bool) (error : Option GError) :
    ∃ s' o, serverStep (.addService uuid primary error) s = .ok (s', o) ∧ Serves (.addService uuid primary error) s l s' o := by
  refine ⟨_, _, rfl, ?_⟩
  rw [btGattAddService]
  dsimp only
  split
  · exact Serves.same (c := .addService uuid primary error) tied trivial (btCheckError_refused _)
  · have attributes : (s.gattServices ++ [(⟨.service s.gattServices.length, s.objects, uuid, primary, []⟩ : BtGattService)]).flatMap
        BtGattService.attributes = s.attributes := by
      rw [List.flatMap_append]
      exact List.append_nil _
    refine Serves.mk ?_ rfl rfl fun leaks => iff_of_true ?_ trivial
    · dsimp only [Hci.Tied, Hci.attributes, Hci.register]
      rw [attributes]
      exact tied.registered
    · dsimp only [Hci.NoLeak, Hci.attributes, Hci.register]
      rw [attributes]
      exact leaks

/-- A new attribute, in whatever place. -/
theorem make_serves {c : ServerCall} (tied : s.Tied l) (given : ArtikBtGattAttribute) (path : Path) (props : List String) (id : Nat)
    (enters : c.enter .ok s.objects l = l.accept s.objects given.value) (frees : c.Frees s) {services : List BtGattService}
    (front : (services.flatMap BtGattService.attributes).Perm (given.make path props s :: s.attributes)) :
    Serves c s l { s.register path given.value with gattServices := services } ⟨.ok, some id⟩ := by
  obtain ⟨added, all⟩ := Tied.add (a := given.make path props s) tied given.value rfl rfl rfl
  refine ⟨?_, rfl, rfl, fun leaks => iff_of_true ?_ frees⟩
  · rw [enters]
    exact added.perm front.symm
  · exact (all leaks).perm (owners_perm front.symm s.requests)

theorem addCharacteristic_serves (tied : s.Tied l) (svcId : Int) {given : ArtikBtGattAttribute} (error : Option GError)
    (crashless : ServerCall.Crashless (.addCharacteristic svcId given error) s) :
    ∃ s' o, serverStep (.addCharacteristic svcId given error) s = .ok (s', o) ∧
      Serves (.addCharacteristic svcId given error) s l s' o := by
  rw [serverStep, btGattAddCharacteristic]
  by_cases unnamed : given.uuid = none
  · rw [if_pos unnamed]
    exact ⟨s, ⟨.btError, none⟩, rfl, Serves.same (c := .addCharacteristic svcId given error) tied trivial (by decide)⟩
  · rw [if_neg unnamed]
    obtain ⟨service, rest, services⟩ := List.exists_cons_of_ne_nil (crashless.resolve_left unnamed)
    simp only [services]
    split
    · exact ⟨_, _, rfl, Serves.same (c := .addCharacteristic svcId given error) tied trivial (btCheckError_refused _)⟩
    · refine ⟨_, _, rfl, make_serves (c := .addCharacteristic svcId given error) tied given _
        (setCharProperties given.property) _ rfl trivial ?_⟩
      rw [Hci.attributes, services, List.flatMap_cons, List.flatMap_cons, BtGattService.attributes, BtGattService.attributes,
        List.flatMap_append, List.append_assoc, List.flatMap_singleton]
      exact List.perm_middle

/-- An entry of a list is modified. -/
theorem modify_perm {α β : Type} {xs : List α} {x : α} {i : Nat} (found : xs[i]? = some x) {f : α → α} {g : α → List β} {new : β}
    (front : (g (f x)).Perm (new :: g x)) : ((xs.modify i f).flatMap g).Perm (new :: xs.flatMap g) := by
  induction xs generalizing i with
  | nil => cases found
  | cons y ys ih =>
    cases i with
    | zero =>
      cases found
      rw [List.modify_zero_cons, List.flatMap_cons, List.flatMap_cons]
      exact front.append_right _
    | succ i =>
      rw [List.modify_succ_cons, List.flatMap_cons, List.flatMap_cons]
      exact ((ih found).append_left _).trans List.perm_middle

theorem appendDesc_perm {i j : Nat} (service : s.gattServices[i]? = some svc) (characteristic : svc.charData[j]? = some chr)
    (desc : Attribute) : ((appendDesc i j desc s.gattServices).flatMap BtGattService.attributes).Perm (desc :: s.attributes) := by
  refine modify_perm service (modify_perm characteristic ?_)
  rw [← List.cons_append]
  exact List.perm_append_comm

theorem addDescriptor_serves (tied : s.Tied l) {serviceId charId : Int} (given : ArtikBtGattAttribute) (error : Option GError)
    (crashless : ServerCall.Crashless (.addDescriptor serviceId charId given error) s) :
    ∃ s' o, serverStep (.addDescriptor serviceId charId given error) s = .ok (s', o) ∧
      Serves (.addDescriptor serviceId charId given error) s l s' o := by
  obtain ⟨svc, chr, service, characteristic⟩ := crashless
  rw [serverStep, btGattAddDescriptor]
  simp only [service, characteristic]
  split
  · exact ⟨_, _, rfl, Serves.same (c := .addDescriptor serviceId charId given error) tied trivial (btCheckError_refused _)⟩
  · exact ⟨_, _, rfl, make_serves (c := .addDescriptor serviceId charId given error) tied given _
      (setDescProperties given.property) _ rfl trivial
      (appendDesc_perm (nth_eq_some.1 service).2 (nth_eq_some.1 characteristic).2 _)⟩

/-- Callbacks are set, and nothing else changes. -/
theorem assign_serves {c : ServerCall} (tied : s.Tied l) (enters : ∀ result, c.enter result s.objects l = l) (frees : c.Frees s) (o : Nat)
    {f : Attribute → Attribute} (same : ∀ a, (f a).objectId = a.objectId ∧ (f a).value = a.value ∧ (f a).valueLength = a.valueLength) :
    Serves c s l (s.assign o f) ⟨.ok, none⟩ := by
  have keeps (a : Attribute) : (assign o f a).objectId = a.objectId ∧ (assign o f a).value = a.value ∧
      (assign o f a).valueLength = a.valueLength := by
    rw [assign]
    split
    · exact same a
    · exact ⟨rfl, rfl, rfl⟩
  obtain ⟨mapped, values⟩ := Tied.map tied keeps
  refine Serves.mk ?_ rfl rfl fun leaks => iff_of_true ?_ frees
  · rw [enters, Hci.Tied, assign_attributes]
    exact mapped
  · rw [Hci.NoLeak, assign_attributes]
    dsimp only [Hci.assign]
    rw [values]
    exact leaks

theorem setChr_serves (c : ServerCall) (tied : s.Tied l) (enters : ∀ result, c.enter result s.objects l = l) (frees : c.Frees s)
    {f : Attribute → Attribute} (same : ∀ a, (f a).objectId = a.objectId ∧ (f a).value = a.value ∧ (f a).valueLength = a.valueLength)
    (other : svcId ≠ s.gattServices.length) (charId : Int) :
    ∃ result s', setChr f svcId charId s = .ok (result, s') ∧ Serves c s l s' ⟨result, none⟩ := by
  rw [setChr, findChrListById_eq, if_neg other]
  cases (nth s.gattServices svcId).bind fun svc => nth svc.charData charId with
  | none => exact ⟨_, _, rfl, Serves.mk (by rw [enters]; exact tied) rfl rfl fun leaks => iff_of_true leaks frees⟩
  | some chr => exact ⟨_, _, rfl, assign_serves tied enters frees _ same⟩

theorem setDesc_serves (c : ServerCall) (tied : s.Tied l) (enters : ∀ result, c.enter result s.objects l = l) (frees : c.Frees s)
    {f : Attribute → Attribute} (same : ∀ a, (f a).objectId = a.objectId ∧ (f a).value = a.value ∧ (f a).valueLength = a.valueLength)
    (other : svcId ≠ s.gattServices.length) (charId descId : Int) :
    ∃ result s', setDesc f svcId charId descId s = .ok (result, s') ∧ Serves c s l s' ⟨result, none⟩ := by
  rw [setDesc, findDescListById_eq, if_neg other]
  cases (nth s.gattServices svcId).bind fun svc => (nth svc.charData charId).bind fun chr => nth chr.descData descId with
  | none => exact ⟨_, _, rfl, Serves.mk (by rw [enters]; exact tied) rfl rfl fun leaks => iff_of_true leaks frees⟩
  | some desc => exact ⟨_, _, rfl, assign_serves tied enters frees _ same⟩

theorem eraseIdx_perm {α β : Type} {xs : List α} {x : α} {i : Nat} (found : xs[i]? = some x) (g : α → List β) :
    (xs.flatMap g).Perm (g x ++ (xs.eraseIdx i).flatMap g) := by
  obtain ⟨bound, rfl⟩ := List.getElem?_eq_some_iff.1 found
  exact (List.getElem_cons_eraseIdx_perm bound).symm.flatMap_right g

theorem unregisterService_serves (tied : s.Tied l) (id : Int) :
    ∃ s' o, serverStep (.unregisterService id) s = .ok (s', o) ∧ Serves (.unregisterService id) s l s' o := by
  rw [serverStep, btGattUnregisterService, freeService]
  cases found : nth s.gattServices id with
  | none =>
    refine ⟨s, ⟨.ok, none⟩, rfl, Serves.mk tied rfl rfl fun leaks => iff_of_true leaks fun svc there => ?_⟩
    rw [found] at there
    cases there
  | some svc =>
    have front := eraseIdx_perm (nth_eq_some.1 found).2 BtGattService.attributes
    obtain ⟨h, frees, removed, exactly⟩ := Tied.remove (Tied.perm tied front)
    dsimp only
    rw [BtGattService.freed, frees]
    refine ⟨_, _, rfl, Serves.mk removed rfl rfl fun leaks => ?_⟩
    refine (exactly (leaks.perm (owners_perm front s.requests))).trans ?_
    constructor
    · intro full svc' there
      rw [found] at there
      cases there
      exact full
    · exact fun full => full svc found

/-- A call that does not look behind a list is answered. -/
theorem server_answers (tied : s.Tied l) {c : ServerCall} (crashless : c.Crashless s) :
    ∃ s' o, serverStep c s = .ok (s', o) ∧ Serves c s l s' o := by
  have plain {r : Except Fault (ArtikError × Hci)} {c : ServerCall} (served : ∃ result s', r = .ok (result, s') ∧ Serves c s l s' ⟨result, none⟩) :
      ∃ s' o, (r.map fun r => (r.2, (⟨r.1, none⟩ : ServerOutput))) = .ok (s', o) ∧ Serves c s l s' o := by
    obtain ⟨result, s', answered, serves⟩ := served
    exact ⟨s', ⟨result, none⟩, by rw [answered]; rfl, serves⟩
  cases c with
  | addService uuid primary error => exact addService_serves tied uuid primary error
  | addCharacteristic svcId chr error => exact addCharacteristic_serves tied svcId error crashless
  | addDescriptor serviceId charId desc error => exact addDescriptor_serves tied desc error crashless
  | setChrOnReadRequest svcId charId callback =>
    exact plain (setChr_serves (.setChrOnReadRequest svcId charId callback) (f := .onRead callback) tied (fun _ => rfl) trivial
      (fun _ => ⟨rfl, rfl, rfl⟩) crashless charId)
  | setChrOnWriteRequest svcId charId callback =>
    exact plain (setChr_serves (.setChrOnWriteRequest svcId charId callback) (f := .onWrite callback) tied (fun _ => rfl) trivial
      (fun _ => ⟨rfl, rfl, rfl⟩) crashless charId)
  | setChrOnNotifyRequest svcId charId callback =>
    exact plain (setChr_serves (.setChrOnNotifyRequest svcId charId callback) (f := .onNotify callback) tied (fun _ => rfl) trivial
      (fun _ => ⟨rfl, rfl, rfl⟩) crashless charId)
  | setDescOnReadRequest svcId charId descId callback =>
    exact plain (setDesc_serves (.setDescOnReadRequest svcId charId descId callback) (f := .onRead callback) tied (fun _ => rfl) trivial
      (fun _ => ⟨rfl, rfl, rfl⟩) crashless charId descId)
  | setDescOnWriteRequest svcId charId descId callback =>
    exact plain (setDesc_serves (.setDescOnWriteRequest svcId charId descId callback) (f := .onWrite callback) tied (fun _ => rfl) trivial
      (fun _ => ⟨rfl, rfl, rfl⟩) crashless charId descId)
  | unregisterService id => exact unregisterService_serves tied id

/-- A call that looks behind a list is not. -/
theorem server_crashes {c : ServerCall} {o : ServerOutput} (answered : serverStep c s = .ok (s', o)) : c.Crashless s := by
  have lookup {f : Attribute → Attribute} {svcId charId : Int} {p : ArtikError × Hci} (found : setChr f svcId charId s = .ok p) : svcId ≠ s.gattServices.length := by
    intro behind
    rw [setChr, findChrListById_eq, if_pos behind] at found
    cases found
  have lookup' {f : Attribute → Attribute} {svcId charId descId : Int} {p : ArtikError × Hci} (found : setDesc f svcId charId descId s = .ok p) :
      svcId ≠ s.gattServices.length := by
    intro behind
    rw [setDesc, findDescListById_eq, if_pos behind] at found
    cases found
  cases c with
  | addService uuid primary error => trivial
  | addCharacteristic svcId chr error =>
    obtain ⟨p, added, -⟩ := map_ok_iff.1 answered
    rw [btGattAddCharacteristic] at added
    split at added
    · exact Or.inl (by assumption)
    · split at added
      · cases added
      · rename_i service rest services
        exact Or.inr (by rw [services]; exact List.cons_ne_nil service rest)
  | addDescriptor serviceId charId desc error =>
    obtain ⟨p, added, -⟩ := map_ok_iff.1 answered
    rw [btGattAddDescriptor] at added
    split at added
    · cases added
    · split at added
      · cases added
      · exact ⟨_, _, by assumption, by assumption⟩
  | setChrOnReadRequest svcId charId callback => exact lookup (map_ok_iff.1 answered).choose_spec.1
  | setChrOnWriteRequest svcId charId callback => exact lookup (map_ok_iff.1 answered).choose_spec.1
  | setChrOnNotifyRequest svcId charId callback => exact lookup (map_ok_iff.1 answered).choose_spec.1
  | setDescOnReadRequest svcId charId descId callback => exact lookup' (map_ok_iff.1 answered).choose_spec.1
  | setDescOnWriteRequest svcId charId descId callback => exact lookup' (map_ok_iff.1 answered).choose_spec.1
  | unregisterService id => trivial

end ArtikSdk.Bluetooth.Gatt
