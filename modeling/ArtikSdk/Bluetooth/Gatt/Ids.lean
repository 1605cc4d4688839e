import ArtikSdk.Bluetooth.Gatt.Calls
import Std.Data.String.ToNat

/-!
# GATT server: what an id designates

The ids are positions. Next to the server runs a book of what the application was told: the
object that each add made under the ids that it gave and got.
-/

namespace ArtikSdk.Bluetooth.Gatt
open Lib

/-! ## Object paths -/

theorem printed_isDigit {n : Nat} {c : Char} (member : c ∈ printed n) : c.isDigit = true :=
  Nat.isDigit_of_mem_toDigits (by decide) (by decide) member

theorem printed_inj {n m : Nat} (same : printed n = printed m) : n = m := Nat.repr_injective (congrArg String.ofList same)

/-- A text that does not go on with a digit. -/
def Stops (xs : List Char) : Prop := ∀ c ∈ xs.head?, c.isDigit = false

theorem Stops.nil : Stops [] := by
  intro c member
  cases member

theorem Stops.characteristic (xs : List Char) : Stops (gattCharacteristicPrefix ++ xs) := by
  intro c member
  cases member
  rfl

theorem Stops.descriptor (xs : List Char) : Stops (gattDescriptorPrefix ++ xs) := by
  intro c member
  cases member
  rfl

/-- A number ends where something else begins. -/
theorem printed_append {n m : Nat} {xs ys : List Char} (same : printed n ++ xs = printed m ++ ys) (left : Stops xs) (right : Stops ys) :
    n = m ∧ xs = ys := by
  have ends (k : Nat) (zs : List Char) (stop : Stops zs) : (printed k ++ zs).takeWhile Char.isDigit = printed k := by
    rw [List.takeWhile_append_of_pos fun c member => printed_isDigit member]
    cases zs with
    | nil => exact List.append_nil _
    | cons z zs => rw [List.takeWhile_cons_of_neg (by simp [stop z rfl]), List.append_nil]
  have digits := congrArg (List.takeWhile Char.isDigit) same
  rw [ends n xs left, ends m ys right] at digits
  rw [digits] at same
  exact ⟨printed_inj digits, List.append_cancel_left same⟩

theorem Path.tail_stops (p : Path) : Stops p.tail := by
  cases p with
  | service svc => exact .nil
  | characteristic svc chr => exact .characteristic _
  | descriptor svc chr desc => exact .characteristic _

/-- Different paths are different texts. -/
theorem Path.text_injective {p q : Path} (same : p.text = q.text) : p = q := by
  obtain ⟨svc, tails⟩ := printed_append (List.append_cancel_left same) p.tail_stops q.tail_stops
  cases p with
  | service n =>
    cases q with
    | service n' => exact congrArg Path.service svc
    | characteristic n' m' => cases tails
    | descriptor n' m' k' => cases tails
  | characteristic n m =>
    cases q with
    | service n' => cases tails
    | characteristic n' m' => exact congrArg₂ Path.characteristic svc (printed_inj (List.append_cancel_left tails))
    | descriptor n' m' k' =>
      have behind : printed m ++ [] = printed m' ++ (gattDescriptorPrefix ++ printed k') :=
        (List.append_nil _).trans (List.append_cancel_left tails)
      cases (printed_append behind .nil (.descriptor _)).2
  | descriptor n m k =>
    cases q with
    | service n' => cases tails
    | characteristic n' m' =>
      have behind : printed m ++ (gattDescriptorPrefix ++ printed k) = printed m' ++ [] :=
        (List.append_cancel_left tails).trans (List.append_nil _).symm
      cases (printed_append behind (.descriptor _) .nil).2
    | descriptor n' m' k' =>
      obtain ⟨rfl, rest⟩ := printed_append (List.append_cancel_left tails) (.descriptor _) (.descriptor _)
      obtain rfl : n = n' := svc
      exact congrArg (Path.descriptor n m) (printed_inj (List.append_cancel_left rest))

/-! ## Positions -/

section Positions

variable {α β : Type} {xs : List α} {id : Int}

theorem nth_append (x : α) : nth (xs ++ [x]) id = if id = xs.length then some x else nth xs id := by
  rw [nth, nth]
  by_cases negative : id < 0
  · rw [if_pos negative, if_pos negative, if_neg (by omega)]
  · rw [if_neg negative, if_neg negative]
    by_cases here : id = xs.length
    · rw [if_pos here, here, Int.toNat_natCast, List.getElem?_concat_length]
    · rw [if_neg here]
      by_cases before : id.toNat < xs.length
      · exact List.getElem?_append_left before
      · rw [List.getElem?_eq_none (by rw [List.length_append, List.length_singleton]; omega), List.getElem?_eq_none (by omega)]

theorem nth_modify (f : α → α) (i : Nat) : nth (xs.modify i f) id = if id = i then (nth xs id).map f else nth xs id := by
  rw [nth, nth]
  by_cases negative : id < 0
  · rw [if_pos negative, if_pos negative, if_neg (by omega)]
  · rw [if_neg negative, if_neg negative, List.getElem?_modify]
    by_cases here : id = i
    · rw [if_pos here, here, Int.toNat_natCast]
      simp only [if_true]
      rfl
    · have other : i ≠ id.toNat := by omega
      rw [if_neg here]
      simp only [if_neg other]
      cases xs[id.toNat]? <;> rfl

theorem nth_map (f : α → β) : nth (xs.map f) id = (nth xs id).map f := by
  rw [nth, nth, List.getElem?_map]
  split
  · rfl
  · rfl

/-- The last one goes. -/
theorem nth_eraseIdx {i : Nat} (last : i + 1 = xs.length) : nth (xs.eraseIdx i) id = if id = i then none else nth xs id := by
  rw [nth, nth]
  by_cases negative : id < 0
  · rw [if_pos negative, if_pos negative, if_neg (by omega)]
  · rw [if_neg negative, if_neg negative, List.getElem?_eraseIdx]
    by_cases here : id = i
    · rw [if_pos here, here, Int.toNat_natCast, if_neg (Nat.lt_irrefl _), List.getElem?_eq_none (by omega)]
    · rw [if_neg here]
      split
      · rfl
      · rw [List.getElem?_eq_none (by omega), List.getElem?_eq_none (by omega)]

end Positions

/-! ## Ids -/

/-- What an id, or a chain of them, stands for. -/
inductive Key where
  | service (svc : Int)
  | characteristic (svc chr : Int)
  | descriptor (svc chr desc : Int)
deriving DecidableEq

def Key.svc : Key → Int
  | .service svc | .characteristic svc _ | .descriptor svc _ _ => svc

/-- The object that is looked up by position. -/
def designates (k : Key) (services : List BtGattService) : Option Nat :=
  match k with
  | .service svc => (nth services svc).map (·.servId)
  | .characteristic svc chr => (nth services svc).bind fun service => (nth service.charData chr).map (·.objectId)
  | .descriptor svc chr desc =>
    (nth services svc).bind fun service => (nth service.charData chr).bind fun characteristic =>
      (nth characteristic.descData desc).map (·.objectId)

/-- The paths of all objects. -/
def Hci.paths (s : Hci) : List Path := s.gattServices.map (·.servPath) ++ s.attributes.map (·.path)

/-- The ids that a call names. -/
def ServerCall.names : ServerCall → List Key
  | .addService .. => []
  | .addCharacteristic svcId .. => [.service svcId]
  | .addDescriptor svcId charId .. => [.service svcId, .characteristic svcId charId]
  | .setChrOnReadRequest svcId charId _ | .setChrOnWriteRequest svcId charId _ | .setChrOnNotifyRequest svcId charId _ =>
    [.service svcId, .characteristic svcId charId]
  | .setDescOnReadRequest svcId charId descId _ | .setDescOnWriteRequest svcId charId descId _ =>
    [.service svcId, .characteristic svcId charId, .descriptor svcId charId descId]
  | .unregisterService id => [.service id]

/-- The server, and the objects that the application was told about. -/
structure Registry where
  hci : Hci
  book : Key → Option Nat

def Registry.init : Registry := ⟨.init, fun _ => none⟩

/-- What the application learns: an add made an object, the next one to be registered, and a removal
took all that belongs to the service. -/
def ServerCall.note (c : ServerCall) (objects : Nat) (o : ServerOutput) (book : Key → Option Nat) : Key → Option Nat :=
  match c, o.id with
  | .addService .., some id => Function.update book (.service id) (some objects)
  | .addCharacteristic svcId .., some id => Function.update book (.characteristic svcId id) (some objects)
  | .addDescriptor svcId charId .., some id => Function.update book (.descriptor svcId charId id) (some objects)
  | .unregisterService id, _ => fun k => if o.result = .ok ∧ k.svc = id then none else book k
  | _, _ => book

def Registry.step (c : ServerCall) (w : Registry) : Except Fault (Registry × ServerOutput) :=
  (serverStep c w.hci).map fun r => (⟨r.1, c.note w.hci.objects r.2 w.book⟩, r.2)

/-- Every id that the application was given designates its object, no two objects have the same
path, and an id that designates nothing is refused. -/
structure Keeps (c : Call ServerCall Registry ServerOutput) : Prop where
  designated : ∀ k o, c.after.book k = some o → designates k c.after.hci.gattServices = some o
  paths : (c.after.hci.paths.map Path.text).Nodup
  refused : ∀ k ∈ c.input.names, designates k c.before.hci.gattServices = none →
    c.output.result ≠ .ok ∧ c.after.hci = c.before.hci

/-- A call after which the ids stay right: a characteristic goes to the service with id 0 or is
refused, a descriptor to a characteristic that is there, a callback not to the id behind the last
service, and the service removed is the last. -/
def ServerCall.Fits (c : ServerCall) (s : Hci) : Prop :=
  match c with
  | .addService .. => True
  | .addCharacteristic svcId chr error =>
    chr.uuid = none ∨ ∃ service rest, s.gattServices = service :: rest ∧
      (svcId = 0 ∨ registerObject (.characteristic 0 service.charData.length) error s ≠ none)
  | .unregisterService id => 0 ≤ id ∧ id + 1 = s.gattServices.length
  | c => c.Crashless s

/-- The book is right, and what it takes to stay so. -/
structure Registry.Inv (w : Registry) : Prop where
  tied : ∃ l, w.hci.Tied l
  services : (w.hci.gattServices.map (·.servId)).Nodup
  made : ∀ svc ∈ w.hci.gattServices, svc.servId < w.hci.objects
  paths : w.hci.paths.Nodup
  exported : ∀ p ∈ w.hci.paths, p ∈ w.hci.exported
  book : w.book = fun k => designates k w.hci.gattServices

theorem Registry.Inv.init : Registry.init.Inv where
  tied := ⟨.init, Tied.init⟩
  services := .nil
  made svc member := by cases member
  paths := .nil
  exported p member := by cases member
  book := by
    funext k
    cases k <;> simp [Registry.init, Hci.init, designates, nth]

variable {s : Hci} {w w' : Registry} {c : ServerCall} {o : ServerOutput}

/-! ## Adding -/

/-- Where the book is right before and after, only ids that designate nothing are left to look at. -/
theorem keeps_of_inv (inv : w'.Inv)
    (refused : ∀ k ∈ c.names, designates k w.hci.gattServices = none → o.result ≠ .ok ∧ w'.hci = w.hci) : Keeps ⟨w, c, w', o⟩ where
  designated k object noted := by
    rw [inv.book] at noted
    exact noted
  paths := inv.paths.map fun _ _ same => Path.text_injective same
  refused := refused

theorem note_none {result : ArtikError} (refused : result ≠ .ok) (objects : Nat) (book : Key → Option Nat) :
    c.note objects ⟨result, none⟩ book = book := by
  cases c <;> simp [ServerCall.note, refused]

/-- A call that is refused. -/
theorem refused_keeps (inv : w.Inv) (result : ArtikError) (refused : result ≠ .ok) (answered : serverStep c w.hci = .ok (w.hci, ⟨result, none⟩)) :
    ∃ w' o, w.step c = .ok (w', o) ∧ w'.Inv ∧ Keeps ⟨w, c, w', o⟩ := by
  refine ⟨w, ⟨result, none⟩, ?_, inv, keeps_of_inv inv fun _ _ _ => ⟨refused, rfl⟩⟩
  rw [Registry.step, answered]
  simp only [Except.map, note_none refused]

theorem registerObject_none {path : Path} {error : Option GError} (free : registerObject path error s = none) : path ∉ s.exported := by
  rw [registerObject] at free
  split at free
  · rename_i some
    rw [free] at some
    cases some
  · intro member
    rw [if_pos member] at free
    cases free

/-- An object comes in under a new key. -/
theorem added_keeps (inv : w.Inv) {path : Path} {error : Option GError} (value : List Byte) (services : List BtGattService) (key : Key)
    (id : Nat) (free : registerObject path error w.hci = none)
    (answered : serverStep c w.hci = .ok ({ w.hci.register path value with gattServices := services }, ⟨.ok, some id⟩))
    (crashless : c.Crashless w.hci)
    (notes : c.note w.hci.objects ⟨.ok, some id⟩ w.book = Function.update w.book key (some w.hci.objects))
    (servIds : services.map (·.servId) = w.hci.gattServices.map (·.servId) ∨
      services.map (·.servId) = w.hci.gattServices.map (·.servId) ++ [w.hci.objects])
    (paths : (services.map (·.servPath) ++ (services.flatMap BtGattService.attributes).map (·.path)).Perm (path :: w.hci.paths))
    (finds : ∀ k, designates k services = if k = key then some w.hci.objects else designates k w.hci.gattServices)
    (names : ∀ k ∈ c.names, designates k w.hci.gattServices ≠ none) :
    ∃ w' o, w.step c = .ok (w', o) ∧ w'.Inv ∧ Keeps ⟨w, c, w', o⟩ := by
  obtain ⟨l, tied⟩ := inv.tied
  obtain ⟨s', o, same, serves⟩ := server_answers tied crashless
  rw [answered] at same
  cases same
  have below : ∀ n ∈ w.hci.gattServices.map (·.servId), n < w.hci.objects := by
    intro n member
    obtain ⟨svc, there, rfl⟩ := List.mem_map.1 member
    exact inv.made svc there
  have after : Registry.Inv ⟨{ w.hci.register path value with gattServices := services },
      c.note w.hci.objects ⟨.ok, some id⟩ w.book⟩ := by
    refine ⟨⟨_, serves.tied⟩, ?_, fun svc member => ?_, ?_, fun p member => ?_, ?_⟩
    · rcases servIds with same | more
      · exact same ▸ inv.services
      · refine more ▸ List.nodup_append.2 ⟨inv.services, List.nodup_singleton _, fun a member b last => ?_⟩
        rw [List.mem_singleton.1 last]
        exact Nat.ne_of_lt (below a member)
    · have member : svc.servId ∈ services.map (·.servId) := List.mem_map_of_mem member
      change svc.servId < w.hci.objects + 1
      rcases servIds with same | more
      · have := below _ (same ▸ member)
        omega
      · rw [more, List.mem_append, List.mem_singleton] at member
        rcases member with old | new
        · have := below _ old
          omega
        · omega
    · refine paths.nodup_iff.2 (List.nodup_cons.2 ⟨fun member => ?_, inv.paths⟩)
      exact registerObject_none free (inv.exported path member)
    · rcases List.mem_cons.1 (paths.mem_iff.1 member) with rfl | old
      · exact List.mem_append_right _ (List.mem_singleton_self _)
      · exact List.mem_append_left _ (inv.exported p old)
    · dsimp only
      rw [notes, inv.book]
      funext k
      rw [finds k, Function.update_apply]
  refine ⟨_, ⟨.ok, some id⟩, ?_, after, keeps_of_inv after fun k member none => absurd none (names k member)⟩
  rw [Registry.step, answered]
  rfl

theorem addService_keeps (inv : w.Inv) (uuid : Option String) (primary : Bool) (error : Option GError) :
    ∃ w' o, w.step (.addService uuid primary error) = .ok (w', o) ∧ w'.Inv ∧ Keeps ⟨w, .addService uuid primary error, w', o⟩ := by
  cases free : registerObject (.service w.hci.gattServices.length) error w.hci with
  | some e =>
    refine refused_keeps inv _ (btCheckError_refused e) ?_
    rw [serverStep, btGattAddService]
    simp only [free]
  | none =>
    let new : BtGattService := ⟨.service w.hci.gattServices.length, w.hci.objects, uuid, primary, []⟩
    refine added_keeps inv [] (w.hci.gattServices ++ [new]) (.service w.hci.gattServices.length) w.hci.gattServices.length free ?_
      trivial rfl (Or.inr ?_) ?_ (fun k => ?_) (by simp [ServerCall.names])
    · rw [serverStep, btGattAddService]
      simp only [free]
      rfl
    · rw [List.map_append]
      rfl
    · rw [List.map_append, List.flatMap_append, List.map_append, List.append_assoc]
      exact List.perm_middle.trans ((List.Perm.of_eq (by rw [Hci.paths, Hci.attributes]; simp [new, BtGattService.attributes])))
    · cases k with
      | service svc =>
        rw [designates, designates, nth_append]
        by_cases here : svc = w.hci.gattServices.length
        · rw [if_pos here, here, if_pos rfl]
          rfl
        · rw [if_neg here, if_neg (by simpa using here)]
      | characteristic svc chr =>
        rw [if_neg Key.noConfusion, designates, designates, nth_append]
        by_cases here : svc = w.hci.gattServices.length
        · rw [if_pos here, here, nth_length]
          simp [new, nth]
        · rw [if_neg here]
      | descriptor svc chr desc =>
        rw [if_neg Key.noConfusion, designates, designates, nth_append]
        by_cases here : svc = w.hci.gattServices.length
        · rw [if_pos here, here, nth_length]
          simp [new, nth]
        · rw [if_neg here]

/-- An entry of a list is modified and keeps its number and path. -/
theorem modify_map {α β : Type} {f : α → α} {g : α → β} (same : ∀ a, g (f a) = g a) (xs : List α) (i : Nat) :
    (xs.modify i f).map g = xs.map g := by
  apply List.ext_getElem?
  intro j
  rw [List.getElem?_map, List.getElem?_map, List.getElem?_modify]
  by_cases here : i = j
  · rw [here]
    cases xs[j]? <;> simp [same]
  · simp [here]

theorem nth_natCast {α : Type} {xs : List α} {x : α} {i : Nat} : nth xs (i : Int) = some x ↔ xs[i]? = some x := by
  rw [nth_eq_some, Int.toNat_natCast]
  exact ⟨And.right, fun found => ⟨Int.natCast_nonneg i, found⟩⟩

/-- A characteristic comes in behind those of a service. -/
def appendChr (i : Nat) (new : BtGattChar) (services : List BtGattService) : List BtGattService :=
  services.modify i fun svc => { svc with charData := svc.charData ++ [new] }

theorem designates_appendChr {services : List BtGattService} {svc : BtGattService} {i : Nat} (found : services[i]? = some svc)
    {new : BtGattChar} (bare : new.descData = []) (k : Key) :
    designates k (appendChr i new services) =
      if k = .characteristic i svc.charData.length then some new.objectId else designates k services := by
  have at' := nth_natCast.2 found
  cases k with
  | service n =>
    rw [if_neg Key.noConfusion, designates, designates, appendChr, nth_modify]
    split
    · rw [Option.map_map]
      rfl
    · rfl
  | characteristic n m =>
    rw [designates, designates, appendChr, nth_modify]
    by_cases here : n = i
    · rw [if_pos here, here, at', Option.map_some, Option.bind_some, Option.bind_some, nth_append]
      by_cases behind : m = svc.charData.length
      · rw [if_pos behind, behind, if_pos rfl]
        rfl
      · rw [if_neg behind, if_neg (by simpa using behind)]
    · rw [if_neg here, if_neg (by simp [here])]
  | descriptor n m d =>
    rw [if_neg Key.noConfusion, designates, designates, appendChr, nth_modify]
    by_cases here : n = i
    · rw [if_pos here, here, at', Option.map_some, Option.bind_some, Option.bind_some, nth_append]
      by_cases behind : m = svc.charData.length
      · rw [if_pos behind, behind, nth_length, Option.bind_some, bare]
        simp [nth]
      · rw [if_neg behind]
    · rw [if_neg here]

theorem designates_appendDesc {services : List BtGattService} {svc : BtGattService} {chr : BtGattChar} {i j : Nat}
    (service : services[i]? = some svc) (characteristic : svc.charData[j]? = some chr) (new : Attribute) (k : Key) :
    designates k (appendDesc i j new services) =
      if k = .descriptor i j chr.descData.length then some new.objectId else designates k services := by
  have at' := nth_natCast.2 service
  have at'' := nth_natCast.2 characteristic
  cases k with
  | service n =>
    rw [if_neg Key.noConfusion, designates, designates, appendDesc, nth_modify]
    split
    · rw [Option.map_map]
      rfl
    · rfl
  | characteristic n m =>
    rw [if_neg Key.noConfusion, designates, designates, appendDesc, nth_modify]
    by_cases here : n = i
    · rw [if_pos here, here, at', Option.map_some, Option.bind_some, Option.bind_some, nth_modify]
      split
      · rw [Option.map_map]
        rfl
      · rfl
    · rw [if_neg here]
  | descriptor n m d =>
    rw [designates, designates, appendDesc, nth_modify]
    by_cases here : n = i
    · rw [if_pos here, here, at', Option.map_some, Option.bind_some, Option.bind_some, nth_modify]
      by_cases there : m = j
      · rw [if_pos there, there, at'', Option.map_some, Option.bind_some, Option.bind_some, nth_append]
        by_cases behind : d = chr.descData.length
        · rw [if_pos behind, behind, if_pos rfl]
          rfl
        · rw [if_neg behind, if_neg (by simpa using behind)]
      · rw [if_neg there, if_neg (by simp [there])]
    · rw [if_neg here, if_neg (by simp [here])]

theorem appendChr_map {β : Type} {g : BtGattService → β} (same : ∀ svc cs, g { svc with charData := cs } = g svc) (i : Nat)
    (new : BtGattChar) (services : List BtGattService) : (appendChr i new services).map g = services.map g :=
  modify_map (fun svc => same svc _) services i

theorem appendDesc_map {β : Type} {g : BtGattService → β} (same : ∀ svc cs, g { svc with charData := cs } = g svc) (i j : Nat)
    (new : Attribute) (services : List BtGattService) : (appendDesc i j new services).map g = services.map g :=
  modify_map (fun svc => same svc _) services i

theorem paths_perm {services : List BtGattService} {new : Attribute}
    (same : services.map (·.servPath) = s.gattServices.map (·.servPath))
    (front : (services.flatMap BtGattService.attributes).Perm (new :: s.attributes)) :
    (services.map (·.servPath) ++ (services.flatMap BtGattService.attributes).map (·.path)).Perm (new.path :: s.paths) := by
  rw [same, Hci.paths]
  exact ((front.map _).append_left _).trans List.perm_middle

theorem appendChr_perm {i : Nat} {svc : BtGattService} (service : s.gattServices[i]? = some svc) {new : BtGattChar} (bare : new.descData = []) :
    ((appendChr i new s.gattServices).flatMap BtGattService.attributes).Perm (new.toAttribute :: s.attributes) := by
  refine modify_perm service ?_
  rw [BtGattService.attributes, BtGattService.attributes, List.flatMap_append, List.flatMap_singleton, bare]
  exact List.perm_append_comm

theorem addCharacteristic_keeps (inv : w.Inv) {svcId : Int} {chr : ArtikBtGattAttribute} {error : Option GError}
    (fits : ServerCall.Fits (.addCharacteristic svcId chr error) w.hci) :
    ∃ w' o, w.step (.addCharacteristic svcId chr error) = .ok (w', o) ∧ w'.Inv ∧
      Keeps ⟨w, .addCharacteristic svcId chr error, w', o⟩ := by
  by_cases unnamed : chr.uuid = none
  · refine refused_keeps inv .btError (by decide) ?_
    rw [serverStep, btGattAddCharacteristic, if_pos unnamed]
    rfl
  · obtain ⟨service, rest, services, own⟩ := fits.resolve_left unnamed
    cases free : registerObject (.characteristic 0 service.charData.length) error w.hci with
    | some e =>
      refine refused_keeps inv _ (btCheckError_refused e) ?_
      rw [serverStep, btGattAddCharacteristic, if_neg unnamed]
      simp only [services, free]
      rfl
    | none =>
      obtain rfl := own.resolve_right (not_not.2 free)
      have first : w.hci.gattServices[0]? = some service := by rw [services]; rfl
      let new : BtGattChar := ⟨chr.make (.characteristic 0 service.charData.length) (setCharProperties chr.property) w.hci, []⟩
      refine added_keeps inv chr.value (appendChr 0 new w.hci.gattServices) (.characteristic 0 service.charData.length)
        service.charData.length free ?_ (Or.inr (by rw [services]; exact List.cons_ne_nil _ _)) rfl
        (Or.inl (appendChr_map (fun _ _ => rfl) ..)) ?_ (designates_appendChr first rfl) ?_
      · rw [serverStep, btGattAddCharacteristic, if_neg unnamed]
        simp only [services, free]
        rfl
      · exact paths_perm (appendChr_map (fun _ _ => rfl) ..) (appendChr_perm first rfl)
      · intro k member
        rw [List.mem_singleton.1 member, designates, nth_eq_some.2 ⟨Int.le_refl 0, first⟩]
        simp

theorem addDescriptor_keeps (inv : w.Inv) {svcId charId : Int} {desc : ArtikBtGattAttribute} {error : Option GError}
    (crashless : ServerCall.Crashless (.addDescriptor svcId charId desc error) w.hci) :
    ∃ w' o, w.step (.addDescriptor svcId charId desc error) = .ok (w', o) ∧ w'.Inv ∧
      Keeps ⟨w, .addDescriptor svcId charId desc error, w', o⟩ := by
  obtain ⟨svc, chr, service, characteristic⟩ := crashless
  obtain ⟨positive, service'⟩ := nth_eq_some.1 service
  obtain ⟨positive', characteristic'⟩ := nth_eq_some.1 characteristic
  cases free : registerObject (.descriptor svcId.toNat charId.toNat chr.descData.length) error w.hci with
  | some e =>
    refine refused_keeps inv _ (btCheckError_refused e) ?_
    rw [serverStep, btGattAddDescriptor]
    simp only [service, characteristic, free]
    rfl
  | none =>
    let new := desc.make (.descriptor svcId.toNat charId.toNat chr.descData.length) (setDescProperties desc.property) w.hci
    refine added_keeps inv desc.value (appendDesc svcId.toNat charId.toNat new w.hci.gattServices)
      (.descriptor svcId charId chr.descData.length) chr.descData.length free ?_ ⟨svc, chr, service, characteristic⟩ rfl
      (Or.inl (appendDesc_map (fun _ _ => rfl) ..)) ?_ ?_ ?_
    · rw [serverStep, btGattAddDescriptor]
      simp only [service, characteristic, free]
      rfl
    · exact paths_perm (appendDesc_map (fun _ _ => rfl) ..) (appendDesc_perm service' characteristic' new)
    · intro k
      have finds := designates_appendDesc service' characteristic' new k
      rwa [Int.toNat_of_nonneg positive, Int.toNat_of_nonneg positive'] at finds
    · intro k member
      rcases List.mem_cons.1 member with rfl | member
      · rw [designates, service]
        simp
      · rw [List.mem_singleton.1 member, designates, service, Option.bind_some, characteristic]
        simp

/-! ## Callbacks -/

/-- An assignment that leaves numbers and paths as they are. -/
theorem designates_assign (o : Nat) {f : Attribute → Attribute} (same : ∀ a, (f a).objectId = a.objectId) (k : Key) (s : Hci) :
    designates k (s.assign o f).gattServices = designates k s.gattServices := by
  have keeps (a : Attribute) : (assign o f a).objectId = a.objectId := by
    rw [assign]
    split
    · exact same a
    · rfl
  cases k with
  | service n =>
    rw [designates, designates, Hci.assign, nth_map, Option.map_map]
    rfl
  | characteristic n m =>
    rw [designates, designates, Hci.assign, nth_map, Option.bind_map]
    congr 1
    funext service
    dsimp only [Function.comp]
    rw [nth_map, Option.map_map]
    congr 1
    funext chr
    exact keeps chr.toAttribute
  | descriptor n m d =>
    rw [designates, designates, Hci.assign, nth_map, Option.bind_map]
    congr 1
    funext service
    dsimp only [Function.comp]
    rw [nth_map, Option.bind_map]
    congr 1
    funext chr
    dsimp only [Function.comp, BtGattChar.assign]
    rw [nth_map, Option.map_map]
    congr 1
    funext desc
    exact keeps desc

theorem paths_assign (o : Nat) {f : Attribute → Attribute} (same : ∀ a, (f a).path = a.path) (s : Hci) : (s.assign o f).paths = s.paths := by
  have keeps : (fun a : Attribute => a.path) ∘ assign o f = fun a => a.path := by
    funext a
    dsimp only [Function.comp]
    rw [assign]
    split
    · exact same a
    · rfl
  have services : (s.assign o f).gattServices.map (·.servPath) = s.gattServices.map (·.servPath) := by
    rw [Hci.assign, List.map_map]
    rfl
  rw [Hci.paths, Hci.paths, services, assign_attributes, List.map_map, keeps]

/-- A call that sets a callback. -/
theorem assign_keeps (inv : w.Inv) (crashless : c.Crashless w.hci) {o : Nat} {f : Attribute → Attribute}
    (objects : ∀ a, (f a).objectId = a.objectId) (pathsSame : ∀ a, (f a).path = a.path) (answered : serverStep c w.hci = .ok (w.hci.assign o f, ⟨.ok, none⟩))
    (notes : c.note w.hci.objects ⟨.ok, none⟩ w.book = w.book) (names : ∀ k ∈ c.names, designates k w.hci.gattServices ≠ none) :
    ∃ w' o, w.step c = .ok (w', o) ∧ w'.Inv ∧ Keeps ⟨w, c, w', o⟩ := by
  obtain ⟨l, tied⟩ := inv.tied
  obtain ⟨s', out, same, serves⟩ := server_answers tied crashless
  rw [answered] at same
  cases same
  have servIds : (w.hci.assign o f).gattServices.map (·.servId) = w.hci.gattServices.map (·.servId) := by
    rw [Hci.assign, List.map_map]
    rfl
  have after : Registry.Inv ⟨w.hci.assign o f, w.book⟩ := by
    refine ⟨⟨_, serves.tied⟩, servIds ▸ inv.services, fun svc member => ?_, paths_assign o pathsSame w.hci ▸ inv.paths,
      paths_assign o pathsSame w.hci ▸ inv.exported, ?_⟩
    · obtain ⟨old, there, rfl⟩ := List.mem_map.1 member
      exact inv.made old there
    · rw [inv.book]
      funext k
      exact (designates_assign o objects k w.hci).symm
  refine ⟨⟨w.hci.assign o f, w.book⟩, ⟨.ok, none⟩, ?_, after, keeps_of_inv after fun k member none => absurd none (names k member)⟩
  rw [Registry.step, answered]
  simp only [Except.map, notes]

theorem setChr_keeps (c : ServerCall) (inv : w.Inv) (crashless : c.Crashless w.hci) {f : Attribute → Attribute} {svcId charId : Int}
    (objects : ∀ a, (f a).objectId = a.objectId) (pathsSame : ∀ a, (f a).path = a.path) (other : svcId ≠ w.hci.gattServices.length)
    (is : serverStep c w.hci = (setChr f svcId charId w.hci).map fun r => (r.2, ⟨r.1, none⟩))
    (notes : c.note w.hci.objects ⟨.ok, none⟩ w.book = w.book) (names : c.names = [.service svcId, .characteristic svcId charId]) :
    ∃ w' o, w.step c = .ok (w', o) ∧ w'.Inv ∧ Keeps ⟨w, c, w', o⟩ := by
  rw [setChr, findChrListById_eq, if_neg other] at is
  cases found : (nth w.hci.gattServices svcId).bind fun svc => nth svc.charData charId with
  | none =>
    rw [found] at is
    exact refused_keeps inv .badArgs (by decide) is
  | some chr =>
    rw [found] at is
    obtain ⟨svc, service, characteristic⟩ := Option.bind_eq_some_iff.1 found
    refine assign_keeps inv crashless objects pathsSame is notes fun k member => ?_
    rw [names, List.mem_cons, List.mem_singleton] at member
    rcases member with rfl | rfl
    · rw [designates, service]
      simp
    · rw [designates, service, Option.bind_some, characteristic]
      simp

theorem setDesc_keeps (c : ServerCall) (inv : w.Inv) (crashless : c.Crashless w.hci) {f : Attribute → Attribute}
    {svcId charId descId : Int} (objects : ∀ a, (f a).objectId = a.objectId) (pathsSame : ∀ a, (f a).path = a.path)
    (other : svcId ≠ w.hci.gattServices.length)
    (is : serverStep c w.hci = (setDesc f svcId charId descId w.hci).map fun r => (r.2, ⟨r.1, none⟩))
    (notes : c.note w.hci.objects ⟨.ok, none⟩ w.book = w.book)
    (names : c.names = [.service svcId, .characteristic svcId charId, .descriptor svcId charId descId]) :
    ∃ w' o, w.step c = .ok (w', o) ∧ w'.Inv ∧ Keeps ⟨w, c, w', o⟩ := by
  rw [setDesc, findDescListById_eq, if_neg other] at is
  cases found : (nth w.hci.gattServices svcId).bind fun svc => (nth svc.charData charId).bind fun chr => nth chr.descData descId with
  | none =>
    rw [found] at is
    exact refused_keeps inv .badArgs (by decide) is
  | some desc =>
    rw [found] at is
    obtain ⟨svc, service, inside⟩ := Option.bind_eq_some_iff.1 found
    obtain ⟨chr, characteristic, descriptor⟩ := Option.bind_eq_some_iff.1 inside
    refine assign_keeps inv crashless objects pathsSame is notes fun k member => ?_
    rw [names, List.mem_cons, List.mem_cons, List.mem_singleton] at member
    rcases member with rfl | rfl | rfl
    · rw [designates, service]
      simp
    · rw [designates, service, Option.bind_some, characteristic]
      simp
    · rw [designates, service, Option.bind_some, characteristic, Option.bind_some, descriptor]
      simp

/-! ## Removing -/

theorem designates_last {services : List BtGattService} {i : Nat} (last : i + 1 = services.length) (k : Key) :
    designates k (services.eraseIdx i) = if k.svc = i then none else designates k services := by
  cases k with
  | service n =>
    rw [designates, designates, nth_eraseIdx last, Key.svc]
    split
    · rfl
    · rfl
  | characteristic n m =>
    rw [designates, designates, nth_eraseIdx last, Key.svc]
    split
    · rfl
    · rfl
  | descriptor n m d =>
    rw [designates, designates, nth_eraseIdx last, Key.svc]
    split
    · rfl
    · rfl

theorem paths_eraseIdx {i : Nat} {svc : BtGattService} (found : s.gattServices[i]? = some svc) (h : Cells (List Byte)) :
    s.paths.Perm ((svc.servPath :: svc.attributes.map (·.path)) ++
      { s with gattServices := s.gattServices.eraseIdx i, heap := h }.paths) := by
  obtain ⟨bound, rfl⟩ := List.getElem?_eq_some_iff.1 found
  have services := (List.getElem_cons_eraseIdx_perm bound).symm.map BtGattService.servPath
  have attributes := (eraseIdx_perm found BtGattService.attributes).map Attribute.path
  rw [List.map_append] at attributes
  refine (services.append attributes).trans ?_
  rw [List.map_cons, List.cons_append, List.cons_append]
  refine List.Perm.cons _ ?_
  rw [← List.append_assoc, Hci.paths, ← List.append_assoc]
  exact (List.perm_append_comm).append_right _

theorem unregisterService_keeps (inv : w.Inv) {id : Int} (fits : ServerCall.Fits (.unregisterService id) w.hci) :
    ∃ w' o, w.step (.unregisterService id) = .ok (w', o) ∧ w'.Inv ∧ Keeps ⟨w, .unregisterService id, w', o⟩ := by
  obtain ⟨positive, last⟩ := fits
  obtain ⟨i, rfl⟩ := Int.eq_ofNat_of_zero_le positive
  have last' : i + 1 = w.hci.gattServices.length := by omega
  have bound : i < w.hci.gattServices.length := by omega
  have there := List.getElem?_eq_getElem bound
  obtain ⟨l, tied⟩ := inv.tied
  obtain ⟨s', o, answered, serves⟩ := server_answers (c := .unregisterService i) tied trivial
  have shape := answered
  rw [serverStep, btGattUnregisterService, freeService, nth_natCast.2 there] at shape
  dsimp only at shape
  split at shape
  · cases shape
  · rename_i h frees
    cases shape
    rw [Int.toNat_natCast] at serves answered
    have pathsOut := paths_eraseIdx there h
    have after : Registry.Inv ⟨{ w.hci with gattServices := w.hci.gattServices.eraseIdx i, heap := h },
        ServerCall.note (.unregisterService i) w.hci.objects ⟨.ok, none⟩ w.book⟩ := by
      refine ⟨⟨_, serves.tied⟩, ?_, fun svc member => inv.made svc (List.mem_of_mem_eraseIdx member), ?_, fun p member => ?_, ?_⟩
      · exact inv.services.sublist ((List.eraseIdx_sublist ..).map _)
      · exact (List.nodup_append.1 (pathsOut.nodup_iff.1 inv.paths)).2.1
      · exact inv.exported p (pathsOut.mem_iff.2 (List.mem_append_right _ member))
      · funext k
        dsimp only [ServerCall.note]
        rw [designates_last last', inv.book]
        simp
    refine ⟨_, _, by rw [Registry.step, answered]; rfl, after, keeps_of_inv after fun k member none => ?_⟩
    rw [List.mem_singleton.1 member, designates, nth_natCast.2 there] at none
    cases none

/-! ## Exactly when -/

/-- An object that an id designates is not one to come. -/
theorem designates_lt (inv : w.Inv) {k : Key} {n : Nat} (found : designates k w.hci.gattServices = some n) : n < w.hci.objects := by
  obtain ⟨l, tied⟩ := inv.tied
  cases k with
  | service svc =>
    obtain ⟨service, there, rfl⟩ := Option.map_eq_some_iff.1 found
    exact inv.made service (nth_mem there)
  | characteristic svc chr =>
    obtain ⟨service, there, found⟩ := Option.bind_eq_some_iff.1 found
    obtain ⟨characteristic, here, rfl⟩ := Option.map_eq_some_iff.1 found
    exact tied.made _ (Hci.mem_attributes (nth_mem there) (service.chr_attribute (nth_mem here)))
  | descriptor svc chr desc =>
    obtain ⟨service, there, found⟩ := Option.bind_eq_some_iff.1 found
    obtain ⟨characteristic, here, found⟩ := Option.bind_eq_some_iff.1 found
    obtain ⟨descriptor, inside, rfl⟩ := Option.map_eq_some_iff.1 found
    exact tied.made _ (Hci.mem_attributes (nth_mem there) (service.desc_attribute (nth_mem here) (nth_mem inside)))

/-- A characteristic that goes to another service than that given is not found again. -/
theorem addCharacteristic_fits (inv : w.Inv) {svcId : Int} {chr : ArtikBtGattAttribute} {error : Option GError}
    (answered : w.step (.addCharacteristic svcId chr error) = .ok (w', o)) (keeps : Keeps ⟨w, .addCharacteristic svcId chr error, w', o⟩) :
    ServerCall.Fits (.addCharacteristic svcId chr error) w.hci := by
  obtain ⟨r, added, result⟩ := map_ok_iff.1 answered
  by_cases unnamed : chr.uuid = none
  · exact Or.inl unnamed
  · obtain ⟨service, rest, services⟩ := List.exists_cons_of_ne_nil ((server_crashes added).resolve_left unnamed)
    refine Or.inr ⟨service, rest, services, ?_⟩
    by_contra! wrong
    obtain ⟨other, free⟩ := wrong
    rw [serverStep, btGattAddCharacteristic, if_neg unnamed] at added
    simp only [services, free] at added
    cases added
    cases result
    have first : w.hci.gattServices[0]? = some service := by rw [services]; rfl
    let new : BtGattChar := ⟨chr.make (.characteristic 0 service.charData.length) (setCharProperties chr.property) w.hci, []⟩
    have bare : new.descData = [] := rfl
    have finds := designates_appendChr first bare (.characteristic svcId service.charData.length)
    rw [if_neg (by simpa using other), services] at finds
    have noted := keeps.designated (.characteristic svcId service.charData.length) w.hci.objects (Function.update_self ..)
    have old : designates (.characteristic svcId service.charData.length) w.hci.gattServices = some w.hci.objects := by
      rw [services]
      exact finds.symm.trans noted
    exact absurd (designates_lt inv old) (Nat.lt_irrefl _)

/-- Behind a service that is removed the ids are not right any more. -/
theorem unregisterService_fits (inv : w.Inv) {id : Int} (answered : w.step (.unregisterService id) = .ok (w', o))
    (keeps : Keeps ⟨w, .unregisterService id, w', o⟩) : ServerCall.Fits (.unregisterService id) w.hci := by
  obtain ⟨r, removed, result⟩ := map_ok_iff.1 answered
  obtain ⟨q, frees, shape⟩ := map_ok_iff.1 removed
  obtain ⟨t, freed, ok⟩ := map_ok_iff.1 frees
  cases ok
  cases shape
  cases result
  rw [freeService] at freed
  split at freed
  · rename_i nothing
    have refused := keeps.refused (.service id) (List.mem_singleton_self _) (by rw [designates, nothing]; rfl)
    exact absurd rfl refused.1
  · rename_i svc there
    obtain ⟨positive, found⟩ := nth_eq_some.1 there
    refine ⟨positive, ?_⟩
    obtain ⟨i, rfl⟩ := Int.eq_ofNat_of_zero_le positive
    rw [Int.toNat_natCast] at found freed
    by_contra notLast
    have bound := (List.getElem?_eq_some_iff.1 found).1
    have further : i + 1 < w.hci.gattServices.length := by omega
    have next := List.getElem?_eq_getElem further
    split at freed
    · cases freed
    · cases freed
      have noted : ServerCall.note (.unregisterService i) w.hci.objects ⟨.ok, none⟩ w.book (.service (i + 1 : Nat)) =
          some w.hci.gattServices[i + 1].servId := by
        have other : ¬(ArtikError.ok = .ok ∧ (Key.service (i + 1 : Nat)).svc = i) := by
          rintro ⟨-, same⟩
          dsimp only [Key.svc] at same
          omega
        dsimp only [ServerCall.note]
        rw [if_neg other, inv.book]
        dsimp only [designates]
        rw [nth_natCast.2 next]
        rfl
      have after := keeps.designated _ _ noted
      obtain ⟨svc', there', same⟩ := Option.map_eq_some_iff.1 after
      have later := nth_natCast.1 there'
      rw [List.getElem?_eraseIdx, if_neg (by omega)] at later
      obtain ⟨bound', rfl⟩ := List.getElem?_eq_some_iff.1 later
      have distinct := (List.nodup_iff_injective_getElem.1 inv.services)
      have clash := @distinct ⟨i + 1 + 1, by rw [List.length_map]; exact bound'⟩ ⟨i + 1, by rw [List.length_map]; exact further⟩
        (by simpa using same)
      simp at clash

/-- What fits is answered and keeps the book right. -/
theorem registry_fits (inv : w.Inv) (fits : c.Fits w.hci) : ∃ w' o, w.step c = .ok (w', o) ∧ w'.Inv ∧ Keeps ⟨w, c, w', o⟩ := by
  cases c with
  | addService uuid primary error => exact addService_keeps inv uuid primary error
  | addCharacteristic svcId chr error => exact addCharacteristic_keeps inv fits
  | addDescriptor serviceId charId desc error => exact addDescriptor_keeps inv fits
  | setChrOnReadRequest svcId charId callback =>
    exact setChr_keeps _ inv fits (f := .onRead callback) (fun _ => rfl) (fun _ => rfl) fits rfl rfl rfl
  | setChrOnWriteRequest svcId charId callback =>
    exact setChr_keeps _ inv fits (f := .onWrite callback) (fun _ => rfl) (fun _ => rfl) fits rfl rfl rfl
  | setChrOnNotifyRequest svcId charId callback =>
    exact setChr_keeps _ inv fits (f := .onNotify callback) (fun _ => rfl) (fun _ => rfl) fits rfl rfl rfl
  | setDescOnReadRequest svcId charId descId callback =>
    exact setDesc_keeps _ inv fits (f := .onRead callback) (fun _ => rfl) (fun _ => rfl) fits rfl rfl rfl
  | setDescOnWriteRequest svcId charId descId callback =>
    exact setDesc_keeps _ inv fits (f := .onWrite callback) (fun _ => rfl) (fun _ => rfl) fits rfl rfl rfl
  | unregisterService id => exact unregisterService_keeps inv fits

theorem registry_exact (inv : w.Inv) (c : ServerCall) : (∃ w' o, w.step c = .ok (w', o) ∧ Keeps ⟨w, c, w', o⟩) ↔ c.Fits w.hci := by
  constructor
  · rintro ⟨w', o, answered, keeps⟩
    obtain ⟨r, served, -⟩ := map_ok_iff.1 answered
    have crashless := server_crashes served
    cases c with
    | addService uuid primary error => trivial
    | addCharacteristic svcId chr error => exact addCharacteristic_fits inv answered keeps
    | addDescriptor serviceId charId desc error => exact crashless
    | setChrOnReadRequest svcId charId callback => exact crashless
    | setChrOnWriteRequest svcId charId callback => exact crashless
    | setChrOnNotifyRequest svcId charId callback => exact crashless
    | setDescOnReadRequest svcId charId descId callback => exact crashless
    | setDescOnWriteRequest svcId charId descId callback => exact crashless
    | unregisterService id => exact unregisterService_fits inv answered keeps
  · intro fits
    obtain ⟨w', o, answered, -, keeps⟩ := registry_fits inv fits
    exact ⟨w', o, answered, keeps⟩

/-- **Ids.** Over a sequence of calls every id that was given keeps designating its object, no two
objects have the same path, and every id that designates nothing is refused, exactly when on the
way every characteristic is for the service with id 0 or refused, every descriptor is for a
characteristic that is there, no callback is set under the id behind the last service, and only
the last service is removed. -/
theorem ids_iff (cs : List ServerCall) :
    (∃ ds w, exec Registry.step cs .init = .ok (ds, w) ∧ ∀ d ∈ ds, Keeps d) ↔ Along (fun c w => c.Fits w.hci) Registry.step cs .init := by
  refine exec_along_iff (I := Registry.Inv) (P := Keeps) (fun c w inv => registry_exact inv c) ?_ Registry.Inv.init
  intro c w w' o inv fits answered
  obtain ⟨t, o', same, after, -⟩ := registry_fits inv fits
  rw [answered] at same
  cases same
  exact after

/-- With service 0 gone, id 1 designates nothing. -/
theorem removedFirst_forgets :
    ¬ ∃ ds w, exec Registry.step [.addService (some "180f") true none, .addService (some "180d") true none, .unregisterService 0]
        .init = .ok (ds, w) ∧ ∀ d ∈ ds, Keeps d := by
  rintro ⟨ds, w, ran, all⟩
  cases ran
  have noted := (all _ (List.mem_cons_of_mem _ (List.mem_cons_of_mem _ (List.mem_cons_self ..)))).designated (.service 1) 1 rfl
  cases noted

end ArtikSdk.Bluetooth.Gatt
