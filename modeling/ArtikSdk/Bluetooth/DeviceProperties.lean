import ArtikSdk.Bluetooth.Devices
import ArtikSdk.Bluetooth.Objects

/-!
# Changed properties of a device

`_device_properties_changed` walks over the dictionary of a signal and leaves the loop at the
first property that it knows. What the application does in its callbacks is a parameter: it may
call the API, which changes `hci.state`, and set or unset callbacks.
-/

namespace ArtikSdk.Bluetooth.DeviceProperties
open Devices Objects

/-- `hci.state`, whether the callbacks of `BT_EVENT_CONNECT` and `BT_EVENT_BOND` are set, and the
state of the application. -/
structure Hci (σ : Type) where
  state : HciState
  connectFn : Bool
  bondFn : Bool
  user : σ

variable {σ : Type} {react : Report → Hci σ → Hci σ} {h : Hci σ} {p q : Property} {properties : List Property}

/-- Whether `hci.callback[event].fn` is there. -/
def Hci.listens (h : Hci σ) : Report → Bool
  | .connect _ => h.connectFn
  | .bond _ => h.bondFn

section
variable (react : Report → Hci σ → Hci σ)

/-- `_user_callback` -/
def userCallback (report : Report) (h : Hci σ) : Hci σ × List Report :=
  if h.listens report then (react report h, [report]) else (h, [])

/-- `_device_properties_changed`: the state behind it, and what was reported. -/
def devicePropertiesChanged : List Property → Hci σ → Hci σ × List Report
  | [], h => (h, [])
  | (key, val) :: properties, h =>
    if key = "Connected" then
      if h.state = .idle then userCallback react (.connect val.getBoolean) h else (h, [])
    else if key = "Paired" then
      if h.state = .idle then userCallback react (.bond val.getBoolean) h else (h, [])
    else if key = "ServiceResolved" then (h, [])
    else devicePropertiesChanged properties h

/-- A signal for each property. -/
def oneAtATime : List Property → Hci σ → Hci σ × List Report
  | [], h => (h, [])
  | p :: properties, h =>
    let first := devicePropertiesChanged react [p] h
    let rest := oneAtATime properties first.1
    (rest.1, first.2 ++ rest.2)

end

/-- The properties at which the loop is left. -/
def Known (p : Property) : Prop := p.1 = "Connected" ∨ p.1 = "Paired" ∨ p.1 = "ServiceResolved"

instance (p : Property) : Decidable (Known p) := inferInstanceAs (Decidable (_ ∨ _))

/-- A signal with this property alone reports it. -/
def Reported (h : Hci σ) (p : Property) : Prop :=
  h.state = .idle ∧ ((p.1 = "Connected" ∧ h.connectFn = true) ∨ (p.1 = "Paired" ∧ h.bondFn = true))

instance (h : Hci σ) (p : Property) : Decidable (Reported h p) := inferInstanceAs (Decidable (_ ∧ _))

/-- What is reported of `Connected` or `Paired`. -/
def reportOf (p : Property) : Report := if p.1 = "Connected" then .connect p.2.getBoolean else .bond p.2.getBoolean

/-- The state behind a property: that which the callback leaves. -/
def left (react : Report → Hci σ → Hci σ) (p : Property) (h : Hci σ) : Hci σ := if Reported h p then react (reportOf p) h else h

/-- Behind the first property that is known, none is reported in the state that it leaves. -/
def Settled (react : Report → Hci σ → Hci σ) : List Property → Hci σ → Prop
  | [], _ => True
  | p :: properties, h => if Known p then ∀ q ∈ properties, ¬Reported (left react p h) q else Settled react properties h

/-! ## One property -/

theorem changed_known (known : Known p) : devicePropertiesChanged react (p :: properties) h = devicePropertiesChanged react [p] h := by
  obtain ⟨key, val⟩ := p
  obtain rfl | rfl | rfl := known <;> rfl

theorem changed_other (other : ¬Known p) :
    devicePropertiesChanged react (p :: properties) h = devicePropertiesChanged react properties h := by
  obtain ⟨key, val⟩ := p
  rw [Known, not_or, not_or] at other
  rw [devicePropertiesChanged, if_neg other.1, if_neg other.2.1, if_neg other.2.2]

theorem single_reported (reported : Reported h p) : devicePropertiesChanged react [p] h = (react (reportOf p) h, [reportOf p]) := by
  obtain ⟨key, val⟩ := p
  obtain ⟨idle, ⟨rfl, set⟩ | ⟨rfl, set⟩⟩ := reported
  · have called : h.listens (.connect val.getBoolean) = true := set
    rw [devicePropertiesChanged, if_pos rfl, if_pos idle, userCallback, if_pos called]
    rfl
  · have called : h.listens (.bond val.getBoolean) = true := set
    rw [devicePropertiesChanged, if_neg (by decide), if_pos rfl, if_pos idle, userCallback, if_pos called]
    rfl

theorem single_silent (silent : ¬Reported h p) : devicePropertiesChanged react [p] h = (h, []) := by
  by_cases known : Known p
  · obtain ⟨key, val⟩ := p
    by_cases idle : h.state = .idle
    · obtain rfl | rfl | rfl := known
      · have unset : ¬h.listens (.connect val.getBoolean) = true := fun set => silent ⟨idle, .inl ⟨rfl, set⟩⟩
        rw [devicePropertiesChanged, if_pos rfl, if_pos idle, userCallback, if_neg unset]
      · have unset : ¬h.listens (.bond val.getBoolean) = true := fun set => silent ⟨idle, .inr ⟨rfl, set⟩⟩
        rw [devicePropertiesChanged, if_neg (by decide), if_pos rfl, if_pos idle, userCallback, if_neg unset]
      · rfl
    · obtain rfl | rfl | rfl := known
      · rw [devicePropertiesChanged, if_pos rfl, if_neg idle]
      · rw [devicePropertiesChanged, if_neg (by decide), if_pos rfl, if_neg idle]
      · rfl
  · rw [changed_other known]
    rfl

theorem single_left (p : Property) (h : Hci σ) : (devicePropertiesChanged react [p] h).1 = left react p h := by
  rw [left]
  split
  · rename_i reported
    rw [single_reported reported]
  · rename_i silent
    rw [single_silent silent]

/-- For a device whose connection is watched this is the signal of the whole module. -/
theorem single_connected (set : h.connectFn = true) (s : State) (same : s.hciState = h.state) (b : Bool) :
    (devicePropertiesChanged react [("Connected", .boolean b)] h).2 = (Devices.devicePropertiesChanged (.connect b) s).reports := by
  have called : h.listens (.connect b) = true := set
  rw [devicePropertiesChanged, if_pos rfl, Devices.devicePropertiesChanged, same]
  split
  · rw [Variant.getBoolean, userCallback, if_pos called]
  · rfl

/-! ## One after the other -/

theorem oneAtATime_silent (silent : ∀ q ∈ properties, ¬Reported h q) : oneAtATime react properties h = (h, []) := by
  induction properties with
  | nil => rfl
  | cons p properties ih =>
    rw [List.forall_mem_cons] at silent
    rw [oneAtATime, single_silent silent.1, ih silent.2]
    rfl

theorem oneAtATime_reported (member : q ∈ properties) (reported : Reported h q) : (oneAtATime react properties h).2 ≠ [] := by
  induction properties with
  | nil => cases member
  | cons p properties ih =>
    rw [oneAtATime]
    by_cases first : Reported h p
    · rw [single_reported first]
      exact List.cons_ne_nil _ _
    · have later : q ∈ properties := (List.mem_cons.1 member).resolve_left fun same => first (same ▸ reported)
      rw [single_silent first]
      exact ih later

/-- A signal has the effect of its properties one at a time if and only if nothing behind the first
known one would be reported. -/
theorem propertiesChanged_iff (react : Report → Hci σ → Hci σ) (properties : List Property) (h : Hci σ) :
    devicePropertiesChanged react properties h = oneAtATime react properties h ↔ Settled react properties h := by
  induction properties with
  | nil => exact iff_of_true rfl trivial
  | cons p properties ih =>
    rw [Settled, oneAtATime]
    by_cases known : Known p
    · rw [changed_known known, if_pos known, ← single_left]
      constructor
      · intro same q member reported
        have reports := congrArg Prod.snd same
        exact oneAtATime_reported member reported (List.self_eq_append_right.1 reports)
      · intro silent
        rw [oneAtATime_silent silent]
        simp
    · have nothing : devicePropertiesChanged react [p] h = (h, []) := by
        rw [changed_other known]
        rfl
      rw [changed_other known, if_neg known, nothing, ← ih]
      simp

/-- A device that is connected and paired in one signal: the pairing is not reported. -/
theorem paired_unreported :
    (devicePropertiesChanged (fun _ h => h) [("Connected", .boolean true), ("Paired", .boolean true)] ⟨.idle, true, true, ()⟩).2 =
        [.connect true] ∧
      (oneAtATime (fun _ h => h) [("Connected", .boolean true), ("Paired", .boolean true)] ⟨.idle, true, true, ()⟩).2 =
        [.connect true, .bond true] := by
  decide

end ArtikSdk.Bluetooth.DeviceProperties
