import ArtikSdk.Cloud.Streams

/-!
# Cloud operations: the module balance

Every operation asks the registry for a module before it looks at its arguments. The module is
given back on the way through `exit`, and not by a return in front of it.
-/

namespace ArtikSdk.Cloud
open Lib Lib.Printf

/-- As many modules were released as were requested with success. -/
def Output.Balanced (o : Output) : Prop := o.modules.count (.request .module) = o.modules.count .release

/-- An operation gets past its checks: its pointers are there, and so is the memory of its body. -/
def Given (operation : Option Operation) (malloc : Bool) : Prop :=
  ∃ op, operation = some op ∧ ∀ body, op.body = some body → body.allocated malloc = true

/-- The operation does not get its module, or returns by way of `exit`. -/
def Releases (input : Input) (s : State) : Prop :=
  match input with
  | .rest call answers => answers.http = .module → Given call.operation answers.malloc
  | .openStream _ _ _ answers =>
    answers.websocket = .module → ∀ h, answers.request.pick s.used = some h → answers.opens = .ok →
      answers.node.pick (fun a => s.used a || decide (h = a)) ≠ none
  | .websocketSendMessage handle _ websocket _ => websocket = .module → s.cloudByHandle handle ≠ none
  | .closeStream handle websocket _ => websocket = .module → s.cloudByHandle handle ≠ none
  | _ => True

/-- A return behind the request alone. -/
theorem early_balanced_iff (ret : ArtikError) (answer : ModuleAnswer) :
    (Output.returns ret [.request answer]).Balanced ↔ answer ≠ .module := by
  change [ModuleCall.request answer].count (.request .module) = [ModuleCall.request answer].count .release ↔ _
  cases answer <;> decide

theorem balanced_of_modules {o : Output} (modules : o.modules = [.request .module, .release]) : o.Balanced := by
  unfold Output.Balanced
  rw [modules]
  decide

/-- The http call is made with the module, which is then released. -/
theorem perform_modules {op : Operation} {body : Option (List Char)} {answers : Answers} {o : Output}
    (answered : perform op body answers = .ok o) : o.modules = [.request .module, .release] := by
  unfold perform at answered
  split at answered
  · rename_i http
    cases answered
    rw [http]
    rfl
  · cases answered

theorem run_balanced_iff {operation : Option Operation} {answers : Answers} {o : Output} (answered : run operation answers = .ok o) :
    o.Balanced ↔ (answers.http = .module → Given operation answers.malloc) := by
  unfold run at answered
  split at answered
  · cases answered
    rw [early_balanced_iff]
    refine ⟨fun failed http => absurd http failed, fun given http => ?_⟩
    obtain ⟨op, absent, -⟩ := given http
    cases absent
  · rename_i op
    split at answered
    · rename_i noBody
      refine iff_of_true (balanced_of_modules (perform_modules answered)) fun _ => ⟨op, rfl, fun body present => ?_⟩
      rw [noBody] at present
      cases present
    · rename_i body present
      split at answered
      · rename_i refused
        cases answered
        rw [early_balanced_iff]
        refine ⟨fun failed http => absurd http failed, fun given http => ?_⟩
        obtain ⟨op', same, allocated⟩ := given http
        cases same
        rw [allocated body present] at refused
        cases refused
      · rename_i allocated
        rw [Bool.not_eq_false] at allocated
        split at answered
        · cases answered
        · refine iff_of_true (balanced_of_modules (perform_modules answered)) fun _ => ⟨op, rfl, fun body' present' => ?_⟩
          rw [present] at present'
          cases present'
          exact allocated

variable {s s' : State} {o : Output}

theorem openStream_balanced_iff {accessToken deviceId : Option (List Char)} {sslConfig : Option Bool} {answers : OpenAnswers}
    (answered : step (.openStream accessToken deviceId sslConfig answers) s = .ok (s', o)) :
    o.Balanced ↔ Releases (.openStream accessToken deviceId sslConfig answers) s := by
  unfold Releases
  dsimp only
  obtain module | ⟨module, picked⟩ | ⟨module, picked, opens⟩ | ⟨module, picked, opens, node⟩ | ⟨module, picked, opens, node, sets⟩ |
    ⟨module, picked, opens, node, -, sets⟩ := openStream_opens answered
  · refine iff_of_true ((early_balanced_iff _ _).2 (by decide)) fun granted => ?_
    rw [module] at granted
    cases granted
  · refine iff_of_true (balanced_of_modules rfl) fun _ h given => ?_
    rw [picked] at given
    cases given
  · exact iff_of_true (balanced_of_modules rfl) fun _ h _ works => absurd works opens
  · refine iff_of_false (fun balanced => ?_) fun releases => releases module _ picked opens (by rw [← node, requested_used])
    exact (early_balanced_iff .noMem .module).1 balanced rfl
  · refine iff_of_true (balanced_of_modules rfl) fun _ h given _ none => ?_
    rw [picked] at given
    cases given
    rw [requested_used, none] at node
    cases node
  · refine iff_of_true (balanced_of_modules rfl) fun _ h given _ none => ?_
    rw [picked] at given
    cases given
    rw [requested_used, none] at node
    cases node

theorem closeStream_balanced_iff {handle : Nat} {websocket : ModuleAnswer} {closes : ArtikError}
    (answered : step (.closeStream handle websocket closes) s = .ok (s', o)) :
    o.Balanced ↔ Releases (.closeStream handle websocket closes) s := by
  unfold Releases
  dsimp only
  obtain module | ⟨module, absent⟩ | ⟨module, found⟩ := closeStream_closes answered
  · refine iff_of_true ((early_balanced_iff _ _).2 (by decide)) fun granted => ?_
    rw [module] at granted
    cases granted
  · rw [early_balanced_iff]
    exact ⟨fun failed granted => absurd granted failed, fun known granted => known granted absent⟩
  · refine iff_of_true (balanced_of_modules rfl) fun _ absent => ?_
    rw [found] at absent
    cases absent

theorem websocketSendMessage_balanced_iff {handle : Nat} {message : Option (List Char)} {websocket : ModuleAnswer} {writes : ArtikError}
    (answered : step (.websocketSendMessage handle message websocket writes) s = .ok (s', o)) :
    o.Balanced ↔ Releases (.websocketSendMessage handle message websocket writes) s := by
  unfold Releases
  change Cloud.websocketSendMessage handle message websocket writes s = _ at answered
  unfold Cloud.websocketSendMessage at answered
  dsimp only
  split at answered
  · rename_i module
    cases answered
    refine iff_of_true ((early_balanced_iff _ _).2 (by decide)) fun granted => ?_
    rw [module] at granted
    cases granted
  · split at answered
    · rename_i absent
      cases answered
      rw [early_balanced_iff]
      exact ⟨fun failed granted => absurd granted failed, fun known granted => known granted absent⟩
    · rename_i node found
      split at answered
      · cases answered
        refine iff_of_true (balanced_of_modules rfl) fun _ absent => ?_
        rw [found] at absent
        cases absent
      · cases answered

/-- **Module balance.** For every call of an operation, in every state and with every outcome, that returns:
it released as many modules as it was given if and only if it did not get its module, or its
pointers, the memory of its body, its nodes are there. -/
theorem balanced_iff {input : Input} (answered : step input s = .ok (s', o)) : o.Balanced ↔ Releases input s := by
  cases input with
  | rest call answers =>
    obtain ⟨o', ran, same⟩ := bind_ok_iff.1 answered
    cases same
    exact run_balanced_iff ran
  | openStream accessToken deviceId sslConfig answers => exact openStream_balanced_iff answered
  | websocketSendMessage handle message websocket writes => exact websocketSendMessage_balanced_iff answered
  | closeStream handle websocket closes => exact closeStream_balanced_iff answered
  | setReceiveCallback handle websocket sets =>
    change websocketSetReceiveCallback handle websocket sets s = _ at answered
    unfold websocketSetReceiveCallback at answered
    refine iff_of_true ?_ trivial
    split at answered
    · cases answered
      exact (early_balanced_iff _ _).2 (by decide)
    · cases answered
    · cases answered
      exact balanced_of_modules rfl
  | setConnectionCallback handle callback =>
    change Except.ok (websocketSetConnectionCallback handle callback s) = _ at answered
    obtain rfl : (websocketSetConnectionCallback handle callback s).2 = o := congrArg Prod.snd (Except.ok.inj answered)
    refine iff_of_true ?_ trivial
    unfold websocketSetConnectionCallback
    split <;> rfl
  | connectionCallback userData result websocket writes =>
    change websocketConnectionCallback userData result websocket writes s = _ at answered
    unfold websocketConnectionCallback at answered
    refine iff_of_true ?_ trivial
    split at answered
    · cases answered
    · split at answered
      · cases answered
        exact (early_balanced_iff .ok .null).2 (by decide)
      · cases answered
      · cases answered
        exact balanced_of_modules rfl

/-- Every step of a REST operation works. -/
def Answers.works : Answers := ⟨.module, true, .ok, 200⟩

theorem getUserDevices_balanced : ∃ s o,
    step (.rest (.getUserDevices (some ['t']) 1 true 0 (some ['u'])) .works) .init = .ok (s, o) ∧
      (o.Balanced ↔ Releases (.rest (.getUserDevices (some ['t']) 1 true 0 (some ['u'])) .works) .init) :=
  ⟨_, _, rfl, balanced_iff rfl⟩

/-- An operation that is called without an access token keeps the module. -/
theorem balanced_not : ¬ ∀ input s s' o, step input s = .ok (s', o) → o.Balanced := by
  intro all
  have kept := all (.rest (.getUserDevices none 1 true 0 (some ['u'])) .works) .init _ _ rfl
  exact (early_balanced_iff .badArgs .module).1 kept rfl

end ArtikSdk.Cloud
