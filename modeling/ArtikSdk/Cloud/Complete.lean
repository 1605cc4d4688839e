import ArtikSdk.Cloud.Streams

/-!
# Cloud operations: complete requests

An operation that does not fail has sent what its strings call for exactly if each of them fits the
buffer it was formatted into: 128 bytes for the authorization, 256 for a URL, 1024 for a message on a
stream. The memory for a body is large enough as long as its length is an `int`.
-/

namespace ArtikSdk.Cloud
open Lib Lib.Printf

/-! ## Requests -/

/-- Every string of the request fits its buffer. -/
structure Operation.Fits (op : Operation) : Prop where
  headers : ∀ field ∈ op.headers, field.2.Fits
  url : op.url.Fits
  body : ∀ body ∈ op.body, ∀ text ∈ body.text, text.Fits

/-- The request that is made when the body has a buffer. -/
def Operation.built (op : Operation) : Request := op.request (op.body.bind fun body => body.text.map Text.held)

theorem text_complete {body : Body} {text : Text} (there : body.text = some text) : text.complete = body.complete := by
  cases body with
  | literal t =>
    cases there
    rfl
  | heap format strings =>
    rw [Body.text] at there
    split_ifs at there
    rw [← Option.some_inj.1 there]
    rfl

/-- The request is complete if and only if everything fits. -/
theorem built_eq_iff {op : Operation} (buffered : ∀ body ∈ op.body, body.text ≠ none) : op.built = op.complete ↔ op.Fits := by
  have headers : op.headers.map (fun field => (field.1, field.2.held)) = op.headers.map (fun field => (field.1, field.2.complete)) ↔
      ∀ field ∈ op.headers, field.2.Fits := by
    rw [List.map_inj_left]
    refine forall₂_congr fun field _ => ?_
    rw [Prod.mk.injEq, and_iff_right rfl, Text.held_eq_iff]
  have body : (op.body.bind fun body => body.text.map Text.held) = op.body.map Body.complete ↔
      ∀ body ∈ op.body, ∀ text ∈ body.text, text.Fits := by
    cases present : op.body with
    | none => exact iff_of_true rfl fun body member => by cases member
    | some body =>
      obtain ⟨text, there⟩ := Option.ne_none_iff_exists'.1 (buffered body present)
      rw [Option.bind_some, there, Option.map_some, Option.map_some, Option.some_inj, ← text_complete there, Text.held_eq_iff]
      constructor
      · intro fits body' member text' member'
        cases member
        rw [there] at member'
        cases member'
        exact fits
      · exact fun fits => fits body rfl text there
  unfold Operation.built Operation.request Operation.complete
  rw [Request.mk.injEq, headers, Text.held_eq_iff, body]
  exact ⟨fun ⟨_, _, headers, url, body⟩ => ⟨headers, url, body⟩, fun fits => ⟨rfl, rfl, fits.headers, fits.url, fits.body⟩⟩

/-- No status but 200 is taken for success. -/
theorem statusError_ne (conflict : Bool) (status : Int) : statusError conflict status ≠ .ok := by
  unfold statusError
  split <;> decide

/-- The http call gets a body, and answers with the status 200. -/
structure Answers.Succeeds (answers : Answers) (op : Operation) : Prop where
  allocated : ∀ body ∈ op.body, body.allocated answers.malloc = true
  ret : answers.ret = .ok
  status : answers.status = 200

theorem perform_sent {op : Operation} {body : Option (List Char)} {answers : Answers} {o : Output}
    (answered : perform op body answers = .ok o) :
    o.sent = some (.http (op.request body)) ∧ (o.ret = some .ok ↔ answers.ret = .ok ∧ answers.status = 200) := by
  unfold perform at answered
  split at answered
  · cases answered
    refine ⟨rfl, ?_⟩
    change some (if answers.ret ≠ .ok then answers.ret
      else if answers.status ≠ 200 then statusError op.conflict answers.status else .ok) = some .ok ↔ _
    rw [Option.some_inj]
    split
    · rename_i fails
      exact iff_of_false fails fun works => fails works.1
    · rename_i ret
      split
      · rename_i status
        exact iff_of_false (statusError_ne _ _) fun works => status works.2
      · rename_i status
        exact iff_of_true rfl ⟨not_not.1 ret, not_not.1 status⟩
  · cases answered

variable {operation : Option Operation} {answers : Answers} {s s' : State} {o : Output}

/-- An operation that returns `S_OK` had its pointers and its memory, and its call worked. -/
theorem run_succeeds (answered : run operation answers = .ok o) (ok : o.ret = some .ok) :
    ∃ op, operation = some op ∧ answers.Succeeds op := by
  unfold run at answered
  split at answered
  · cases answered
    cases ok
  · rename_i op
    split at answered
    · rename_i noBody
      obtain ⟨ret, status⟩ := (perform_sent answered).2.1 ok
      exact ⟨op, rfl, fun body member => (by rw [noBody] at member; cases member), ret, status⟩
    · rename_i body present
      split at answered
      · cases answered
        cases ok
      · rename_i allocated
        split at answered
        · cases answered
        · obtain ⟨ret, status⟩ := (perform_sent answered).2.1 ok
          refine ⟨op, rfl, fun body' member => ?_, ret, status⟩
          rw [present] at member
          cases member
          exact Bool.not_eq_false _ ▸ allocated

/-- Such an operation returns `S_OK` and has sent what is in its buffers. -/
theorem run_sent {op : Operation} (answered : run (some op) answers = .ok o) (works : answers.Succeeds op) :
    o.ret = some .ok ∧ (∀ body ∈ op.body, body.text ≠ none) ∧ o.sent = some (.http op.built) := by
  unfold run at answered
  dsimp only at answered
  split at answered
  · rename_i noBody
    obtain ⟨sent, ret⟩ := perform_sent answered
    refine ⟨ret.2 ⟨works.ret, works.status⟩, fun body member => ?_, by rw [sent, Operation.built, noBody, Option.bind_none]⟩
    rw [noBody] at member
    cases member
  · rename_i body present
    rw [works.allocated body present, if_neg Bool.true_eq_false_eq_False] at answered
    split at answered
    · cases answered
    · rename_i text there
      obtain ⟨sent, ret⟩ := perform_sent answered
      refine ⟨ret.2 ⟨works.ret, works.status⟩, fun body' member => ?_, ?_⟩
      · rw [present] at member
        cases member
        rw [there]
        exact Option.some_ne_none text
      · rw [sent, Operation.built, present, Option.bind_some, there, Option.map_some]

/-! ## Streams -/

/-- Each node's registration message is complete, and its device is the one it was opened for. -/
structure State.Sound (s : State) : Prop where
  paired : s.Paired
  registered : ∀ n ∈ s.cloud, n.registrationMessage = (registration n.given).complete
  device : ∀ n ∈ s.cloud, ∀ device ∈ n.deviceId, device = n.given.1

theorem State.Sound.init : State.init.Sound := ⟨.init, fun n member => (by cases member), fun n member => by cases member⟩

/-- What a call is to do: an operation that returns `S_OK` has sent the complete request, has registered its
stream with the complete message, or has sent the complete message; and what is sent when a stream
is connected is the complete registration message. -/
def Complete (c : Call Input State Output) : Prop :=
  match c.input with
  | .rest call _ => c.output.ret = some .ok → ∃ op, call.operation = some op ∧ c.output.sent = some (.http op.complete)
  | .openStream accessToken deviceId _ _ =>
    c.output.ret = some .ok → ∃ n ∈ c.after.cloud, c.output.handle = some n.handle ∧ deviceId = some n.given.1 ∧
      accessToken = some n.given.2 ∧ n.registrationMessage = (registration n.given).complete
  | .websocketSendMessage handle message _ _ =>
    c.output.ret = some .ok → ∃ n m, c.before.cloudByHandle handle = some n ∧ message = some m ∧
      c.output.sent = some (.stream handle (dataMessage n.given.1 m).complete)
  | .connectionCallback userData _ _ _ =>
    ∀ h text, c.output.sent = some (.stream h text) → ∃ n ∈ c.before.cloud, n.address = userData ∧ text = (registration n.given).complete
  | _ => True

/-- Where the steps of an operation work, its strings fit their buffers. -/
def FitsBuffers (input : Input) (s : State) : Prop :=
  match input with
  | .rest call answers => ∀ op, call.operation = some op → answers.Succeeds op → op.Fits
  | .openStream accessToken deviceId _ answers =>
    answers.websocket = .module → ∀ h, answers.request.pick s.used = some h → answers.Works h s →
      ∀ device token, deviceId = some device → accessToken = some token → (registration (device, token)).Fits
  | .websocketSendMessage handle message websocket writes =>
    websocket = .module → writes = .ok → ∀ n m, s.cloudByHandle handle = some n → message = some m → (dataMessage n.given.1 m).Fits
  | _ => True

theorem rest_complete_iff {call : Rest} (answered : step (.rest call answers) s = .ok (s', o)) :
    Complete ⟨s, .rest call answers, s', o⟩ ↔ FitsBuffers (.rest call answers) s := by
  obtain ⟨o', ran, same⟩ := bind_ok_iff.1 answered
  cases same
  unfold Complete FitsBuffers
  dsimp only
  constructor
  · intro complete op given works
    rw [given] at ran
    obtain ⟨ok, buffered, sent⟩ := run_sent ran works
    obtain ⟨op', given', complete⟩ := complete ok
    rw [given] at given'
    cases given'
    rw [sent, Option.some_inj, Sent.http.injEq] at complete
    exact (built_eq_iff buffered).1 complete
  · intro fits ok
    obtain ⟨op, given, works⟩ := run_succeeds ran ok
    rw [given] at ran
    obtain ⟨-, buffered, sent⟩ := run_sent ran works
    exact ⟨op, given, by rw [sent, (built_eq_iff buffered).2 (fits op given works)]⟩

/-- The node that an open added is the one with its handle. -/
theorem streaming_mem {s : State} (paired : s.Paired) {answers : OpenAnswers} {h : Nat} (picked : answers.request.pick s.used = some h)
    {a : Nat} {useSe : Bool} {given : List Char × List Char} {n : CloudNode} (member : n ∈ (s.streaming a h useSe given answers).cloud)
    (same : n.handle = h) : n = cloudNode a h given answers := by
  obtain old | new := List.mem_append.1 member
  · exact absurd (List.mem_map.2 ⟨n, old, same⟩) (new_handle paired picked)
  · exact List.mem_singleton.1 new

theorem openStream_complete_iff (sound : s.Sound) {accessToken deviceId : Option (List Char)} {sslConfig : Option Bool}
    {answers : OpenAnswers} (answered : step (.openStream accessToken deviceId sslConfig answers) s = .ok (s', o)) :
    Complete ⟨s, .openStream accessToken deviceId sslConfig answers, s', o⟩ ↔
      FitsBuffers (.openStream accessToken deviceId sslConfig answers) s := by
  unfold Complete FitsBuffers
  dsimp only
  obtain module | ⟨module, picked⟩ | ⟨module, picked, opens⟩ | ⟨module, picked, opens, node⟩ | ⟨module, picked, opens, node, sets⟩ |
    ⟨module, picked, opens, node, ⟨device, token⟩, sets⟩ := openStream_opens answered
  · refine iff_of_true (fun ok => by cases ok) fun granted => ?_
    rw [module] at granted
    cases granted
  · refine iff_of_true (fun ok => by cases ok) fun _ h given => ?_
    rw [picked] at given
    cases given
  · refine iff_of_true (fun ok => by cases ok) fun _ h given works => absurd works.opens opens
  · refine iff_of_true (fun ok => by cases ok) fun _ h given works => ?_
    rw [picked] at given
    cases given
    exact absurd (by rw [← node, requested_used]) works.node
  · refine iff_of_true (fun ok => absurd (Option.some.inj ok) sets) fun _ h given works => absurd works.sets sets
  · rename_i h a useSe given
    constructor
    · intro complete _ h' _ _ device' token' device'' token''
      obtain ⟨n, member, same, -, -, registered⟩ := complete rfl
      obtain rfl := streaming_mem sound.paired picked member (Option.some.inj same).symm
      rw [device] at device''
      rw [token] at token''
      cases device''
      cases token''
      exact (Text.held_eq_iff _).1 registered
    · intro fits _
      have works : answers.Works h s := .of_streams opens node sets
      refine ⟨cloudNode a h given answers, List.mem_append_right _ (List.mem_singleton_self _), rfl, device, token, ?_⟩
      exact (Text.held_eq_iff _).2 (fits module h picked works _ _ device token)

theorem websocketSendMessage_complete_iff (sound : s.Sound) {handle : Nat} {message : Option (List Char)} {websocket : ModuleAnswer}
    {writes : ArtikError} (answered : step (.websocketSendMessage handle message websocket writes) s = .ok (s', o)) :
    Complete ⟨s, .websocketSendMessage handle message websocket writes, s', o⟩ ↔
      FitsBuffers (.websocketSendMessage handle message websocket writes) s := by
  change Cloud.websocketSendMessage handle message websocket writes s = _ at answered
  unfold Cloud.websocketSendMessage at answered
  unfold Complete FitsBuffers
  dsimp only
  split at answered
  · rename_i module
    cases answered
    refine iff_of_true (fun ok => by cases ok) fun granted => ?_
    rw [module] at granted
    cases granted
  · split at answered
    · rename_i absent
      cases answered
      refine iff_of_true (fun ok => by cases ok) fun _ _ n m found => ?_
      rw [absent] at found
      cases found
    · rename_i n found
      split at answered
      · rename_i device m copied _
        cases answered
        obtain ⟨member, -, w, known⟩ := websocket_known sound.paired found
        obtain rfl := sound.device n member device copied
        unfold artikWebsocketWriteStream
        rw [known]
        dsimp only [Output.returns]
        rw [Option.some_inj]
        constructor
        · intro complete _ works n' m' found' message
          cases message
          rw [found] at found'
          cases found'
          obtain ⟨n', m', found', message, sent⟩ := complete (if_neg (not_not_intro works))
          cases message
          rw [found] at found'
          cases found'
          rw [Option.some_inj, Sent.stream.injEq] at sent
          exact (Text.held_eq_iff _).1 sent.2
        · intro fits ok
          have works : writes = .ok := by
            by_contra fails
            rw [if_pos fails] at ok
            cases ok
          exact ⟨n, m, found, rfl, by rw [(Text.held_eq_iff _).2 (fits rfl works n m found rfl)]⟩
      · cases answered

theorem connectionCallback_complete (sound : s.Sound) {userData : Nat} {result : ConnectionState} {websocket : ModuleAnswer}
    {writes : ArtikError} (answered : step (.connectionCallback userData result websocket writes) s = .ok (s', o)) :
    Complete ⟨s, .connectionCallback userData result websocket writes, s', o⟩ := by
  change websocketConnectionCallback userData result websocket writes s = _ at answered
  unfold websocketConnectionCallback at answered
  intro h text sent
  split at answered
  · cases answered
  · rename_i n found
    obtain ⟨member, same⟩ := mem_of_find (f := CloudNode.address) found
    split at answered
    · cases answered
      cases sent
    · cases answered
    · cases answered
      dsimp only at sent
      split at sent
      · unfold artikWebsocketWriteStream at sent
        split at sent
        · cases sent
        · cases sent
          exact ⟨n, member, same, sound.registered n member⟩
      · cases sent

/-- A call whose strings fit keeps the messages complete. -/
theorem step_sound (sound : s.Sound) {input : Input} (fits : FitsBuffers input s) (answered : step input s = .ok (s', o)) : s'.Sound := by
  have paired := step_paired sound.paired answered
  by_cases opens : ∃ accessToken deviceId sslConfig answers, input = .openStream accessToken deviceId sslConfig answers
  · obtain ⟨accessToken, deviceId, sslConfig, answers, rfl⟩ := opens
    obtain - | - | - | - | ⟨-, picked, -, -, -⟩ | ⟨module, picked, opens, node, ⟨device, token⟩, sets⟩ := openStream_opens answered
    · exact sound
    · exact sound
    · exact ⟨paired, sound.registered, sound.device⟩
    · exact ⟨paired, sound.registered, sound.device⟩
    · rw [unset_eq sound.paired picked]
      exact ⟨requested_paired sound.paired picked _ _, sound.registered, sound.device⟩
    · rename_i h a useSe given
      have works : answers.Works h s := .of_streams opens node sets
      refine ⟨paired, fun n member => ?_, fun n member copy copied => ?_⟩
      · obtain old | new := List.mem_append.1 member
        · exact sound.registered n old
        · rw [List.mem_singleton.1 new]
          exact (Text.held_eq_iff _).2 (fits module h picked works _ _ device token)
      · obtain old | new := List.mem_append.1 member
        · exact sound.device n old copy copied
        · rw [List.mem_singleton.1 new] at copied ⊢
          unfold cloudNode at copied
          dsimp only at copied
          split at copied
          · exact (Option.some.inj copied).symm
          · cases copied
  · by_cases closes : ∃ handle websocket closes, input = .closeStream handle websocket closes
    · obtain ⟨handle, websocket, closes, rfl⟩ := closes
      obtain - | ⟨-, -⟩ | ⟨-, found⟩ := closeStream_closes answered
      · exact sound
      · exact sound
      · rw [close_removes sound.paired found] at paired ⊢
        exact ⟨paired, fun n member => sound.registered n (List.mem_of_mem_eraseP member),
          fun n member => sound.device n (List.mem_of_mem_eraseP member)⟩
    · obtain ⟨quiet, -⟩ := step_quiet answered (fun _ _ _ _ same => opens ⟨_, _, _, _, same⟩)
        (fun _ _ _ same => closes ⟨_, _, _, same⟩)
      have old (n : CloudNode) (member : n ∈ s'.cloud) : ∃ m ∈ s.cloud, m.quiet = n.quiet :=
        List.mem_map.1 (quiet ▸ List.mem_map.2 ⟨n, member, rfl⟩)
      refine ⟨paired, fun n member => ?_, fun n member copy copied => ?_⟩
      · obtain ⟨m, present, same⟩ := old n member
        have registered := sound.registered m present
        change m.quiet.registrationMessage = (registration m.quiet.given).complete at registered
        rw [same] at registered
        exact registered
      · obtain ⟨m, present, same⟩ := old n member
        have device := sound.device m present
        change ∀ device ∈ m.quiet.deviceId, device = m.quiet.given.1 at device
        rw [same] at device
        exact device copy copied

/-- **Complete requests.** In every run: every operation sends the complete strings or returns an error, and
what registers a stream is complete, if and only if the strings of every operation whose steps work
fit their buffers. -/
theorem complete_iff {calls : List (Call Input State Output)} (run : Run step .init calls s') :
    (∀ c ∈ calls, Complete c) ↔ ∀ c ∈ calls, FitsBuffers c.input c.before := by
  refine Run.fits_iff (I := State.Sound) (fun input t t' o sound answered => ?_)
    (fun input t t' o sound fits answered => step_sound sound fits answered) run .init
  cases input with
  | rest call answers => exact rest_complete_iff answered
  | openStream accessToken deviceId sslConfig answers => exact openStream_complete_iff sound answered
  | websocketSendMessage handle message websocket writes => exact websocketSendMessage_complete_iff sound answered
  | connectionCallback userData result websocket writes => exact iff_of_true (connectionCallback_complete sound answered) trivial
  | _ => exact iff_of_true trivial trivial

/-! ## Lengths -/

/-- A token of up to 120 characters has room behind `Bearer`. -/
theorem bearer_fits_iff (token : List Char) : (∀ field ∈ bearer token, field.2.Fits) ↔ token.length ≤ 120 := by
  have printed : sprintf "Bearer %s".toList [.s token] = "Bearer ".toList ++ (token ++ []) := rfl
  have room : (Text.printed artikCloudTokenMax "Bearer %s".toList [.s token]).Fits ↔ token.length ≤ 120 := by
    change (sprintf "Bearer %s".toList [.s token]).length < 128 ↔ _
    rw [printed, List.length_append, List.append_nil]
    change 7 + token.length < 128 ↔ _
    omega
  unfold bearer
  rw [List.forall_mem_cons, List.forall_mem_singleton, room]
  exact and_iff_left trivial

/-- A body fits as long as its length is an `int`. -/
theorem heap_fits {format : List Char} {strings : List (List Char)}
    (short : format.length + (strings.map List.length).sum + 1 < 2 ^ 31) : ∀ text ∈ (Body.heap format strings).text, text.Fits := by
  have len : bodyLen format strings = format.length + (strings.map List.length).sum + 1 := by
    unfold bodyLen
    apply Int.bmod_eq_of_le <;> omega
  have printed := length_sprintf_le format (strings.map .s)
  rw [List.map_map] at printed
  change _ ≤ format.length + (strings.map List.length).sum at printed
  intro text there
  rw [Option.mem_def, Body.text] at there
  split_ifs at there
  rw [← Option.some_inj.1 there, Text.Fits]
  dsimp only
  refine lt_of_le_of_lt printed ?_
  clear printed there
  rw [len]
  omega

theorem complete_sent : ∃ calls s, Run step .init calls s ∧ calls.length = 3 ∧
    ((∀ c ∈ calls, Complete c) ↔ ∀ c ∈ calls, FitsBuffers c.input c.before) := by
  have computed : execTest step [.rest (.sendMessage (some ['t']) (some ['d']) (some ['1'])) ⟨.module, true, .ok, 200⟩,
      .openStream (some ['t']) (some ['d']) (some true) (.only .ok .ok), .websocketSendMessage 1 (some ['1']) .module .ok]
      .init (fun _ => true) = true := by
    decide
  obtain ⟨calls, s, run, inputs, -⟩ := execTest_run computed
  exact ⟨calls, s, run, by simpa using congrArg List.length inputs, complete_iff run⟩

/-- A token of 200 characters is cut, and the call succeeds. -/
theorem complete_not : ¬ ∀ calls s, Run step .init calls s → ∀ c ∈ calls, Complete c := by
  intro all
  have sent := all _ _ (.cons (e := .rest (.getCurrentUserProfile (some (List.replicate 200 'x'))) ⟨.module, true, .ok, 200⟩) rfl (.nil _))
    _ (List.mem_singleton_self _)
  have fits := (rest_complete_iff rfl).1 sent _ rfl ⟨fun body member => (by cases member), rfl, rfl⟩
  have short := (bearer_fits_iff _).1 fits.headers
  rw [List.length_replicate] at short
  omega

end ArtikSdk.Cloud
