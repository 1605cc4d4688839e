import ArtikSdk.Http.Lines

/-!
# The line buffer

Neither parser compares `ndx` with the size of `line`. Its writes stay inside as long as every line
that is parsed has room with its line end: the status line, and behind one that is taken the header lines
up to the one that ends the headers.
-/

namespace ArtikSdk.Http
open Lib

/-- The header lines that are parsed fit into `line`, `last` being behind their last line end. -/
def HeadersFit (last : List Byte) : List (List Byte) → Prop
  | [] => last.length ≤ maxHttpLine
  | l :: lines => l.length < maxHttpLine ∧ (endsHeaders l = false → HeadersFit last lines)

/-- The lines that are parsed fit into `line`. -/
def LinesFit (bytes : List Byte) : Prop :=
  match cutLines bytes with
  | ([], last) => last.length ≤ maxHttpLine
  | (status :: lines, last) => status.length < maxHttpLine ∧ (isHttp status = true → HeadersFit last lines)

/-- However the bytes of a server come in, and whatever was received before, no connection writes behind `line`. -/
def InBounds (bytes : List Byte) : Prop :=
  ∀ (parsehttpurl : ParseUrl) (peer : Peer) (s : Loop), peer.pieces.flatten = bytes →
    connection parsehttpurl (fun _ => peer) s ≠ .inr .undefined

variable {parsehttpurl : ParseUrl} {ws : WgetS} {bytes : List Byte}

theorem outcomeOfHeaders_overlong_iff (last : List Byte) (lines : List (List Byte)) :
    outcomeOfHeaders last lines = .overlong ↔ ¬ HeadersFit last lines := by
  induction lines with
  | nil =>
    rw [outcomeOfHeaders, HeadersFit]
    split
    · rename_i fits
      exact iff_of_false (by decide) (not_not.2 fits)
    · rename_i long
      exact iff_of_true rfl long
  | cons l lines ih =>
    rw [outcomeOfHeaders, HeadersFit]
    by_cases long : maxHttpLine ≤ l.length
    · rw [if_pos long]
      exact iff_of_true rfl fun fits => absurd fits.1 (by omega)
    · rw [if_neg long]
      cases ends : endsHeaders l with
      | true =>
        rw [if_pos rfl]
        exact iff_of_false (by decide) (not_not.2 ⟨by omega, fun other => by cases other⟩)
      | false =>
        rw [if_neg (by decide), ih]
        exact not_congr ⟨fun fits => ⟨by omega, fun _ => fits⟩, fun fits => fits.2 rfl⟩

theorem outcome_overlong_iff (bytes : List Byte) : outcome bytes = .overlong ↔ ¬ LinesFit bytes := by
  rw [outcome, LinesFit]
  obtain ⟨lines, last⟩ := cutLines bytes
  cases lines with
  | nil =>
    dsimp only
    split
    · rename_i fits
      exact iff_of_false (by decide) (not_not.2 fits)
    · rename_i long
      exact iff_of_true rfl long
  | cons status lines =>
    dsimp only
    by_cases long : maxHttpLine ≤ status.length
    · rw [if_pos long]
      exact iff_of_true rfl fun fits => absurd fits.1 (by omega)
    · rw [if_neg long]
      cases http : isHttp status with
      | true =>
        rw [if_pos rfl, outcomeOfHeaders_overlong_iff]
        exact not_congr ⟨fun fits => ⟨by omega, fun _ => fits⟩, fun fits => fits.2 rfl⟩
      | false =>
        rw [if_neg (by decide)]
        exact iff_of_false (by decide) (not_not.2 ⟨by omega, fun other => by cases other⟩)

theorem received_undefined_iff (here : ws.state = .statusLine) (begins : ws.ndx = 0) :
    received parsehttpurl bytes ws = .error .undefined ↔ outcome bytes = .overlong := by
  have shows' := @received_shows parsehttpurl ws here begins bytes
  cases result : outcome bytes with
  | overlong =>
    rw [result] at shows'
    exact iff_of_true shows' rfl
  | refused =>
    rw [result] at shows'
    rw [shows']
    exact iff_of_false nofun (by decide)
  | unfinished =>
    rw [result] at shows'
    obtain ⟨ws', is, -⟩ := shows'
    rw [is]
    exact iff_of_false nofun (by decide)
  | headersEnd =>
    rw [result] at shows'
    obtain ⟨ws', data, is, -⟩ := shows'
    rw [is]
    exact iff_of_false nofun (by decide)

/-- The results of `recv`, joined. -/
theorem receiveLoop_joined {closes : Bool} (pieces : List (List Byte)) (body : List Byte) (here : ws.state = .statusLine) :
    receiveLoop parsehttpurl closes pieces ws body = receiveLoop parsehttpurl closes [pieces.flatten] ws body := by
  cases pieces with
  | cons p pieces => exact receiveLoop_flatten pieces p ws body
  | nil =>
    have nothing : received parsehttpurl [] ws = .ok (ws, [], false) := by
      rw [received_statusLine here, wgetParsestatus]
      dsimp only
      rw [if_neg (by rw [here]; decide)]
    simp only [List.flatten_nil, receiveLoop, nothing, Bool.false_eq_true, if_false, List.append_nil]

/-- A connection that is set up. -/
theorem connection_undefined_iff {peer : Peer} {s : Loop} (connects : peer.connects = true) (sends : peer.sends = true) :
    connection parsehttpurl (fun _ => peer) s = .inr .undefined ↔ outcome peer.pieces.flatten = .overlong := by
  have undefined := @received_undefined_iff parsehttpurl { s.ws with httpstatus := .none, ndx := 0, state := .statusLine }
    peer.pieces.flatten rfl rfl
  unfold connection
  dsimp only
  rw [if_neg (by rw [connects]; decide), if_neg (by rw [sends]; decide), receiveLoop_joined _ _ rfl, receiveLoop, ← undefined]
  cases received parsehttpurl peer.pieces.flatten { s.ws with httpstatus := .none, ndx := 0, state := .statusLine } with
  | error stop =>
    cases stop with
    | undefined => exact iff_of_true rfl rfl
    | aborted httpstatus location => exact iff_of_false (fun same => by cases same) fun same => by cases same
  | ok r =>
    refine iff_of_false ?_ fun same => by cases same
    dsimp only
    split
    · intro same
      cases same
    · intro same
      cases same

/-- A connection that is not set up parses nothing. -/
theorem connection_undefined_sets {peer : Peer} {s : Loop} (undefined : connection parsehttpurl (fun _ => peer) s = .inr .undefined) :
    peer.connects = true ∧ peer.sends = true := by
  unfold connection at undefined
  dsimp only at undefined
  split at undefined
  · cases undefined
  · rename_i connects
    split at undefined
    · cases undefined
    · rename_i sends
      exact ⟨Bool.eq_true_of_not_eq_false connects, Bool.eq_true_of_not_eq_false sends⟩

/-- **The line buffer** is written inside exactly when the lines that are parsed fit into it. -/
theorem inBounds_iff (bytes : List Byte) : InBounds bytes ↔ LinesFit bytes := by
  constructor
  · intro inBounds
    by_contra long
    have s : Loop := ⟨⟨.statusLine, .none, ⟨80, [], []⟩, Mem.ofList [], 0⟩, []⟩
    have undefined := (@connection_undefined_iff (fun _ l => (0, l)) ⟨true, true, [bytes], true⟩ s rfl rfl).2
      (by rw [List.flatten_singleton]; exact (outcome_overlong_iff bytes).2 long)
    exact inBounds _ _ s (List.flatten_singleton ..) undefined
  · rintro fits parsehttpurl peer s rfl undefined
    obtain ⟨connects, sends⟩ := connection_undefined_sets undefined
    exact (outcome_overlong_iff _).1 ((connection_undefined_iff connects sends).1 undefined) fits

/-- A status line of 601 bytes is written behind `line`. -/
theorem longStatus_outside : ¬ InBounds (List.replicate 601 0x41) := by
  intro inBounds
  have text : isoNl ∉ List.replicate 601 (0x41 : Byte) := fun member => absurd (List.eq_of_mem_replicate member) (by decide)
  have long : outcome (List.replicate 601 0x41) = .overlong := by
    rw [outcome, cutLines_text text]
    dsimp only
    rw [List.length_replicate, if_neg (by decide)]
  refine inBounds (fun _ l => (0, l)) ⟨true, true, [List.replicate 601 0x41], true⟩ ⟨⟨.statusLine, .none, ⟨80, [], []⟩, Mem.ofList [], 0⟩, []⟩
    (List.flatten_singleton ..) ?_
  refine (connection_undefined_iff rfl rfl).2 ?_
  rw [List.flatten_singleton]
  exact long

end ArtikSdk.Http
