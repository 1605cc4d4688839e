import ArtikSdk.Http.Webclient

/-!
# Responses in pieces

Each parser, given two pieces joined, does what it does given the first and then the second:
`line`, `ndx` and the state are all it takes from one `recv` to the next. So a response in any
pieces is the response in one.
-/

namespace ArtikSdk.Http
open Lib

variable {parsehttpurl : ParseUrl} {ws ws' : WgetS} {p q rest data : List Byte}

/-! ## The parsers on joined pieces -/

/-- The first byte of a status line that was parsed ends it, or is stored. -/
theorem parsestatus_cons {b : Byte} (parsed : wgetParsestatus (b :: p) ws = .ok (ws', rest)) :
    b = isoNl ∧ ws'.state = .headers ∧ rest = b :: p ∨
      b ≠ isoNl ∧ ∃ line, wgetParsestatus p { ws with line, ndx := ws.ndx + 1 } = .ok (ws', rest) := by
  rw [wgetParsestatus] at parsed
  by_cases outside : ws.ndx ≥ maxHttpLine
  · rw [if_pos outside] at parsed
    cases parsed
  rw [if_neg outside] at parsed
  dsimp only at parsed
  by_cases lineEnd : b = isoNl
  · rw [if_pos lineEnd] at parsed
    split at parsed
    · cases parsed
      exact .inl ⟨lineEnd, rfl, rfl⟩
    · cases parsed
  · rw [if_neg lineEnd] at parsed
    exact .inr ⟨lineEnd, _, parsed⟩

/-- The first byte of headers that were parsed ends them, or the parser goes on behind it, after a line end
with the next line. -/
theorem parseheaders_cons {b : Byte} (parsed : wgetParseheaders parsehttpurl (b :: p) ws = .ok (ws', rest)) :
    ws'.state = .data ∨
      ∃ ws₁, ws₁.state = ws.state ∧ (b = isoNl → ws₁.ndx = 0) ∧ wgetParseheaders parsehttpurl p ws₁ = .ok (ws', rest) := by
  rw [wgetParseheaders] at parsed
  by_cases outside : ws.ndx ≥ maxHttpLine
  · rw [if_pos outside] at parsed
    cases parsed
  rw [if_neg outside] at parsed
  dsimp only at parsed
  by_cases lineEnd : b = isoNl
  · rw [if_pos lineEnd] at parsed
    by_cases some : ws.ndx > 0
    · rw [if_pos some] at parsed
      split at parsed
      · cases parsed
        exact .inl rfl
      · refine .inr ⟨_, ?_, fun _ => ?_, parsed⟩
        · rfl
        · rfl
    · rw [if_neg some] at parsed
      refine .inr ⟨_, ?_, fun _ => ?_, parsed⟩
      · rfl
      · rfl
  · rw [if_neg lineEnd] at parsed
    refine .inr ⟨_, ?_, fun ends => absurd ends lineEnd, parsed⟩
    rfl

/-- The status parser stops before the line end, or has read everything. -/
theorem parsestatus_append (ws : WgetS) (p q : List Byte) :
    wgetParsestatus (p ++ q) ws =
      match wgetParsestatus p ws with
      | .error stop => .error stop
      | .ok (ws', rest) => if ws'.state = .headers ∧ rest ≠ [] then .ok (ws', rest ++ q) else wgetParsestatus q ws' := by
  induction p generalizing ws with
  | nil =>
    simp [wgetParsestatus]
  | cons b p ih =>
    rw [List.cons_append, wgetParsestatus, wgetParsestatus]
    by_cases outside : ws.ndx ≥ maxHttpLine
    · rw [if_pos outside, if_pos outside]
    · rw [if_neg outside, if_neg outside]
      dsimp only
      by_cases lineEnd : b = isoNl
      · rw [if_pos lineEnd, if_pos lineEnd]
        split
        · simp
        · rfl
      · rw [if_neg lineEnd, if_neg lineEnd]
        exact ih _

/-- Where the status line did not end, nothing but `line` and `ndx` changed. -/
theorem parsestatus_state (parsed : wgetParsestatus p ws = .ok (ws', rest)) :
    ws'.state = .headers ∧ rest ≠ [] ∨ ws'.state = ws.state ∧ rest = [] := by
  induction p generalizing ws with
  | nil =>
    cases parsed
    exact .inr ⟨rfl, rfl⟩
  | cons b p ih =>
    obtain ⟨-, next, rfl⟩ | ⟨-, line, further⟩ := parsestatus_cons parsed
    · exact .inl ⟨next, nofun⟩
    · have later := ih further
      exact later

/-- The header parser ends behind the empty line, or has read everything. -/
theorem parseheaders_append (ws : WgetS) (p q : List Byte) (here : ws.state = .headers) :
    wgetParseheaders parsehttpurl (p ++ q) ws =
      match wgetParseheaders parsehttpurl p ws with
      | .error stop => .error stop
      | .ok (ws', rest) => if ws'.state = .data then .ok (ws', rest ++ q) else wgetParseheaders parsehttpurl q ws' := by
  induction p generalizing ws with
  | nil => simp [wgetParseheaders, here]
  | cons b p ih =>
    rw [List.cons_append, wgetParseheaders, wgetParseheaders]
    by_cases outside : ws.ndx ≥ maxHttpLine
    · rw [if_pos outside, if_pos outside]
    · rw [if_neg outside, if_neg outside]
      dsimp only
      by_cases lineEnd : b = isoNl
      · rw [if_pos lineEnd, if_pos lineEnd]
        by_cases some : ws.ndx > 0
        · rw [if_pos some, if_pos some]
          split
          · simp
          · exact ih _ here
        · rw [if_neg some, if_neg some]
          exact ih _ here
      · rw [if_neg lineEnd, if_neg lineEnd]
        exact ih _ here

theorem parseheaders_state (here : ws.state = .headers) (parsed : wgetParseheaders parsehttpurl p ws = .ok (ws', rest)) :
    ws'.state = .data ∨ ws'.state = .headers ∧ rest = [] := by
  induction p generalizing ws with
  | nil =>
    cases parsed
    exact .inr ⟨here, rfl⟩
  | cons b p ih =>
    obtain ends | ⟨ws₁, same, -, further⟩ := parseheaders_cons parsed
    · exact .inl ends
    · exact ih (same.trans here) further

/-! ## A `recv` on joined pieces -/

/-- What a `recv` does once the status line is done. -/
theorem received_headers (here : ws.state = .headers) :
    received parsehttpurl p ws =
      match wgetParseheaders parsehttpurl p ws with
      | .error stop => .error stop
      | .ok (ws', rest) =>
        if ws'.state = .data then .ok (if ws'.httpstatus ≠ .moved then (ws', rest, false) else (ws', [], true))
        else .ok (ws', [], false) := by
  simp only [received, here, if_true, reduceCtorEq, if_false, bind, Except.bind]
  cases wgetParseheaders parsehttpurl p ws with
  | error stop => rfl
  | ok r =>
    dsimp only
    split
    · split <;> rfl
    · rfl

/-- What a `recv` does while the status line lasts. -/
theorem received_statusLine (here : ws.state = .statusLine) :
    received parsehttpurl p ws =
      match wgetParsestatus p ws with
      | .error stop => .error stop
      | .ok (ws', rest) => if ws'.state = .headers then received parsehttpurl rest ws' else .ok (ws', [], false) := by
  cases parsed : wgetParsestatus p ws with
  | error stop => simp [received, here, parsed, bind, Except.bind]
  | ok r =>
    obtain ⟨ws', rest⟩ := r
    dsimp only
    obtain ⟨next, -⟩ | ⟨same, -⟩ := parsestatus_state parsed
    · rw [if_pos next]
      simp only [received, here, if_true, parsed, bind, Except.bind, next, reduceCtorEq, if_false]
    · rw [if_neg (by rw [same, here]; decide)]
      simp [received, here, parsed, bind, Except.bind, pure, Except.pure, same]

theorem received_data (here : ws.state = .data) :
    received parsehttpurl p ws = .ok (if ws.httpstatus ≠ .moved then (ws, p, false) else (ws, [], true)) := by
  simp only [received, here, reduceCtorEq, if_false, if_true, bind, Except.bind]
  split <;> rfl

/-- What the second piece adds to what the first one did. -/
def andThen (r : Except Stop (WgetS × List Byte × Bool)) (next : WgetS → Except Stop (WgetS × List Byte × Bool)) :
    Except Stop (WgetS × List Byte × Bool) :=
  match r with
  | .error stop => .error stop
  | .ok (ws, data, true) => .ok (ws, data, true)
  | .ok (ws, data, false) =>
    match next ws with
    | .error stop => .error stop
    | .ok (ws', data', redirected) => .ok (ws', data ++ data', redirected)

theorem received_headers_append (here : ws.state = .headers) :
    received parsehttpurl (p ++ q) ws = andThen (received parsehttpurl p ws) (received parsehttpurl q) := by
  rw [received_headers here, received_headers here, parseheaders_append ws p q here]
  cases parsed : wgetParseheaders parsehttpurl p ws with
  | error stop => rfl
  | ok r =>
    obtain ⟨ws', rest⟩ := r
    dsimp only
    obtain done | ⟨more, rfl⟩ := parseheaders_state here parsed
    · rw [if_pos done, if_pos done]
      dsimp only
      rw [if_pos done]
      by_cases moved : ws'.httpstatus = .moved
      · simp [andThen, moved]
      · simp [andThen, moved, received_data done]
    · have unfinished : ¬ ws'.state = .data := by
        rw [more]
        decide
      rw [if_neg unfinished, if_neg unfinished]
      simp only [andThen, received_headers more]
      cases wgetParseheaders parsehttpurl q ws' with
      | error stop => rfl
      | ok r =>
        dsimp only
        split
        · split <;> rfl
        · rfl

/-- **A `recv` of two pieces joined** does what two `recv`s do. -/
theorem received_append (ws : WgetS) (p q : List Byte) :
    received parsehttpurl (p ++ q) ws = andThen (received parsehttpurl p ws) (received parsehttpurl q) := by
  cases here : ws.state with
  | statusLine =>
    rw [received_statusLine here, received_statusLine here, parsestatus_append]
    cases parsed : wgetParsestatus p ws with
    | error stop => rfl
    | ok r =>
      obtain ⟨ws', rest⟩ := r
      dsimp only
      obtain ⟨next, nonempty⟩ | ⟨same, rfl⟩ := parsestatus_state parsed
      · rw [if_pos ⟨next, nonempty⟩]
        dsimp only
        rw [if_pos next, if_pos next]
        exact received_headers_append next
      · have still : ws'.state = .statusLine := same.trans here
        rw [if_neg (fun both => both.2 rfl), if_neg (by rw [still]; decide)]
        simp only [andThen, received_statusLine still, List.nil_append]
        cases wgetParsestatus q ws' with
        | error stop => rfl
        | ok r =>
          dsimp only
          by_cases done : r.1.state = .headers
          · simp only [if_pos done]
            cases received parsehttpurl r.2 r.1 with
            | error stop => rfl
            | ok r => rfl
          · simp only [if_neg done]
  | headers => exact received_headers_append here
  | data =>
    rw [received_data here, received_data here]
    by_cases moved : ws.httpstatus = .moved
    · simp [andThen, moved]
    · simp [andThen, moved, received_data here]
  | close => simp [received, here, andThen, bind, Except.bind, pure, Except.pure]

theorem received_headers_result (here : ws.state = .headers)
    (parsed : received parsehttpurl p ws = .ok (ws', data, false)) :
    data = [] ∨ ws'.state = .data ∧ ws'.httpstatus ≠ .moved := by
  rw [received_headers here] at parsed
  cases second : wgetParseheaders parsehttpurl p ws with
  | error stop =>
    rw [second] at parsed
    cases parsed
  | ok r =>
    rw [second] at parsed
    dsimp only at parsed
    by_cases done : r.1.state = .data
    · rw [if_pos done] at parsed
      by_cases kept : r.1.httpstatus ≠ .moved
      · rw [if_pos kept] at parsed
        cases parsed
        exact .inr ⟨done, kept⟩
      · rw [if_neg kept] at parsed
        cases parsed
    · rw [if_neg done] at parsed
      cases parsed
      exact .inl rfl

/-- Only data is handed to the callback. -/
theorem received_result (parsed : received parsehttpurl p ws = .ok (ws', data, false)) :
    data = [] ∨ ws'.state = .data ∧ ws'.httpstatus ≠ .moved := by
  cases here : ws.state with
  | statusLine =>
    rw [received_statusLine here] at parsed
    cases first : wgetParsestatus p ws with
    | error stop =>
      rw [first] at parsed
      cases parsed
    | ok r =>
      rw [first] at parsed
      dsimp only at parsed
      by_cases done : r.1.state = .headers
      · rw [if_pos done] at parsed
        exact received_headers_result done parsed
      · rw [if_neg done] at parsed
        cases parsed
        exact .inl rfl
  | headers => exact received_headers_result here parsed
  | data =>
    rw [received_data here] at parsed
    by_cases kept : ws.httpstatus ≠ .moved
    · rw [if_pos kept] at parsed
      cases parsed
      exact .inr ⟨here, kept⟩
    · rw [if_neg kept] at parsed
      cases parsed
  | close =>
    simp only [received, here, reduceCtorEq, if_false, bind, Except.bind, pure, Except.pure] at parsed
    cases parsed
    exact .inl rfl

/-! ## A response -/

variable {closes : Bool}

/-- Two results of `recv` may be joined. -/
theorem receiveLoop_join (pieces : List (List Byte)) (ws : WgetS) (body : List Byte) :
    receiveLoop parsehttpurl closes (p :: q :: pieces) ws body = receiveLoop parsehttpurl closes ((p ++ q) :: pieces) ws body := by
  rw [receiveLoop, receiveLoop, received_append]
  cases first : received parsehttpurl p ws with
  | error stop => cases stop <;> rfl
  | ok r =>
    obtain ⟨ws', data, redirected⟩ := r
    cases redirected with
    | true => rfl
    | false =>
      simp only [andThen, receiveLoop, Bool.false_eq_true, if_false]
      obtain rfl | ⟨done, kept⟩ := received_result first
      · rw [List.append_nil]
        cases received parsehttpurl q ws' with
        | error stop => cases stop <;> rfl
        | ok r => rfl
      · rw [received_data done, if_pos kept]
        simp

/-- **A response in any pieces is the response in one.** -/
theorem receiveLoop_flatten (pieces : List (List Byte)) (p : List Byte) (ws : WgetS) (body : List Byte) :
    receiveLoop parsehttpurl closes (p :: pieces) ws body =
      receiveLoop parsehttpurl closes [(p :: pieces).flatten] ws body := by
  induction pieces generalizing p with
  | nil => simp
  | cons q pieces ih => rw [receiveLoop_join, ih, List.flatten_cons, List.flatten_cons, List.flatten_cons, List.append_assoc]

/-- A way of cutting a stream into results of `recv`. -/
structure Cut (buflen : Nat) (bytes : List Byte) where
  pieces : List (List Byte)
  nonempty : ∀ p ∈ pieces, p ≠ []
  fits : ∀ p ∈ pieces, p.length ≤ buflen
  joined : pieces.flatten = bytes

theorem receiveLoop_cut {buflen : Nat} {bytes : List Byte} (cut cut' : Cut buflen bytes) (ws : WgetS) (body : List Byte) :
    receiveLoop parsehttpurl closes cut.pieces ws body = receiveLoop parsehttpurl closes cut'.pieces ws body := by
  have empty (cut : Cut buflen bytes) (none : cut.pieces = []) : bytes = [] := by
    have joined := cut.joined
    rw [none] at joined
    exact joined.symm
  have some (cut : Cut buflen bytes) (p : List Byte) (pieces : List (List Byte)) (given : cut.pieces = p :: pieces) : bytes ≠ [] := by
    intro none
    have joined := cut.joined.trans none
    rw [given, List.flatten_cons, List.append_eq_nil_iff] at joined
    exact cut.nonempty p (by rw [given]; exact List.mem_cons_self ..) joined.1
  cases left : cut.pieces with
  | nil =>
    cases right : cut'.pieces with
    | nil => rfl
    | cons p pieces => exact absurd (empty cut left) (some cut' p pieces right)
  | cons p pieces =>
    cases right : cut'.pieces with
    | nil => exact absurd (empty cut' right) (some cut p pieces left)
    | cons p' pieces' =>
      rw [receiveLoop_flatten, receiveLoop_flatten (p := p')]
      have whole := cut.joined.trans cut'.joined.symm
      rw [left, right] at whole
      rw [whole]

/-! ## Short lines -/

/-- With `n` bytes of a line already read, every byte has its place in `line`. -/
def ShortLines : Nat → List Byte → Prop
  | _, [] => True
  | n, b :: s => n < maxHttpLine ∧ ShortLines (if b = isoNl then 0 else n + 1) s

/-- The lines up to the empty one are short; what follows it is not read into `line`. -/
def ShortHeaders (bytes : List Byte) : Prop :=
  ∃ head body, bytes = head ++ body ∧ ShortLines 0 head ∧ (body = [] ∨ ∃ lines, head = lines ++ [isoNl] ++ [isoCr, isoNl])

/-- The status line is written inside `line`, and what it leaves is as short. -/
theorem parsestatus_short (short : ShortLines ws.ndx p) :
    wgetParsestatus p ws ≠ .error .undefined ∧
      ∀ ws' rest, wgetParsestatus p ws = .ok (ws', rest) → ShortLines ws'.ndx rest := by
  induction p generalizing ws with
  | nil =>
    refine ⟨nofun, fun ws' rest parsed => ?_⟩
    cases parsed
    trivial
  | cons b p ih =>
    rw [wgetParsestatus, if_neg (Nat.not_le.2 short.1)]
    dsimp only
    by_cases lineEnd : b = isoNl
    · rw [if_pos lineEnd]
      split
      · refine ⟨nofun, fun ws' rest parsed => ?_⟩
        cases parsed
        exact short
      · exact ⟨nofun, nofun⟩
    · rw [if_neg lineEnd]
      have later := short.2
      rw [if_neg lineEnd] at later
      exact ih later

theorem parseheaders_short (short : ShortLines ws.ndx p) : wgetParseheaders parsehttpurl p ws ≠ .error .undefined := by
  induction p generalizing ws with
  | nil => exact nofun
  | cons b p ih =>
    rw [wgetParseheaders, if_neg (Nat.not_le.2 short.1)]
    have later := short.2
    dsimp only
    by_cases lineEnd : b = isoNl
    · rw [if_pos lineEnd] at later
      rw [if_pos lineEnd]
      by_cases some : ws.ndx > 0
      · rw [if_pos some]
        split
        · exact nofun
        · exact ih later
      · rw [if_neg some]
        exact ih later
    · rw [if_neg lineEnd] at later
      rw [if_neg lineEnd]
      exact ih later

theorem received_short (short : ShortLines ws.ndx p) : received parsehttpurl p ws ≠ .error .undefined := by
  have headers {ws : WgetS} {p : List Byte} (here : ws.state = .headers) (short : ShortLines ws.ndx p) :
      received parsehttpurl p ws ≠ .error .undefined := by
    have defined : wgetParseheaders parsehttpurl p ws ≠ .error .undefined := parseheaders_short short
    rw [received_headers here]
    cases second : wgetParseheaders parsehttpurl p ws with
    | error stop =>
      rw [second] at defined
      simpa using defined
    | ok r =>
      dsimp only
      split <;> exact nofun
  cases here : ws.state with
  | statusLine =>
    obtain ⟨defined, left⟩ := parsestatus_short short
    rw [received_statusLine here]
    cases first : wgetParsestatus p ws with
    | error stop =>
      rw [first] at defined
      simpa using defined
    | ok r =>
      dsimp only
      split
      · rename_i next
        exact headers next (left r.1 r.2 first)
      · exact nofun
  | headers => exact headers here short
  | data =>
    rw [received_data here]
    exact nofun
  | close =>
    simp only [received, here, reduceCtorEq, if_false, bind, Except.bind, pure, Except.pure]
    exact nofun

/-- At the end of a line the next one is about to begin. -/
theorem parseheaders_lineEnd {lines : List Byte} (here : ws.state = .headers)
    (parsed : wgetParseheaders parsehttpurl (lines ++ [isoNl]) ws = .ok (ws', rest)) :
    ws'.state = .data ∨ ws'.state = .headers ∧ ws'.ndx = 0 := by
  induction lines generalizing ws with
  | nil =>
    obtain ends | ⟨ws₁, same, begins, further⟩ := parseheaders_cons parsed
    · exact .inl ends
    · cases further
      exact .inr ⟨same.trans here, begins rfl⟩
  | cons b lines ih =>
    obtain ends | ⟨ws₁, same, -, further⟩ := parseheaders_cons parsed
    · exact .inl ends
    · exact ih (same.trans here) further

/-- The first line end ends the status line. -/
theorem parsestatus_lineEnd {lines : List Byte} (parsed : wgetParsestatus (lines ++ [isoNl]) ws = .ok (ws', rest)) :
    ws'.state = .headers ∧ ∃ lines', rest = lines' ++ [isoNl] := by
  induction lines generalizing ws with
  | nil =>
    obtain ⟨-, next, rest'⟩ | ⟨text, -⟩ := parsestatus_cons parsed
    · exact ⟨next, [], rest'⟩
    · exact absurd rfl text
  | cons b lines ih =>
    obtain ⟨-, next, rest'⟩ | ⟨-, line, further⟩ := parsestatus_cons parsed
    · exact ⟨next, b :: lines, rest'⟩
    · exact ih further

theorem received_lineEnd {lines : List Byte} (here : ws.state = .statusLine)
    (parsed : received parsehttpurl (lines ++ [isoNl]) ws = .ok (ws', data, false)) :
    ws'.state = .data ∨ ws'.state = .headers ∧ ws'.ndx = 0 := by
  rw [received_statusLine here] at parsed
  cases first : wgetParsestatus (lines ++ [isoNl]) ws with
  | error stop =>
    rw [first] at parsed
    cases parsed
  | ok r =>
    obtain ⟨ws₁, rest⟩ := r
    obtain ⟨next, lines', rfl⟩ := parsestatus_lineEnd first
    rw [first] at parsed
    dsimp only at parsed
    rw [if_pos next, received_headers next] at parsed
    cases second : wgetParseheaders parsehttpurl (lines' ++ [isoNl]) ws₁ with
    | error stop =>
      rw [second] at parsed
      cases parsed
    | ok r' =>
      have ends := parseheaders_lineEnd next second
      rw [second] at parsed
      dsimp only at parsed
      by_cases done : r'.1.state = .data
      · rw [if_pos done] at parsed
        split at parsed
        · cases parsed
          exact ends
        · cases parsed
      · rw [if_neg done] at parsed
        cases parsed
        exact ends

/-- Behind the empty line there is nothing but data. -/
theorem received_emptyLine {lines : List Byte} (here : ws.state = .statusLine)
    (parsed : received parsehttpurl (lines ++ [isoNl] ++ [isoCr, isoNl]) ws = .ok (ws', data, false)) : ws'.state = .data := by
  have empty {ws ws' : WgetS} {data : List Byte} (next : ws.state = .headers) (begins : ws.ndx = 0)
      (parsed : received parsehttpurl [isoCr, isoNl] ws = .ok (ws', data, false)) : ws'.state = .data := by
    rw [received_headers next] at parsed
    have ends : wgetParseheaders parsehttpurl [isoCr, isoNl] ws =
        .ok ({ ws with line := setLine (setLine ws.line 0 isoCr) 1 isoNl, ndx := 1, state := .data }, []) := by
      simp [wgetParseheaders, begins, setLine, isoCr, isoNl, maxHttpLine]
    rw [ends] at parsed
    dsimp only at parsed
    rw [if_pos rfl] at parsed
    split at parsed
    · cases parsed
      rfl
    · cases parsed
  rw [received_append] at parsed
  cases first : received parsehttpurl (lines ++ [isoNl]) ws with
  | error stop =>
    rw [first] at parsed
    cases parsed
  | ok r =>
    obtain ⟨ws₁, data₁, redirected⟩ := r
    rw [first] at parsed
    cases redirected with
    | true => cases parsed
    | false =>
      simp only [andThen] at parsed
      obtain done | ⟨next, begins⟩ := received_lineEnd here first
      · rw [received_data done] at parsed
        by_cases kept : ws₁.httpstatus ≠ .moved
        · rw [if_pos kept] at parsed
          cases parsed
          exact done
        · rw [if_neg kept] at parsed
          cases parsed
      · cases second : received parsehttpurl [isoCr, isoNl] ws₁ with
        | error stop =>
          rw [second] at parsed
          cases parsed
        | ok r' =>
          obtain ⟨ws₂, data₂, redirected⟩ := r'
          rw [second] at parsed
          cases parsed
          exact empty next begins second

/-- A response with short headers is parsed inside `line`. -/
theorem received_defined {bytes : List Byte} (short : ShortHeaders bytes) (here : ws.state = .statusLine) (begins : ws.ndx = 0) :
    received parsehttpurl bytes ws ≠ .error .undefined := by
  obtain ⟨head, body, rfl, lines, ends⟩ := short
  have defined : received parsehttpurl head ws ≠ .error .undefined := received_short (by rw [begins]; exact lines)
  rw [received_append]
  cases first : received parsehttpurl head ws with
  | error stop =>
    rw [first] at defined
    simpa [andThen] using defined
  | ok r =>
    obtain ⟨ws', data, redirected⟩ := r
    cases redirected with
    | true => exact nofun
    | false =>
      simp only [andThen]
      obtain rfl | ⟨lines, rfl⟩ := ends
      · have rest : received parsehttpurl [] ws' ≠ .error .undefined := received_short trivial
        cases second : received parsehttpurl [] ws' with
        | error stop =>
          rw [second] at rest
          simpa using rest
        | ok r => exact nofun
      · rw [received_data (received_emptyLine here first)]
        by_cases kept : ws'.httpstatus ≠ .moved
        · rw [if_pos kept]
          exact nofun
        · rw [if_neg kept]
          exact nofun

/-! ## A download -/

/-- What a server does at a location: whether the connection is set up and the request
taken, the bytes of its response, and whether it closes the connection after them. -/
structure Server where
  connects : Bool
  sends : Bool
  bytes : List Byte
  closes : Bool

/-- The servers met, their responses cut into results of `recv`. -/
def peers {buflen : Nat} (servers : Nat → Location → Server) (cut : ∀ n l, Cut buflen (servers n l).bytes) :
    Nat → Location → Peer :=
  fun n l => ⟨(servers n l).connects, (servers n l).sends, (cut n l).pieces, (servers n l).closes⟩

/-- The ways of a connection. -/
theorem connection_eq {buflen : Nat} (servers : Nat → Location → Server) (cut : ∀ n l, Cut buflen (servers n l).bytes)
    (n : Nat) (s : Loop) :
    connection parsehttpurl (peers servers cut n) s =
      if (servers n s.ws.location).connects = true ∧ (servers n s.ws.location).sends = true then
        receiveLoop parsehttpurl (servers n s.ws.location).closes (cut n s.ws.location).pieces
          { s.ws with httpstatus := .none, ndx := 0, state := .statusLine } s.body
      else .inr (.ended .error s.body .none s.ws.location) := by
  unfold connection
  dsimp only
  by_cases connects : (servers n s.ws.location).connects = true
  · rw [if_neg (by simpa [peers] using connects)]
    by_cases sends : (servers n s.ws.location).sends = true
    · rw [if_neg (by simpa [peers] using sends), if_pos ⟨connects, sends⟩]
      rfl
    · rw [if_pos (by simpa [peers] using sends), if_neg fun both => sends both.2]
  · rw [if_pos (by simpa [peers] using connects), if_neg fun both => connects both.1]

theorem connection_cut {buflen : Nat} (servers : Nat → Location → Server) (cut cut' : ∀ n l, Cut buflen (servers n l).bytes)
    (n : Nat) (s : Loop) :
    connection parsehttpurl (peers servers cut n) s = connection parsehttpurl (peers servers cut' n) s := by
  rw [connection_eq, connection_eq, receiveLoop_cut (cut n s.ws.location) (cut' n s.ws.location)]

/-- A connection to a server with short headers is defined. -/
theorem connection_defined {buflen : Nat} {servers : Nat → Location → Server} (cut : ∀ n l, Cut buflen (servers n l).bytes)
    (short : ∀ n l, ShortHeaders (servers n l).bytes) (n : Nat) (s : Loop) :
    connection parsehttpurl (peers servers cut n) s ≠ .inr .undefined := by
  rw [connection_eq]
  split
  · have joined := (cut n s.ws.location).joined
    cases given : (cut n s.ws.location).pieces with
    | nil => exact nofun
    | cons p pieces =>
      rw [given] at joined
      rw [receiveLoop_flatten, joined, receiveLoop]
      have defined : received parsehttpurl (servers n s.ws.location).bytes
          { s.ws with httpstatus := .none, ndx := 0, state := .statusLine } ≠ .error .undefined :=
        received_defined (short n s.ws.location) rfl rfl
      cases whole : received parsehttpurl (servers n s.ws.location).bytes
          { s.ws with httpstatus := .none, ndx := 0, state := .statusLine } with
      | error stop =>
        cases stop with
        | undefined => exact absurd whole defined
        | aborted httpstatus location => exact nofun
      | ok r =>
        dsimp only
        split <;> exact nofun
  · exact nofun

/-- **The download does not depend on the cuts**: after every number of connections the state,
with status and location, and the bytes delivered are the same; and where the status and
header lines are short, none of it is undefined. -/
theorem wgetBase_cut {buflen : Nat} (parsehttpurl : ParseUrl) (url : List Byte) (servers : Nat → Location → Server)
    (cut cut' : ∀ n l, Cut buflen (servers n l).bytes) (n : Nat) :
    wgetBase parsehttpurl url (peers servers cut) n = wgetBase parsehttpurl url (peers servers cut') n ∧
      ((∀ n l, ShortHeaders (servers n l).bytes) → wgetBase parsehttpurl url (peers servers cut) n ≠ .inr .undefined) := by
  constructor
  · unfold wgetBase
    dsimp only
    split
    · rfl
    · exact after_congr (fun n s => connection_cut servers cut cut' n s) _ n
  · intro short
    unfold wgetBase
    dsimp only
    split
    · exact nofun
    · intro undefined
      obtain ⟨m, s, -, last⟩ := Returns.last ⟨n, undefined⟩
      exact connection_defined cut short m s last

end ArtikSdk.Http
