import ArtikSdk.Http.LineBuffer

/-!
# Success and the header

The loop around `recv` ends with OK where `recv` returns 0, in whatever state the parser is then. So
`wget_base` returns OK on a connection that the server closes before the empty line, unless the bytes
that came first have ended the loop in another way.
-/

namespace ArtikSdk.Http
open Lib

/-- The bytes have a whole status line, and behind it the empty line. -/
def HeaderComplete (bytes : List Byte) : Prop := [isoCr] ∈ (cutLines bytes).1.tail

/-- Their status line is not of HTTP/1.0 or HTTP/1.1. -/
def Refused (bytes : List Byte) : Prop := ∃ status, (cutLines bytes).1.head? = some status ∧ isHttp status = false

/-- They end the headers of a redirect. -/
def Redirects (line : Mem) (bytes : List Byte) : Prop := moved line bytes = true ∧ ∃ l ∈ (cutLines bytes).1.tail, endsHeaders l = true

/-- `wget_base` returns OK only from a connection that has brought a complete header. -/
def SuccessComplete (parsehttpurl : ParseUrl) (url : List Byte) (peers : Nat → Location → Peer) : Prop :=
  ∀ n body httpstatus location, wgetBase parsehttpurl url peers n = .inr (.ended .ok body httpstatus location) →
    ∃ m s, wgetBase parsehttpurl url peers m = .inl s ∧
      wgetBase parsehttpurl url peers (m + 1) = .inr (.ended .ok body httpstatus location) ∧
      HeaderComplete (peers m s.ws.location).pieces.flatten

/-- A connection is set up, and the server closes it. -/
def Peer.ServesAndCloses (peer : Peer) : Prop := peer.connects = true ∧ peer.sends = true ∧ peer.closes = true

variable {parsehttpurl : ParseUrl} {url bytes : List Byte} {peers : Nat → Location → Peer}

/-! ## Outcomes -/

theorem outcomeOfHeaders_taken (last : List Byte) (lines : List (List Byte)) : outcomeOfHeaders last lines ≠ .refused := by
  induction lines with
  | nil =>
    rw [outcomeOfHeaders]
    split
    · decide
    · decide
  | cons l lines ih =>
    rw [outcomeOfHeaders]
    split
    · decide
    · split
      · decide
      · exact ih

theorem outcomeOfHeaders_headersEnd_iff {last : List Byte} {lines : List (List Byte)} (fits : HeadersFit last lines) :
    outcomeOfHeaders last lines = .headersEnd ↔ ∃ l ∈ lines, endsHeaders l = true := by
  induction lines with
  | nil =>
    have short : last.length ≤ maxHttpLine := fits
    rw [outcomeOfHeaders, if_pos short]
    exact iff_of_false (by decide) (by simp)
  | cons l lines ih =>
    obtain ⟨short, further⟩ := fits
    rw [outcomeOfHeaders, if_neg (by omega)]
    cases ends : endsHeaders l with
    | true =>
      rw [if_pos rfl]
      exact iff_of_true rfl ⟨l, List.mem_cons_self .., ends⟩
    | false =>
      rw [if_neg (by decide), ih (further ends)]
      simp [ends]

theorem outcome_refused_iff (fits : LinesFit bytes) : outcome bytes = .refused ↔ Refused bytes := by
  revert fits
  rw [LinesFit, outcome, Refused]
  obtain ⟨lines, last⟩ := cutLines bytes
  cases lines with
  | nil =>
    intro fits
    dsimp only at fits ⊢
    rw [if_pos fits]
    exact iff_of_false (by decide) (by simp)
  | cons status lines =>
    intro fits
    dsimp only at fits ⊢
    rw [if_neg (by omega)]
    cases http : isHttp status with
    | true =>
      rw [if_pos rfl]
      exact iff_of_false (outcomeOfHeaders_taken last lines) (by simp [http])
    | false =>
      rw [if_neg (by decide)]
      exact iff_of_true rfl ⟨status, rfl, http⟩

theorem outcome_headersEnd_iff (fits : LinesFit bytes) (taken : ¬ Refused bytes) :
    outcome bytes = .headersEnd ↔ ∃ l ∈ (cutLines bytes).1.tail, endsHeaders l = true := by
  revert fits taken
  rw [LinesFit, outcome, Refused]
  obtain ⟨lines, last⟩ := cutLines bytes
  cases lines with
  | nil =>
    intro fits taken
    dsimp only at fits ⊢
    rw [if_pos fits]
    exact iff_of_false (by decide) (by simp)
  | cons status lines =>
    intro fits taken
    dsimp only at fits ⊢
    have http : isHttp status = true := by
      by_contra other
      exact taken ⟨status, rfl, Bool.eq_false_of_not_eq_true other⟩
    rw [if_neg (by omega), if_pos http]
    exact outcomeOfHeaders_headersEnd_iff (fits.2 http)

/-! ## Connections -/

/-- A connection ends `wget_base` with OK where the server closes it and no byte has ended the loop before. -/
theorem connection_ok_iff (peer : Peer) (s : Loop) :
    (∃ body httpstatus location, connection parsehttpurl (fun _ => peer) s = .inr (.ended .ok body httpstatus location)) ↔
      peer.ServesAndCloses ∧ LinesFit peer.pieces.flatten ∧ ¬ Refused peer.pieces.flatten ∧
        ¬ Redirects s.ws.line peer.pieces.flatten := by
  unfold connection Peer.ServesAndCloses
  dsimp only
  by_cases connects : peer.connects = false
  · rw [if_pos connects]
    exact iff_of_false (by simp) (by simp [connects])
  by_cases sends : peer.sends = false
  · rw [if_neg connects, if_pos sends]
    exact iff_of_false (by simp) (by simp [sends])
  rw [if_neg connects, if_neg sends, receiveLoop_joined _ _ rfl]
  have shows' := @received_shows parsehttpurl { s.ws with httpstatus := .none, ndx := 0, state := .statusLine } rfl rfl
    peer.pieces.flatten
  rw [receiveLoop]
  by_cases fits : LinesFit peer.pieces.flatten
  · cases result : outcome peer.pieces.flatten with
    | overlong => exact absurd fits ((outcome_overlong_iff _).1 result)
    | refused =>
      have refused := (outcome_refused_iff fits).1 result
      rw [result] at shows'
      rw [shows']
      exact iff_of_false (by simp) fun goesOn => goesOn.2.2.1 refused
    | unfinished =>
      have taken : ¬ Refused peer.pieces.flatten := by
        rw [← outcome_refused_iff fits, result]
        decide
      have further : ¬ Redirects s.ws.line peer.pieces.flatten := by
        intro redirect
        rw [(outcome_headersEnd_iff fits taken).2 redirect.2] at result
        cases result
      rw [result] at shows'
      obtain ⟨ws', parsed, -⟩ := shows'
      rw [parsed]
      simp [receiveLoop, connects, sends, fits, taken, further]
    | headersEnd =>
      have taken : ¬ Refused peer.pieces.flatten := by
        rw [← outcome_refused_iff fits, result]
        decide
      have ends := (outcome_headersEnd_iff fits taken).1 result
      rw [result] at shows'
      obtain ⟨ws', data, parsed, -⟩ := shows'
      rw [parsed]
      by_cases redirect : moved s.ws.line peer.pieces.flatten = true
      · simp [redirect, Redirects, ends]
      · simp [receiveLoop, redirect, Redirects, connects, sends, fits, taken]
  · rw [(outcome_overlong_iff _).2 fits] at shows'
    rw [shows']
    exact iff_of_false (by simp) (by simp [fits])

/-! ## Runs -/

/-- `wget_base` fails at once, or it has one connection after the other. -/
theorem wgetBase_runs (parsehttpurl : ParseUrl) (url : List Byte) (peers : Nat → Location → Peer) :
    (∃ location, ∀ n, wgetBase parsehttpurl url peers n = .inr (.ended .error [] .none location)) ∨
      ∃ s, ∀ n, wgetBase parsehttpurl url peers n = after (connection parsehttpurl) peers s n := by
  by_cases malformed : (parsehttpurl url ⟨80, [], []⟩).1 ≠ 0
  · refine .inl ⟨(parsehttpurl url ⟨80, [], []⟩).2, fun n => ?_⟩
    rw [wgetBase]
    exact if_pos malformed
  · refine .inr ⟨⟨⟨.statusLine, .none, (parsehttpurl url ⟨80, [], []⟩).2, Mem.ofList [], 0⟩, []⟩, fun n => ?_⟩
    rw [wgetBase]
    exact if_neg malformed

/-- **Success means a complete header** exactly when every connection that is reached and then closed by its server
has brought one, or bytes that do not fit into `line`, or a status line that is refused, or a redirect. -/
theorem success_iff (parsehttpurl : ParseUrl) (url : List Byte) (peers : Nat → Location → Peer) :
    SuccessComplete parsehttpurl url peers ↔
      ∀ n s, wgetBase parsehttpurl url peers n = .inl s → (peers n s.ws.location).ServesAndCloses →
        HeaderComplete (peers n s.ws.location).pieces.flatten ∨ ¬ LinesFit (peers n s.ws.location).pieces.flatten ∨
          Refused (peers n s.ws.location).pieces.flatten ∨ Redirects s.ws.line (peers n s.ws.location).pieces.flatten := by
  rw [SuccessComplete]
  obtain ⟨location, failed⟩ | ⟨start, runs⟩ := wgetBase_runs parsehttpurl url peers
  · simp [failed]
  simp only [runs]
  constructor
  · intro complete n s here closes
    by_contra other
    simp only [not_or, not_not] at other
    obtain ⟨partly, fits, taken, further⟩ := other
    obtain ⟨body, httpstatus, location, ends⟩ := (connection_ok_iff (peers n s.ws.location) s).2 ⟨closes, fits, taken, further⟩
    have last : Last (connection parsehttpurl) peers start n s (.ended .ok body httpstatus location) := ⟨here, ends⟩
    have returned : after (connection parsehttpurl) peers start (n + 1) = .inr (.ended .ok body httpstatus location) := by
      rw [after_succ here]
      exact ends
    obtain ⟨m, t, here', returned', whole⟩ := complete (n + 1) body httpstatus location returned
    rw [after_succ here'] at returned'
    obtain ⟨rfl, rfl⟩ := last.unique ⟨here', returned'⟩
    exact partly whole
  · intro condition n body httpstatus location returned
    obtain ⟨m, s, here, ends⟩ := Returns.last ⟨n, returned⟩
    refine ⟨m, s, here, by rw [after_succ here, ends], ?_⟩
    obtain ⟨closes, fits, taken, further⟩ := (connection_ok_iff (peers m s.ws.location) s).1 ⟨body, httpstatus, location, ends⟩
    obtain whole | long | refused | redirect := condition m s here closes
    · exact whole
    · exact absurd fits long
    · exact absurd refused taken
    · exact absurd redirect further

/-- A server that closes the connection inside the first header line. -/
def cutShort : Peer := ⟨true, true, [ascii "HTTP/1.0 200 OK\r\nContent-"], true⟩

/-- OK is returned for a header that is cut off. -/
theorem cutShort_succeeds :
    ¬ SuccessComplete (fun _ _ => (0, ⟨80, ascii "h", ascii "/f"⟩)) (ascii "http://h/f") fun _ _ => cutShort := by
  intro complete
  have lines : cutLines cutShort.pieces.flatten = ([ascii "HTTP/1.0 200 OK\r"], ascii "Content-") := by decide
  have fits : LinesFit cutShort.pieces.flatten := by
    rw [LinesFit, lines]
    have room : (ascii "Content-").length ≤ maxHttpLine := by decide
    exact ⟨by decide, fun _ => room⟩
  have taken : ¬ Refused cutShort.pieces.flatten := by
    rw [Refused, lines]
    rintro ⟨status, first, refused⟩
    obtain rfl := Option.some.inj first
    revert refused
    decide
  have further : ∀ line, ¬ Redirects line cutShort.pieces.flatten := by
    intro line redirect
    rw [Redirects, lines] at redirect
    obtain ⟨-, l, member, -⟩ := redirect
    cases member
  obtain ⟨body, httpstatus, location, ends⟩ :=
    (connection_ok_iff cutShort ⟨⟨.statusLine, .none, ⟨80, ascii "h", ascii "/f"⟩, Mem.ofList [], 0⟩, []⟩).2
      ⟨⟨rfl, rfl, rfl⟩, fits, taken, further _⟩
  obtain ⟨m, s, -, -, whole⟩ := complete 1 body httpstatus location ends
  change HeaderComplete cutShort.pieces.flatten at whole
  rw [HeaderComplete, lines] at whole
  cases whole

end ArtikSdk.Http
