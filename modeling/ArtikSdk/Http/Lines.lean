import ArtikSdk.Http.Segmentation

/-!
# Responses line by line

The lines of a response decide what becomes of it: one that is too long for `line`, a status line
that is not of HTTP/1.0 or HTTP/1.1, a header line that begins with CR, which the parser takes for
the end of the headers, or none of these. `received_shows` says that the parser, which has one byte after the
other, does what the lines say.
-/

namespace ArtikSdk.Http
open Lib

/-! ## Lines -/

/-- The lines of a response, and what is behind the last line end. -/
def cutLines : List Byte → List (List Byte) × List Byte
  | [] => ([], [])
  | b :: bytes =>
    let (lines, last) := cutLines bytes
    if b = isoNl then ([] :: lines, last)
    else
      match lines with
      | [] => ([], b :: last)
      | l :: lines => ((b :: l) :: lines, last)

theorem cutLines_text {l : List Byte} (text : isoNl ∉ l) : cutLines l = ([], l) := by
  induction l with
  | nil => rfl
  | cons b l ih =>
    rw [List.mem_cons, not_or] at text
    rw [cutLines, ih text.2]
    dsimp only
    rw [if_neg (Ne.symm text.1)]

theorem cutLines_line {l : List Byte} (text : isoNl ∉ l) (rest : List Byte) :
    cutLines (l ++ isoNl :: rest) = (l :: (cutLines rest).1, (cutLines rest).2) := by
  induction l with
  | nil =>
    rw [List.nil_append, cutLines]
    dsimp only
    rw [if_pos rfl]
  | cons b l ih =>
    rw [List.mem_cons, not_or] at text
    rw [List.cons_append, cutLines, ih text.2]
    dsimp only
    rw [if_neg (Ne.symm text.1)]

/-- Bytes are a text without a line end, or a line and what follows it. -/
theorem text_or_line (bytes : List Byte) : isoNl ∉ bytes ∨ ∃ l rest, bytes = l ++ isoNl :: rest ∧ isoNl ∉ l := by
  by_cases ends : isoNl ∈ bytes
  · exact .inr (List.eq_append_cons_of_mem ends)
  · exact .inl ends

theorem lines_induction {P : List Byte → Prop} (text : ∀ l, isoNl ∉ l → P l)
    (line : ∀ l rest, isoNl ∉ l → P rest → P (l ++ isoNl :: rest)) (bytes : List Byte) : P bytes := by
  obtain ⟨n, size⟩ : ∃ n, bytes.length = n := ⟨_, rfl⟩
  induction n using Nat.strong_induction_on generalizing bytes with
  | _ n ih =>
    obtain ends | ⟨l, rest, rfl, first⟩ := text_or_line bytes
    · exact text bytes ends
    · rw [List.length_append, List.length_cons] at size
      exact line l rest first (ih _ (by omega) rest rfl)

/-! ## What becomes of a response -/

inductive Outcome where
  | overlong
  | refused
  | unfinished
  | headersEnd
deriving DecidableEq

/-- A status line that the parser takes. -/
def isHttp (status : List Byte) : Bool := (ascii "HTTP/1.0").isPrefixOf status || (ascii "HTTP/1.1").isPrefixOf status

/-- A line that the parser takes for the empty one. -/
def endsHeaders (l : List Byte) : Bool := l.head? = some isoCr

/-- The headers, `last` being behind their last line end. -/
def outcomeOfHeaders (last : List Byte) : List (List Byte) → Outcome
  | [] => if last.length ≤ maxHttpLine then .unfinished else .overlong
  | l :: lines =>
    if maxHttpLine ≤ l.length then .overlong
    else if endsHeaders l then .headersEnd
    else outcomeOfHeaders last lines

def outcome (bytes : List Byte) : Outcome :=
  match cutLines bytes with
  | ([], last) => if last.length ≤ maxHttpLine then .unfinished else .overlong
  | (status :: lines, last) =>
    if maxHttpLine ≤ status.length then .overlong
    else if isHttp status then outcomeOfHeaders last lines
    else .refused

/-- `line` when the status line has been read into it. -/
def statusText (line : Mem) (status : List Byte) : Mem := setLine (line.store 0 status) status.length 0

/-- The response is a redirect. -/
def moved (line : Mem) (bytes : List Byte) : Bool :=
  match (cutLines bytes).1 with
  | [] => false
  | status :: _ => statusOf (statusText line status) = .moved

/-! ## The parsers on a line -/

variable {parsehttpurl : ParseUrl} {ws ws' : WgetS} {l rest bytes : List Byte}

/-- A parser stores the bytes of a line one after the other. -/
def Stores (parse : List Byte → WgetS → Except Stop (WgetS × List Byte)) : Prop :=
  ∀ b rest ws, b ≠ isoNl → parse (b :: rest) ws =
    if ws.ndx ≥ maxHttpLine then .error .undefined else parse rest { ws with line := setLine ws.line ws.ndx b, ndx := ws.ndx + 1 }

theorem parsestatus_stores : Stores wgetParsestatus := by
  intro b rest ws text
  rw [wgetParsestatus]
  dsimp only
  rw [if_neg text]

theorem parseheaders_stores : Stores (wgetParseheaders parsehttpurl) := by
  intro b rest ws text
  rw [wgetParseheaders]
  dsimp only
  rw [if_neg text]

theorem store_nil (m : Mem) (a : Nat) : m.store a [] = m := by
  funext k
  exact Mem.store_outside m (by simp; omega)

theorem store_cons (m : Mem) (a : Nat) (b : Byte) (bs : List Byte) : (setLine m a b).store (a + 1) bs = m.store a (b :: bs) := by
  funext k
  by_cases before : k < a
  · rw [Mem.store_outside _ (.inl (by omega)), Mem.store_outside _ (.inl before), setLine, Function.update_of_ne (by omega)]
  by_cases first : k = a
  · subst first
    rw [Mem.store_outside _ (.inl (by omega)), setLine, Function.update_self, Mem.store_inside _ le_rfl (by simp)]
    simp
  by_cases inside : k < a + 1 + bs.length
  · rw [Mem.store_inside _ (by omega) inside, Mem.store_inside _ (by omega) (by rw [List.length_cons]; omega)]
    rw [List.getElem_cons, dif_neg (by omega)]
    congr 1
  · rw [Mem.store_outside _ (.inr (by omega)), Mem.store_outside _ (.inr (by rw [List.length_cons]; omega)), setLine,
      Function.update_of_ne first]

section Parse

variable {parse : List Byte → WgetS → Except Stop (WgetS × List Byte)}

/-- A text that has its place in `line`. -/
theorem Stores.text (stores : Stores parse) (text : isoNl ∉ l) (fits : ws.ndx + l.length ≤ maxHttpLine) :
    parse (l ++ rest) ws = parse rest { ws with line := ws.line.store ws.ndx l, ndx := ws.ndx + l.length } := by
  induction l generalizing ws with
  | nil => rw [store_nil, List.nil_append, List.length_nil, Nat.add_zero]
  | cons b l ih =>
    rw [List.mem_cons, not_or] at text
    rw [List.length_cons] at fits ⊢
    rw [List.cons_append, stores _ _ _ (Ne.symm text.1), if_neg (by omega), ih text.2 (by dsimp only; omega)]
    dsimp only
    rw [store_cons, Nat.add_assoc, Nat.add_comm 1]

/-- A text that has not. -/
theorem Stores.overlong (stores : Stores parse) (text : isoNl ∉ l) (long : maxHttpLine < ws.ndx + l.length) (begins : ws.ndx ≤ maxHttpLine) :
    parse (l ++ rest) ws = .error .undefined := by
  induction l generalizing ws with
  | nil =>
    rw [List.length_nil] at long
    omega
  | cons b l ih =>
    rw [List.mem_cons, not_or] at text
    rw [List.length_cons] at long
    rw [List.cons_append, stores _ _ _ (Ne.symm text.1)]
    by_cases full : ws.ndx ≥ maxHttpLine
    · rw [if_pos full]
    · rw [if_neg full]
      exact ih text.2 (by dsimp only; omega) (by dsimp only; omega)

end Parse

/-! ## Headers -/

/-- At the end of a line the headers end, or the next line begins. -/
theorem parseheaders_next (fits : ws.ndx < maxHttpLine) :
    (0 < ws.ndx ∧ ws.line 0 = isoCr → ∃ line, wgetParseheaders parsehttpurl (isoNl :: rest) ws = .ok ({ ws with line, state := .data }, rest)) ∧
    (¬ (0 < ws.ndx ∧ ws.line 0 = isoCr) → ∃ line location,
      wgetParseheaders parsehttpurl (isoNl :: rest) ws = wgetParseheaders parsehttpurl rest { ws with line, location, ndx := 0 }) := by
  rw [wgetParseheaders, if_neg (by omega)]
  dsimp only
  rw [if_pos rfl]
  by_cases some : 0 < ws.ndx
  · have first : setLine ws.line ws.ndx isoNl 0 = ws.line 0 := Function.update_of_ne (by omega) ..
    rw [if_pos some, first]
    constructor
    · rintro ⟨-, cr⟩
      rw [if_pos cr]
      exact ⟨_, rfl⟩
    · intro other
      rw [if_neg fun cr => other ⟨some, cr⟩]
      exact ⟨_, _, rfl⟩
  · rw [if_neg some]
    exact ⟨fun both => absurd both.1 some, fun _ => ⟨_, ws.location, rfl⟩⟩

/-- `line` holds the line `l`, which ends the headers. -/
theorem endsHeaders_iff (line : Mem) (l : List Byte) : endsHeaders l = true ↔ 0 < l.length ∧ line.store 0 l 0 = isoCr := by
  cases l with
  | nil => simp [endsHeaders]
  | cons b l =>
    have first : line.store 0 (b :: l) 0 = b := Mem.store_inside line le_rfl (by simp)
    rw [first]
    simp [endsHeaders]

/-- What the header parser returns for each outcome. -/
def HeadersShow (httpstatus : HttpStatus) (r : Except Stop (WgetS × List Byte)) : Outcome → Prop
  | .overlong => r = .error .undefined
  | .unfinished => ∃ ws', r = .ok (ws', []) ∧ ws'.state = .headers ∧ ws'.httpstatus = httpstatus
  | .headersEnd => ∃ ws' rest, r = .ok (ws', rest) ∧ ws'.state = .data ∧ ws'.httpstatus = httpstatus
  | .refused => False

/-- **The headers are parsed line by line.** -/
theorem parseheaders_shows (here : ws.state = .headers) (begins : ws.ndx = 0) :
    HeadersShow ws.httpstatus (wgetParseheaders parsehttpurl bytes ws) (outcomeOfHeaders (cutLines bytes).2 (cutLines bytes).1) := by
  induction bytes using lines_induction generalizing ws with
  | text l text =>
    rw [cutLines_text text, outcomeOfHeaders, ← List.append_nil l]
    split
    · rename_i fits
      rw [parseheaders_stores.text text (by rw [begins]; simpa using fits)]
      exact ⟨_, rfl, here, rfl⟩
    · rename_i long
      exact parseheaders_stores.overlong text (by rw [begins]; simpa using long) (by omega)
  | line l rest text ih =>
    rw [cutLines_line text, outcomeOfHeaders]
    by_cases long : maxHttpLine ≤ l.length
    · rw [if_pos long]
      by_cases full : l.length = maxHttpLine
      · rw [parseheaders_stores.text text (by omega), wgetParseheaders, if_pos (by dsimp only; omega)]
        rfl
      · exact parseheaders_stores.overlong text (by omega) (by omega)
    · rw [if_neg long, parseheaders_stores.text text (by omega)]
      have ends := endsHeaders_iff ws.line l
      have here' : ws.ndx + l.length < maxHttpLine := by omega
      obtain ⟨data, next⟩ := @parseheaders_next parsehttpurl { ws with line := ws.line.store ws.ndx l, ndx := ws.ndx + l.length } rest here'
      simp only [begins, Nat.zero_add] at data next ⊢
      by_cases cr : endsHeaders l = true
      · obtain ⟨line, parsed⟩ := data (ends.1 cr)
        rw [if_pos cr, parsed]
        exact ⟨_, _, rfl, rfl, rfl⟩
      · obtain ⟨line, location, parsed⟩ := next (mt ends.2 cr)
        rw [if_neg cr, parsed]
        exact ih here rfl

/-! ## Responses -/

/-- A prefix without NUL is found in a terminated text exactly when the text has it. -/
theorem startsWith_text {s : List Byte} (free : ∀ b ∈ s, b ≠ 0) (line : Mem) (l : List Byte) :
    startsWith (statusText line l) 0 s = s.isPrefixOf l := by
  have byte : ∀ k (inside : k < l.length), statusText line l k = l[k] := by
    intro k inside
    rw [statusText, setLine, Function.update_of_ne (by omega), Mem.store_inside _ (Nat.zero_le k) (by omega)]
    rfl
  have nul : statusText line l l.length = 0 := Function.update_self ..
  rw [Bool.eq_iff_iff, startsWith, decide_eq_true_eq, List.isPrefixOf_iff_prefix, List.prefix_iff_getElem?]
  constructor
  · intro loaded k inside
    have at' : ∀ j (within : j < s.length), statusText line l j = s[j] := by
      intro j within
      have entry := (statusText line l).load_getElem? (a := 0) within
      rw [loaded, List.getElem?_eq_getElem within, Nat.zero_add] at entry
      exact (Option.some.inj entry).symm
    have within : k < l.length := by
      by_contra short
      have zero := at' l.length (by omega)
      rw [nul] at zero
      exact free _ (List.getElem_mem _) zero.symm
    rw [List.getElem?_eq_getElem within, ← byte k within, at' k inside]
  · intro same
    apply List.ext_getElem?
    intro k
    by_cases inside : k < s.length
    · obtain ⟨within, is⟩ := List.getElem?_eq_some_iff.1 (same k inside)
      rw [Mem.load_getElem? _ inside, List.getElem?_eq_getElem inside, Nat.zero_add, byte k within, is]
    · rw [List.getElem?_eq_none (by simpa using inside), List.getElem?_eq_none (by omega)]

theorem startsWith_http (line : Mem) (l : List Byte) :
    (startsWith (statusText line l) 0 (ascii "HTTP/1.0") = true ∨ startsWith (statusText line l) 0 (ascii "HTTP/1.1") = true) ↔
      isHttp l = true := by
  rw [startsWith_text (by decide), startsWith_text (by decide), isHttp, Bool.or_eq_true]

/-- A whole status line. -/
theorem parsestatus_line (begins : ws.ndx = 0) (text : isoNl ∉ l) (fits : l.length < maxHttpLine) :
    wgetParsestatus (l ++ isoNl :: rest) ws =
      if isHttp l then
        .ok ({ ws with line := statusText ws.line l, httpstatus := statusOf (statusText ws.line l), state := .headers, ndx := l.length },
          isoNl :: rest)
      else .error (.aborted ws.httpstatus ws.location) := by
  have begun : setLine (setLine (ws.line.store 0 l) l.length isoNl) l.length 0 = statusText ws.line l := Function.update_idem ..
  rw [parsestatus_stores.text text (by omega), wgetParsestatus, if_neg (by dsimp only; omega)]
  dsimp only
  rw [if_pos rfl, begins, Nat.zero_add, begun]
  by_cases http : isHttp l = true
  · rw [if_pos ((startsWith_http ws.line l).2 http), if_pos http]
  · rw [if_neg (mt (startsWith_http ws.line l).1 http), if_neg http]

/-- The first byte of a status line that is taken is not CR. -/
theorem statusText_first (http : isHttp l = true) (line : Mem) : statusText line l 0 ≠ isoCr := by
  have first := (startsWith_http line l).2 http
  have entry : ∀ {s : List Byte}, startsWith (statusText line l) 0 s = true → 0 < s.length → s[0]? = some (statusText line l 0) := by
    intro s starts some
    rw [← of_decide_eq_true starts, Mem.load_getElem? _ some]
  obtain starts | starts := first
  · rw [← Option.some.inj (entry starts (by decide))]
    decide
  · rw [← Option.some.inj (entry starts (by decide))]
    decide

/-- What a `recv` of the whole response returns for each outcome. -/
def Shows (ws : WgetS) (moved : Bool) (r : Except Stop (WgetS × List Byte × Bool)) : Outcome → Prop
  | .overlong => r = .error .undefined
  | .refused => r = .error (.aborted ws.httpstatus ws.location)
  | .unfinished => ∃ ws', r = .ok (ws', [], false) ∧ ws'.state ≠ .data
  | .headersEnd => ∃ ws' data, r = .ok (ws', data, moved) ∧ ws'.state = .data

/-- Of the first line there is no end yet. -/
theorem received_text (here : ws.state = .statusLine) (begins : ws.ndx = 0) (text : isoNl ∉ l) (redirect : Bool) :
    Shows ws redirect (received parsehttpurl l ws) (if l.length ≤ maxHttpLine then .unfinished else .overlong) := by
  rw [received_statusLine here]
  by_cases fits : l.length ≤ maxHttpLine
  · have parsed : wgetParsestatus (l ++ []) ws = _ := parsestatus_stores.text text (by omega)
    rw [List.append_nil, wgetParsestatus] at parsed
    rw [if_pos fits, parsed]
    dsimp only
    rw [if_neg (by rw [here]; decide)]
    exact ⟨_, rfl, by rw [here]; decide⟩
  · have parsed : wgetParsestatus (l ++ []) ws = _ := parsestatus_stores.overlong text (by omega) (by omega)
    rw [List.append_nil] at parsed
    rw [if_neg fits, parsed]
    rfl

/-- The first line has no room in `line`. -/
theorem received_long (here : ws.state = .statusLine) (begins : ws.ndx = 0) (text : isoNl ∉ l) (long : maxHttpLine ≤ l.length) :
    received parsehttpurl (l ++ isoNl :: rest) ws = .error .undefined := by
  rw [received_statusLine here]
  by_cases full : l.length = maxHttpLine
  · rw [parsestatus_stores.text text (by omega), wgetParsestatus, if_pos (by dsimp only; omega)]
  · rw [parsestatus_stores.overlong text (by omega) (by omega)]

/-- The first line is a status line that is taken: the headers decide. -/
theorem received_taken (here : ws.state = .statusLine) (begins : ws.ndx = 0) (text : isoNl ∉ l) (fits : l.length < maxHttpLine)
    (http : isHttp l = true) :
    Shows ws (statusOf (statusText ws.line l) = .moved) (received parsehttpurl (l ++ isoNl :: rest) ws)
      (outcomeOfHeaders (cutLines rest).2 (cutLines rest).1) := by
  rw [received_statusLine here, parsestatus_line begins text fits, if_pos http]
  dsimp only
  rw [if_pos rfl, received_headers rfl]
  -- the line end is read again, with the status line still in `line`
  obtain ⟨-, next⟩ := @parseheaders_next parsehttpurl
    { ws with line := statusText ws.line l, httpstatus := statusOf (statusText ws.line l), state := .headers, ndx := l.length } rest fits
  obtain ⟨line, location, parsed⟩ := next fun both => statusText_first http ws.line both.2
  rw [parsed]
  have shows' := @parseheaders_shows parsehttpurl
    { ws with line, location, httpstatus := statusOf (statusText ws.line l), state := .headers, ndx := 0 } rest rfl rfl
  cases result : outcomeOfHeaders (cutLines rest).2 (cutLines rest).1 with
  | overlong =>
    rw [result] at shows'
    rw [shows']
    rfl
  | refused =>
    rw [result] at shows'
    exact shows'.elim
  | unfinished =>
    rw [result] at shows'
    obtain ⟨ws', parsed', state, -⟩ := shows'
    rw [parsed']
    dsimp only
    rw [if_neg (by rw [state]; decide)]
    exact ⟨ws', rfl, by rw [state]; decide⟩
  | headersEnd =>
    rw [result] at shows'
    obtain ⟨ws', data, parsed', state, status⟩ := shows'
    rw [parsed']
    dsimp only
    rw [if_pos state, status]
    by_cases kept : statusOf (statusText ws.line l) = .moved
    · rw [if_neg (not_not.2 kept), decide_eq_true kept]
      exact ⟨ws', _, rfl, state⟩
    · rw [if_pos kept, decide_eq_false kept]
      exact ⟨ws', _, rfl, state⟩

/-- **A response does what its lines say.** -/
theorem received_shows (here : ws.state = .statusLine) (begins : ws.ndx = 0) (bytes : List Byte) :
    Shows ws (moved ws.line bytes) (received parsehttpurl bytes ws) (outcome bytes) := by
  obtain text | ⟨l, rest, rfl, text⟩ := text_or_line bytes
  · rw [outcome, cutLines_text text]
    exact received_text here begins text _
  · have redirect : moved ws.line (l ++ isoNl :: rest) = decide (statusOf (statusText ws.line l) = .moved) := by
      rw [moved, cutLines_line text]
    rw [redirect, outcome, cutLines_line text]
    dsimp only
    by_cases long : maxHttpLine ≤ l.length
    · rw [if_pos long]
      exact received_long here begins text long
    · rw [if_neg long]
      by_cases http : isHttp l = true
      · rw [if_pos http]
        exact received_taken here begins text (by omega) http
      · rw [if_neg http, received_statusLine here, parsestatus_line begins text (by omega), if_neg http]
        rfl

end ArtikSdk.Http
