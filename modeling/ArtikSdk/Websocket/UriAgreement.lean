import ArtikSdk.Websocket.Uri

/-!
# The two URI parsers

The regular expression generates the text of a URI in one way, so the captures on Linux are
the parts of the URI, provided the path keeps to its bracket expression. The scanner on
Tinyara takes the first colon for the one before a port, wherever it is, and hands
`strtoul` the text that begins with that colon: the port is never read.
-/

namespace ArtikSdk.Websocket
open Lib Regex

variable {tls tls' : Bool} {host host' : List Char} {port port' path path' : Option (List Char)} {c : Char}

/-- The parts of a URI as a parser delimits them. -/
structure WellFormed (host : List Char) (port : Option (List Char)) : Prop where
  hostNonempty : host ≠ []
  hostChars : ∀ c ∈ host, Linux.isHostChar c = true
  portDigits : ∀ digits ∈ port, digits ≠ [] ∧ ∀ c ∈ digits, isDigit c = true

theorem Uri.wellFormed (u : Uri) : WellFormed u.host u.port := ⟨u.hostNonempty, u.hostChars, u.portDigits⟩

theorem hostChar_ne (h : Linux.isHostChar c = true) : c ≠ ':' ∧ c ≠ '/' := by
  constructor
  · rintro rfl
    exact absurd h (by decide)
  · rintro rfl
    exact absurd h (by decide)

theorem digit_ne (h : isDigit c = true) : c ≠ ':' ∧ c ≠ '/' := by
  constructor
  · rintro rfl
    exact absurd h (by decide)
  · rintro rfl
    exact absurd h (by decide)

/-- The text of a URI determines its parts. -/
theorem uriText_inj (wf : WellFormed host port) (wf' : WellFormed host' port')
    (same : uriText tls host port path = uriText tls' host' port' path') :
    tls = tls' ∧ host = host' ∧ port = port' ∧ path = path' := by
  have body : tls = tls' ∧ host ++ (portText port ++ pathText path) = host' ++ (portText port' ++ pathText path') := by
    cases tls <;> cases tls' <;> simp [uriText, schemeText] at same ⊢ <;> exact same
  obtain ⟨rfl, body⟩ := body
  have stop (port path : Option (List Char)) : ∀ c ∈ (portText port ++ pathText path).head?, Linux.isHostChar c = false := by
    cases port <;> cases path <;> rintro c ⟨⟩ <;> decide
  obtain ⟨rfl, rest⟩ := cut_unique body wf.hostChars wf'.hostChars (stop port path) (stop port' path')
  have pathStop (path : Option (List Char)) : ∀ c ∈ (pathText path).head?, isDigit c = false := by
    cases path <;> rintro c ⟨⟩
    decide
  have pathInj (same : pathText path = pathText path') : path = path' := by
    cases path <;> cases path' <;> simp_all [pathText]
  cases port with
  | none =>
    cases port' with
    | none => exact ⟨rfl, rfl, rfl, pathInj rest⟩
    | some digits' => cases path <;> simp [portText, pathText] at rest
  | some digits =>
    cases port' with
    | none => cases path' <;> simp [portText, pathText] at rest
    | some digits' =>
      obtain ⟨rfl, paths⟩ := cut_unique (List.cons.inj rest).2 (wf.portDigits digits rfl).2 (wf'.portDigits digits' rfl).2
        (pathStop path) (pathStop path')
      exact ⟨rfl, rfl, rfl, pathInj paths⟩

/-! ## Linux -/

/-- The captures of a URI. -/
def captures (tls : Bool) (host : List Char) (port path : Option (List Char)) : Captures :=
  (match path with | none => [] | some cs => [(4, '/' :: cs)]) ++
  ((match port with | none => [] | some digits => [(3, ':' :: digits)]) ++ [(2, host), (1, schemeText tls)])

/-- The path keeps to the bracket expression. -/
def PathAllowed (path : Option (List Char)) : Prop := ∀ cs ∈ path, ∀ c ∈ cs, Linux.isPathChar c = true

theorem parses_scheme {s : List Char} {caps : Captures} :
    Parses (.group 1 (.seq (.word ['w', 's']) (.opt (.cls (· == 's'))))) s caps ↔
      ∃ tls, s = schemeText tls ∧ caps = [(1, schemeText tls)] := by
  rw [parses_group]
  constructor
  · rintro ⟨cs, rfl, inner⟩
    obtain ⟨t, u, cs, ds, rfl, rfl, first, second⟩ := parses_seq.1 inner
    obtain ⟨rfl, rfl⟩ := parses_word.1 first
    obtain ⟨rfl, rfl⟩ | present := parses_opt.1 second
    · exact ⟨false, rfl, rfl⟩
    · obtain ⟨c, rfl, rfl, hit⟩ := parses_cls.1 present
      rw [beq_iff_eq.1 hit]
      exact ⟨true, rfl, rfl⟩
  · rintro ⟨tls, rfl, rfl⟩
    refine ⟨[], rfl, parses_seq.2 ⟨['w', 's'], if tls then ['s'] else [], [], [], ?_, rfl, parses_word.2 ⟨rfl, rfl⟩, ?_⟩⟩
    · cases tls <;> rfl
    · cases tls with
      | false => exact .absent
      | true => exact .present (.cls rfl)

theorem parses_port {s : List Char} {caps : Captures} :
    Parses (.opt (.group 3 (.seq (.cls (· == ':')) (.plus isDigit)))) s caps ↔
      ∃ port, (∀ digits ∈ port, digits ≠ [] ∧ ∀ c ∈ digits, isDigit c = true) ∧ s = portText port ∧
        caps = match port with | none => [] | some digits => [(3, ':' :: digits)] := by
  rw [parses_opt]
  constructor
  · rintro (⟨rfl, rfl⟩ | present)
    · exact ⟨none, nofun, rfl, rfl⟩
    · obtain ⟨cs, rfl, inner⟩ := parses_group.1 present
      obtain ⟨t, digits, cs, ds, rfl, rfl, first, second⟩ := parses_seq.1 inner
      obtain ⟨c, rfl, rfl, hit⟩ := parses_cls.1 first
      obtain ⟨rfl, nonempty, tests⟩ := parses_plus.1 second
      rw [beq_iff_eq.1 hit]
      exact ⟨some digits, by rintro _ ⟨⟩; exact ⟨nonempty, tests⟩, rfl, rfl⟩
  · rintro ⟨port, digits, rfl, rfl⟩
    cases port with
    | none => exact .inl ⟨rfl, rfl⟩
    | some ds =>
      obtain ⟨nonempty, tests⟩ := digits ds rfl
      exact .inr (parses_group.2 ⟨[], rfl, parses_seq.2 ⟨[':'], ds, [], [], rfl, rfl,
        parses_cls.2 ⟨':', rfl, rfl, rfl⟩, parses_plus.2 ⟨rfl, nonempty, tests⟩⟩⟩)

theorem parses_path {s : List Char} {caps : Captures} :
    Parses (.opt (.group 4 (.seq (.cls (· == '/')) (.rep Linux.isPathChar)))) s caps ↔
      ∃ path, PathAllowed path ∧ s = pathText path ∧ caps = match path with | none => [] | some cs => [(4, '/' :: cs)] := by
  rw [parses_opt]
  constructor
  · rintro (⟨rfl, rfl⟩ | present)
    · exact ⟨none, nofun, rfl, rfl⟩
    · obtain ⟨cs, rfl, inner⟩ := parses_group.1 present
      obtain ⟨t, rest, cs, ds, rfl, rfl, first, second⟩ := parses_seq.1 inner
      obtain ⟨c, rfl, rfl, hit⟩ := parses_cls.1 first
      obtain ⟨rfl, tests⟩ := parses_rep.1 second
      rw [beq_iff_eq.1 hit]
      exact ⟨some rest, by rintro _ ⟨⟩; exact tests, rfl, rfl⟩
  · rintro ⟨path, allowed, rfl, rfl⟩
    cases path with
    | none => exact .inl ⟨rfl, rfl⟩
    | some cs =>
      exact .inr (parses_group.2 ⟨[], rfl, parses_seq.2 ⟨['/'], cs, [], [], rfl, rfl,
        parses_cls.2 ⟨'/', rfl, rfl, rfl⟩, parses_rep.2 ⟨rfl, allowed cs rfl⟩⟩⟩)

/-- **What the regular expression generates.** -/
theorem parses_strRegex {s : List Char} {caps : Captures} :
    Parses Linux.strRegex s caps ↔
      ∃ tls host port path, WellFormed host port ∧ PathAllowed path ∧ s = uriText tls host port path ∧
        caps = captures tls host port path := by
  constructor
  · intro parsed
    obtain ⟨_, _, _, _, rfl, rfl, scheme, parsed⟩ := parses_seq.1 parsed
    obtain ⟨_, _, _, _, rfl, rfl, slashes, parsed⟩ := parses_seq.1 parsed
    obtain ⟨host, _, _, _, rfl, rfl, authority, parsed⟩ := parses_seq.1 parsed
    obtain ⟨_, _, _, _, rfl, rfl, colon, slash⟩ := parses_seq.1 parsed
    obtain ⟨tls, rfl, rfl⟩ := parses_scheme.1 scheme
    obtain ⟨rfl, rfl⟩ := parses_word.1 slashes
    obtain ⟨_, rfl, inner⟩ := parses_group.1 authority
    obtain ⟨rfl, nonempty, chars⟩ := parses_plus.1 inner
    obtain ⟨port, digits, rfl, rfl⟩ := parses_port.1 colon
    obtain ⟨path, allowed, rfl, rfl⟩ := parses_path.1 slash
    exact ⟨tls, host, port, path, ⟨nonempty, chars, digits⟩, allowed, rfl, by simp [captures]⟩
  · rintro ⟨tls, host, port, path, wf, allowed, rfl, rfl⟩
    refine parses_seq.2 ⟨schemeText tls, _, _, _, rfl, ?_, parses_scheme.2 ⟨tls, rfl, rfl⟩,
      parses_seq.2 ⟨_, _, _, _, rfl, rfl, parses_word.2 ⟨rfl, rfl⟩,
      parses_seq.2 ⟨host, _, _, _, rfl, rfl, parses_group.2 ⟨_, rfl, parses_plus.2 ⟨rfl, wf.hostNonempty, wf.hostChars⟩⟩,
      parses_seq.2 ⟨_, _, _, _, rfl, rfl, parses_port.2 ⟨port, wf.portDigits, rfl, rfl⟩,
        parses_path.2 ⟨path, allowed, rfl, rfl⟩⟩⟩⟩⟩
    simp [captures]

theorem regexec_uri (wf : WellFormed host port) (allowed : PathAllowed path) :
    Linux.strRegex.regexec (uriText tls host port path) = some (captures tls host port path) := by
  refine regexec_eq (parses_strRegex.2 ⟨tls, host, port, path, wf, allowed, rfl, rfl⟩) fun caps' parsed => ?_
  obtain ⟨tls', host', port', path', wf', -, same, rfl⟩ := parses_strRegex.1 parsed
  obtain ⟨rfl, rfl, rfl, rfl⟩ := uriText_inj wf wf' same
  rfl

theorem regexec_uri_none (wf : WellFormed host port) (refused : ¬ PathAllowed path) :
    Linux.strRegex.regexec (uriText tls host port path) = none := by
  refine regexec_eq_none fun caps parsed => ?_
  obtain ⟨tls', host', port', path', wf', allowed, same, -⟩ := parses_strRegex.1 parsed
  obtain ⟨-, -, -, rfl⟩ := uriText_inj wf wf' same
  exact refused allowed

/-! ### The port -/

theorem digit_not_space (h : isDigit c = true) : isSpace c = false := by
  simp only [isDigit, Bool.and_eq_true, decide_eq_true_eq] at h
  simp only [isSpace, Bool.or_eq_false_iff, Bool.and_eq_false_iff, decide_eq_false_iff_not]
  have low : '0'.toNat ≤ c.toNat := h.1
  refine ⟨?_, .inr fun high => ?_⟩
  · rintro rfl
    exact absurd low (by decide)
  · have high : c.toNat ≤ '\r'.toNat := high
    exact absurd (Nat.le_trans low high) (by decide)

theorem digit_not_sign (h : isDigit c = true) : c ≠ '-' ∧ c ≠ '+' := by
  constructor
  · rintro rfl
    exact absurd h (by decide)
  · rintro rfl
    exact absurd h (by decide)

theorem scanNumber_digits {digits : List Char} (nonempty : digits ≠ []) (tests : ∀ c ∈ digits, isDigit c = true) :
    scanNumber digits = (false, digits, []) := by
  obtain ⟨d, ds, rfl⟩ := List.exists_cons_of_ne_nil nonempty
  have first := tests d (List.mem_cons_self ..)
  rw [scanNumber, List.dropWhile_cons_of_neg (by simp [digit_not_space first])]
  simp only [List.head?_cons, Option.some.injEq, digit_not_sign first, decide_false, or_self, if_false]
  rw [List.takeWhile_eq_self_iff.2 tests, List.dropWhile_eq_nil_iff.2 tests]

theorem atoi_digits {digits : List Char} (nonempty : digits ≠ []) (tests : ∀ c ∈ digits, isDigit c = true)
    (small : decimal digits < 2 ^ 31) : atoi digits = .ok (decimal digits : Int) := by
  have range : -2 ^ 31 ≤ (decimal digits : Int) ∧ (decimal digits : Int) < 2 ^ 31 := by omega
  rw [atoi, scanNumber_digits nonempty tests]
  exact if_pos range

theorem strtok_port {digits : List Char} (nonempty : digits ≠ []) (tests : ∀ c ∈ digits, isDigit c = true) :
    strtok (':' :: digits) ':' = some digits := by
  obtain ⟨d, ds, rfl⟩ := List.exists_cons_of_ne_nil nonempty
  have first := digit_ne (tests d (List.mem_cons_self ..))
  rw [strtok, List.dropWhile_cons_of_pos (by rfl), List.dropWhile_cons_of_neg (by simpa using first.1)]
  dsimp only
  rw [List.takeWhile_eq_self_iff.2 fun c member => by simpa using (digit_ne (tests c member)).1]

/-- On Linux a URI means what it means, if its path is allowed. -/
theorem linux_parses (u : Uri) (initial : Int) (allowed : PathAllowed u.path)
    (small : ∀ digits ∈ u.port, decimal digits < 2 ^ 31) : Linux.websocketParseUri initial u.text = .ok u.parsed := by
  have scheme : capture (captures u.tls u.host u.port u.path) 1 = schemeText u.tls := by
    cases u.port <;> cases u.path <;> rfl
  have host : capture (captures u.tls u.host u.port u.path) 2 = u.host := by
    cases u.port <;> cases u.path <;> rfl
  have port : capture (captures u.tls u.host u.port u.path) 3 = portText u.port := by
    cases u.port <;> cases u.path <;> rfl
  have path : capture (captures u.tls u.host u.port u.path) 4 = pathText u.path := by
    cases u.port <;> cases u.path <;> rfl
  have slash : (if pathText u.path = [] then ['/'] else pathText u.path) = '/' :: u.path.getD [] := by
    cases u.path <;> rfl
  have secure : decide (schemeText u.tls = ['w', 's', 's']) = u.tls := by
    cases u.tls <;> rfl
  rw [Linux.websocketParseUri, Uri.text, regexec_uri u.wellFormed allowed]
  dsimp only
  rw [scheme, host, port, path, slash, secure]
  cases given : u.port with
  | none =>
    rw [portText, if_neg (not_not.2 rfl), Uri.parsed, Uri.defaultPort, given]
    cases u.tls <;> rfl
  | some digits =>
    obtain ⟨nonempty, tests⟩ := u.portDigits digits given
    rw [portText, if_pos (by simp), strtok_port nonempty tests]
    dsimp only
    rw [atoi_digits nonempty tests (small digits given), Uri.parsed, given]
    rfl

theorem linux_rejects (u : Uri) (initial : Int) (refused : ¬ PathAllowed u.path) :
    Linux.websocketParseUri initial u.text = .error .malformed := by
  rw [Linux.websocketParseUri, Uri.text, regexec_uri_none u.wellFormed refused]

/-! ## Tinyara -/

theorem strchr_append {s t : List Char} (absent : c ∉ s) : strchr (s ++ c :: t) c = some (c :: t) := by
  rw [strchr, List.dropWhile_append_of_pos fun d member => by simpa using fun same : d = c => absent (same ▸ member)]
  simp

theorem strchr_none {s : List Char} (absent : c ∉ s) : strchr s c = none := by
  rw [strchr, List.dropWhile_eq_nil_iff.2 fun d member => by simpa using fun same : d = c => absent (same ▸ member)]

/-- `strtoul` reads no number at a colon. -/
theorem strtoul_colon (t : List Char) : strtoul (':' :: t) = (0, ':' :: t) := by
  have space : isSpace ':' = false := by decide
  have digit : isDigit ':' = false := by decide
  simp [strtoul, scanNumber, space, digit]

theorem take_before {s t : List Char} : (s ++ t).take ((s ++ t).length - t.length) = s := by
  rw [List.length_append, Nat.add_sub_cancel, List.take_left]

/-- What the scanner takes for the host: everything before the first colon. -/
def scannedHost (host : List Char) (port : Option (List Char)) (cs : List Char) : List Char :=
  match port with
  | some _ => host
  | none => if ':' ∈ cs then host ++ '/' :: cs.takeWhile (· != ':') else host

theorem parseAuthority_eq (wf : WellFormed host port) (initial : Int) :
    Tinyara.parseAuthority initial tls (host ++ (portText port ++ pathText path)) =
      match path with
      | none => .error .malformed
      | some cs => .ok ⟨scannedHost host port cs, '/' :: cs, initial, tls⟩ := by
  have noColon : ':' ∉ host := fun member => (hostChar_ne (wf.hostChars _ member)).1 rfl
  have noSlash : '/' ∉ host := fun member => (hostChar_ne (wf.hostChars _ member)).2 rfl
  cases port with
  | some digits =>
    have digitsSlash : '/' ∉ host ++ ':' :: digits := by
      simp only [List.mem_append, List.mem_cons, not_or]
      exact ⟨noSlash, by decide, fun member => (digit_ne ((wf.portDigits digits rfl).2 _ member)).2 rfl⟩
    rw [Tinyara.parseAuthority, portText, List.cons_append, strchr_append noColon]
    dsimp only
    rw [strtoul_colon, take_before]
    simp only [gt_iff_lt, Nat.lt_irrefl, if_false, Nat.sub_self, List.drop_zero]
    cases path with
    | none =>
      rw [pathText, List.append_nil, strchr_none digitsSlash]
    | some cs =>
      rw [show host ++ ':' :: (digits ++ pathText (some cs)) = (host ++ ':' :: digits) ++ '/' :: cs by simp [pathText],
        strchr_append digitsSlash]
      rfl
  | none =>
    rw [portText, List.nil_append]
    cases path with
    | none =>
      rw [pathText, List.append_nil, Tinyara.parseAuthority, strchr_none noColon]
      dsimp only
      rw [strchr_none noSlash]
    | some cs =>
      by_cases colon : ':' ∈ cs
      · obtain ⟨before, after, rfl, first⟩ := List.eq_append_cons_of_mem colon
        have cut : (before ++ ':' :: after).takeWhile (· != ':') = before := by
          rw [List.takeWhile_append_of_pos fun d member => by simpa using fun same : d = ':' => first (same ▸ member)]
          simp
        have earlier : ':' ∉ host ++ '/' :: before := by
          simp only [List.mem_append, List.mem_cons, not_or]
          exact ⟨noColon, by decide, first⟩
        have split : host ++ '/' :: (before ++ ':' :: after) = (host ++ '/' :: before) ++ ':' :: after := by simp
        rw [Tinyara.parseAuthority, pathText, split, strchr_append earlier]
        dsimp only
        rw [strtoul_colon, take_before]
        simp only [gt_iff_lt, Nat.lt_irrefl, if_false, Nat.sub_self, List.drop_zero]
        rw [← split, strchr_append noSlash, scannedHost, if_pos colon, cut]
        rfl
      · have noColon : ':' ∉ host ++ pathText (some cs) := by
          simp only [pathText, List.mem_append, List.mem_cons, not_or]
          exact ⟨noColon, by decide, colon⟩
        rw [Tinyara.parseAuthority, strchr_none noColon]
        dsimp only
        rw [pathText, strchr_append noSlash]
        dsimp only
        rw [take_before, scannedHost, if_neg colon]
        rfl

/-- **On Tinyara** the port is the default one, and the host ends at the first colon. -/
theorem tinyara_eq (u : Uri) :
    Tinyara.websocketParseUri u.text =
      match u.path with
      | none => .error .malformed
      | some cs => .ok ⟨scannedHost u.host u.port cs, '/' :: cs, (u.defaultPort : Nat), u.tls⟩ := by
  rw [Tinyara.websocketParseUri, Uri.text, uriText, Uri.defaultPort]
  cases u.tls with
  | false => exact parseAuthority_eq u.wellFormed 80
  | true => exact parseAuthority_eq u.wellFormed 443

/-- The host is scanned right where no colon precedes the end of the path. -/
theorem scannedHost_eq (u : Uri) (cs : List Char) : scannedHost u.host u.port cs = u.host ↔ (u.port = none → ':' ∉ cs) := by
  cases u.port with
  | some digits => exact ⟨nofun, fun _ => rfl⟩
  | none =>
    by_cases colon : ':' ∈ cs
    · simp [scannedHost, colon]
    · simp [scannedHost, colon]

/-! ## Agreement -/

/-- Both parsers accept the URI and store what it means. -/
def Agree (u : Uri) : Prop :=
  (∀ port, Linux.websocketParseUri port u.text = .ok u.parsed) ∧ Tinyara.websocketParseUri u.text = .ok u.parsed

/-- **When the parsers agree**: the URI has a path, of the characters that the bracket
expression allows, and either the default port, written out, or no colon at all. -/
theorem agree_iff (u : Uri) :
    Agree u ↔ ∃ cs, u.path = some cs ∧ (∀ c ∈ cs, Linux.isPathChar c = true) ∧
      match u.port with
      | none => ':' ∉ cs
      | some digits => decimal digits = u.defaultPort := by
  have default : u.defaultPort < 2 ^ 31 := by
    rw [Uri.defaultPort]
    split <;> decide
  constructor
  · rintro ⟨linux, tinyara⟩
    have allowed : PathAllowed u.path := by
      by_contra refused
      have := linux 0
      rw [linux_rejects u 0 refused] at this
      cases this
    rw [tinyara_eq] at tinyara
    cases path : u.path with
    | none =>
      rw [path] at tinyara
      cases tinyara
    | some cs =>
      rw [path] at tinyara
      obtain ⟨host, -, port, -⟩ := ParsedUri.mk.inj (Except.ok.inj tinyara)
      refine ⟨cs, rfl, allowed cs path, ?_⟩
      have scanned := (scannedHost_eq u cs).1 host
      cases given : u.port with
      | none => exact scanned given
      | some digits =>
        rw [given] at port
        exact (Int.ofNat.inj port).symm
  · rintro ⟨cs, path, allowed, port⟩
    have small : ∀ digits ∈ u.port, decimal digits < 2 ^ 31 := by
      intro digits given
      rw [given] at port
      exact lt_of_eq_of_lt port default
    refine ⟨fun initial => linux_parses u initial (by rw [path]; rintro _ ⟨⟩; exact allowed) small, ?_⟩
    have scanned : scannedHost u.host u.port cs = u.host := by
      refine (scannedHost_eq u cs).2 fun absent => ?_
      rw [absent] at port
      exact port
    have number : (u.port.map decimal).getD u.defaultPort = u.defaultPort := by
      cases given : u.port with
      | none => rfl
      | some digits =>
        rw [given] at port
        exact port
    rw [tinyara_eq, path]
    dsimp only
    rw [scanned, Uri.parsed, number, path]
    rfl

/-- `ws://a:8080/` -/
def explicitPort : Uri where
  tls := false
  host := ['a']
  port := some ['8', '0', '8', '0']
  path := some []
  hostNonempty := by decide
  hostChars := List.all_eq_true.mp (by decide)
  portDigits := by
    rintro digits ⟨⟩
    exact ⟨by decide, List.all_eq_true.mp (by decide)⟩
  pathChars := by
    rintro cs ⟨⟩ c inside
    cases inside

/-- Tinyara connects to port 80. -/
theorem explicitPort_not_agree : ¬ Agree explicitPort := by
  rintro ⟨-, tinyara⟩
  exact absurd tinyara (by decide)

end ArtikSdk.Websocket
