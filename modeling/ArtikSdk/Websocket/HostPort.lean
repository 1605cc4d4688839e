import ArtikSdk.Lib.Printf
import ArtikSdk.Websocket.UriAgreement

/-!
# The host and port of a websocket URI

`os_websocket_open_stream` of `linux_websocket.c` puts the host and the port together again. The port is
that which `websocket_parse_uri` has read, which takes any number.
-/

namespace ArtikSdk.Websocket
open Lib Regex

/-- `sprintf(hostport, "%.*s:%d", 256, host, port)`: the precision leaves 256 characters of the host. -/
def hostport (host : List Char) (port : Int) : List Char := Printf.sprintf ['%', 's', ':', '%', 'd'] [.s (host.take 256), .d port]

/-- The bytes of `malloc(strlen(host) + 5 + 1)`. -/
def reserved (host : List Char) : Nat := host.length + 5 + 1

/-- The URI is read, its port is one of TCP, and what is composed fits, with its final null, and has the whole host. -/
def Composes (port : Int) (uri : List Char) : Prop :=
  ∃ p, Linux.websocketParseUri port uri = .ok p ∧ p.port ≤ 65535 ∧ (hostport p.host p.port).length + 1 ≤ reserved p.host ∧
    p.host <:+: hostport p.host p.port

/-- The number of the port. -/
def Uri.number (u : Uri) : Nat := (u.port.map decimal).getD u.defaultPort

variable {uri : List Char}

/-! ## The URI -/

theorem pathChar_ne_null {c : Char} (allowed : Linux.isPathChar c = true) : c ≠ Char.ofNat 0 := by
  rintro rfl
  exact absurd allowed (by decide)

/-- What is accepted is the text of a URI. -/
theorem accepted_uri (accepted : (Linux.strRegex.regexec uri).isSome = true) : ∃ u : Uri, u.text = uri ∧ PathAllowed u.path := by
  by_contra none
  rw [regexec_eq_none] at accepted
  · cases accepted
  · intro caps parsed
    obtain ⟨tls, host, port, path, wf, allowed, rfl, -⟩ := parses_strRegex.1 parsed
    exact none ⟨⟨tls, host, port, path, wf.hostNonempty, wf.hostChars, wf.portDigits,
      fun cs given c member => pathChar_ne_null (allowed cs given c member)⟩, rfl, allowed⟩

theorem atoi_large {digits : List Char} (nonempty : digits ≠ []) (tests : ∀ c ∈ digits, isDigit c = true)
    (large : 2 ^ 31 ≤ decimal digits) : atoi digits = .error .undefined := by
  rw [atoi, scanNumber_digits nonempty tests]
  have range : ¬ (-2 ^ 31 ≤ (decimal digits : Int) ∧ (decimal digits : Int) < 2 ^ 31) := by omega
  exact if_neg range

/-- A port that an `int` does not hold has no value. -/
theorem linux_overflows (u : Uri) (initial : Int) (allowed : PathAllowed u.path) {digits : List Char} (given : u.port = some digits)
    (large : 2 ^ 31 ≤ decimal digits) : Linux.websocketParseUri initial u.text = .error .undefined := by
  have port : capture (captures u.tls u.host u.port u.path) 3 = ':' :: digits := by
    rw [given]
    cases u.path <;> rfl
  obtain ⟨nonempty, tests⟩ := u.portDigits digits given
  rw [Linux.websocketParseUri, Uri.text, regexec_uri u.wellFormed allowed]
  dsimp only
  rw [port, if_pos (by simp), strtok_port nonempty tests]
  dsimp only
  rw [atoi_large nonempty tests large]
  rfl

/-! ## The buffer -/

theorem hostport_eq (host : List Char) (n : Nat) : hostport host n = host.take 256 ++ ':' :: Nat.toDigits 10 n := by
  change host.take 256 ++ ':' :: ((toString n).toList ++ []) = _
  rw [List.append_nil, Nat.toString_eq_ofList_toDigits, String.toList_ofList]

/-- The colon takes one of the five bytes. -/
theorem fits_iff {host : List Char} (short : host.length ≤ 256) (n : Nat) :
    (hostport host n).length + 1 ≤ reserved host ↔ n ≤ 9999 := by
  have digits := Nat.length_toDigits_le_iff (n := n) (show 1 < 10 by decide) (show 0 < 4 by decide)
  rw [hostport_eq, List.take_of_length_le short, List.length_append, List.length_cons, reserved]
  omega

/-- The port is too short to hold what was cut. -/
theorem whole_iff {host : List Char} (n : Nat) (small : n ≤ 65535) (colonless : ':' ∉ host) :
    host <:+: hostport host n ↔ host.length ≤ 256 := by
  rw [hostport_eq]
  constructor
  · intro whole
    obtain inHost | inPort | ⟨xs, ys, rfl, ofHost, ofPort⟩ := List.infix_append_iff.1 whole
    · exact inHost.length_le.trans (List.length_take_le ..)
    · have digits := (Nat.length_toDigits_le_iff (n := n) (show 1 < 10 by decide) (show 0 < 5 by decide)).2 (by omega)
      have length := inPort.length_le
      rw [List.length_cons] at length
      omega
    · -- what is after the cut would begin with the colon
      cases ys with
      | nil =>
        rw [List.append_nil]
        exact ofHost.length_le.trans (List.length_take_le ..)
      | cons y ys =>
        rw [(List.cons_prefix_cons.1 ofPort).1] at colonless
        exact absurd (List.mem_append_right _ (List.mem_cons_self ..)) colonless
  · intro short
    rw [List.take_of_length_le short]
    exact (List.prefix_append ..).isInfix

/-- **Host and port.** Of the URIs that are accepted, those are composed whose host has at most 256 characters and whose
port has at most four digits. -/
theorem composes_iff (accepted : (Linux.strRegex.regexec uri).isSome = true) (port : Int) :
    Composes port uri ↔ ∃ u : Uri, u.text = uri ∧ u.host.length ≤ 256 ∧ u.number ≤ 9999 := by
  obtain ⟨u, rfl, allowed⟩ := accepted_uri accepted
  have others : (∃ v : Uri, v.text = u.text ∧ v.host.length ≤ 256 ∧ v.number ≤ 9999) ↔
      u.host.length ≤ 256 ∧ u.number ≤ 9999 := by
    constructor
    · rintro ⟨v, same, short, small⟩
      obtain ⟨tls, host, port, -⟩ := uriText_inj v.wellFormed u.wellFormed same
      rw [Uri.number, Uri.defaultPort, tls, port] at small
      exact ⟨host ▸ short, small⟩
    · rintro ⟨short, small⟩
      exact ⟨u, rfl, short, small⟩
  have colonless : ':' ∉ u.host := fun member => (hostChar_ne (u.hostChars _ member)).1 rfl
  rw [others]
  by_cases inside : ∀ digits ∈ u.port, decimal digits < 2 ^ 31
  · have parsed := linux_parses u port allowed inside
    constructor
    · rintro ⟨p, same, tcp, fits, whole⟩
      rw [parsed] at same
      cases same
      have short := (whole_iff u.number (Int.ofNat_le.1 tcp) colonless).1 whole
      exact ⟨short, (fits_iff short u.number).1 fits⟩
    · rintro ⟨short, small⟩
      refine ⟨_, parsed, ?_, (fits_iff short u.number).2 small, (whole_iff u.number (by omega) colonless).2 short⟩
      change (u.number : Int) ≤ 65535
      omega
  · obtain ⟨digits, given, large⟩ : ∃ digits ∈ u.port, 2 ^ 31 ≤ decimal digits := by simpa using inside
    refine iff_of_false ?_ ?_
    · rintro ⟨p, same, -⟩
      rw [linux_overflows u port allowed given large] at same
      cases same
    · rintro ⟨-, small⟩
      rw [Uri.number, Option.mem_def.1 given] at small
      change decimal digits ≤ 9999 at small
      omega

/-- `ws://a:8080/` is composed. -/
theorem explicitPort_composes : Composes 0 explicitPort.text :=
  (composes_iff (by decide) 0).2 ⟨explicitPort, rfl, by decide, by decide⟩

/-- `ws://a:65535/` -/
def lastPort : Uri :=
  { explicitPort with
    port := some ['6', '5', '5', '3', '5']
    portDigits := by
      rintro digits ⟨⟩
      exact ⟨by decide, List.all_eq_true.mp (by decide)⟩ }

/-- The port is accepted, and its last digit leaves no room for the null. -/
theorem lastPort_not_composes : (Linux.strRegex.regexec lastPort.text).isSome = true ∧ ¬ Composes 0 lastPort.text := by
  constructor
  · decide
  · rintro ⟨p, parsed, tcp, fits, -⟩
    have same : Linux.websocketParseUri 0 lastPort.text = .ok lastPort.parsed := by decide
    rw [same] at parsed
    cases parsed
    exact absurd fits (by decide)

end ArtikSdk.Websocket
