import ArtikSdk.Lib.Run
import ArtikSdk.Lib.Stream
import ArtikSdk.Base.Error

/-!
# The network configuration

`os_set_network_config` and `os_get_network_config` of `linux_network.c` over `netlib.c`. The kernel keeps the
addresses of an interface, `/etc/resolv.conf` the name servers, which all interfaces share.
-/

namespace ArtikSdk.Network.Config
open Lib Lib.Dotted

/-- `artik_network_interface_t` -/
inductive Interface where
  | wifi
  | ethernet
deriving DecidableEq

/-- `s_addr`, which lies in the memory with the first number of the address first. -/
abbrev Addr := BitVec 32

/-- `artik_network_config` -/
structure NetworkConfig where
  ipAddr : List Char
  netmask : List Char
  gwAddr : List Char
  dnsAddr : Fin 2 → List Char
  macAddr : List Char

/-- What the kernel keeps of an interface. -/
structure Device where
  addr : Addr
  netmask : Addr
  dstaddr : Addr
  hwaddr : Fin 6 → BitVec 8

/-- `resolvConf` is the text of `/etc/resolv.conf`. -/
structure Host where
  device : Interface → Device
  routes : List (Interface × Addr)
  resolvConf : Option (List Char)

/-- `regexec` stores at a null pointer. -/
inductive Fault where
  | null
deriving DecidableEq

def Host.update (i : Interface) (f : Device → Device) (h : Host) : Host :=
  { h with device := Function.update h.device i (f (h.device i)) }

/-! ## Setting -/

/-- The addresses that `check_network_config` looks at, one after the other; the second server may be missing. -/
def checked (config : NetworkConfig) : List (List Char) :=
  [config.ipAddr, config.netmask, config.gwAddr, config.dnsAddr 0] ++ if config.dnsAddr 1 = [] then [] else [config.dnsAddr 1]

/-- The answers of the library and of the kernel, which gives a mask and a destination with an address; by the number
of the server, whether `/etc/resolv.conf` is opened and written. -/
structure SetAnswers where
  regcomp : Bool
  pmatch : Bool
  setAddr : Bool
  defaults : Addr → Addr × Addr
  setNetmask : Bool
  setDstaddr : Bool
  addRoute : Bool
  fopen : Fin 2 → Bool
  fprintf : Fin 2 → Bool

/-- A match is stored in `pmatch`. -/
def checkAddresses (pmatch : Bool) : List (List Char) → Except Fault Bool
  | [] => .ok true
  | a :: as =>
    if a = [] ∨ dottedQuad.rmatch a = false then .ok false
    else if pmatch = false then .error .null
    else checkAddresses pmatch as

/-- `check_network_config`; nothing is checked when the expression is not compiled. -/
def checkNetworkConfig (answers : SetAnswers) (config : NetworkConfig) : Except Fault Bool :=
  if answers.regcomp = false then .ok true else checkAddresses answers.pmatch (checked config)

/-- `"%d.%d.%d.%d"` on the bytes of an address, and `inet_ntop`. -/
def printAddr (s : Addr) : List Char :=
  decimal (s &&& 0xff).toNat ++
    '.' :: (decimal (s >>> 8 &&& 0xff).toNat ++ '.' :: (decimal (s >>> 16 &&& 0xff).toNat ++ '.' :: decimal (s >>> 24 &&& 0xff).toNat))

def keyword : List Char := "nameserver".toList

/-- `dns_add_nameserver`: the file is written anew, or appended to. -/
def dnsAddNameserver (addr : Addr) (append fopen fprintf : Bool) (h : Host) : Host × Bool :=
  if fopen = false then (h, false)
  else
    let text := if append then h.resolvConf.getD [] else []
    if fprintf = false then ({ h with resolvConf := some text }, false)
    else ({ h with resolvConf := some (text ++ (keyword ++ ' ' :: (printAddr addr ++ ['\n']))) }, true)

/-- The servers are written from the one with the number `i` on. -/
def setDnsAddresses (config : NetworkConfig) (answers : SetAnswers) : List (Fin 2) → Host → Host × ArtikError
  | [], h => (h, .ok)
  | i :: is, h =>
    if config.dnsAddr i = [] then setDnsAddresses config answers is h
    else
      match inetAton (config.dnsAddr i) with
      | none => (h, .networkError)
      | some addr =>
        let (h, works) := dnsAddNameserver addr (decide (i ≠ 0)) (answers.fopen i) (answers.fprintf i) h
        if works = false then (h, .networkError) else setDnsAddresses config answers is h

/-- `set_ipv4addr` -/
def setIpv4addr (i : Interface) (addr : Addr) (answers : SetAnswers) (h : Host) : Host :=
  h.update i fun d => { d with addr := addr, netmask := (answers.defaults addr).1, dstaddr := (answers.defaults addr).2 }

/-- `set_ipv4netmask` -/
def setIpv4netmask (i : Interface) (addr : Addr) (h : Host) : Host := h.update i fun d => { d with netmask := addr }

/-- `set_dripv4addr` -/
def setDripv4addr (i : Interface) (addr : Addr) (h : Host) : Host := h.update i fun d => { d with dstaddr := addr }

/-- `set_defaultroute` -/
def setDefaultroute (i : Interface) (addr : Addr) (h : Host) : Host := { h with routes := h.routes ++ [(i, addr)] }

/-- What `os_set_network_config` does with a configuration that is not refused. -/
def applyConfig (config : NetworkConfig) (interface : Interface) (answers : SetAnswers) (h : Host) : Host × ArtikError :=
  match inetAton config.ipAddr with
  | none => (h, .networkError)
  | some ip =>
    if answers.setAddr = false then (h, .networkError)
    else
      let h := setIpv4addr interface ip answers h
      match inetAton config.netmask with
      | none => (h, .networkError)
      | some mask =>
        if answers.setNetmask = false then (h, .networkError)
        else
          let h := setIpv4netmask interface mask h
          match inetAton config.gwAddr with
          | none => (h, .networkError)
          | some gw =>
            if answers.setDstaddr = false then (h, .networkError)
            else
              let h := setDripv4addr interface gw h
              if answers.addRoute = false then (h, .networkError)
              else setDnsAddresses config answers [0, 1] (setDefaultroute interface gw h)

def osSetNetworkConfig (config : NetworkConfig) (interface : Interface) (answers : SetAnswers) (h : Host) :
    Except Fault (Host × ArtikError) :=
  (checkNetworkConfig answers config).map fun valid =>
    if valid = false then (h, .networkError) else applyConfig config interface answers h

/-! ## Getting -/

def maxIpAddressLen : Nat := 24
def cmdLength : Nat := 256

/-- `"nameserver %d.%d.%d.%d"` -/
def nameserverFormat : List Stream.Directive := Stream.directives "nameserver %d.%d.%d.%d".toList

/-- `"%d.%d.%d.%d"` in a buffer of `MAX_IP_ADDRESS_LEN` bytes. -/
def dnsServer (b1 b2 b3 b4 : Int) : List Char :=
  ((toString b1).toList ++ '.' :: ((toString b2).toList ++ '.' :: ((toString b3).toList ++ '.' :: (toString b4).toList))).take (maxIpAddressLen - 1)

/-- The rounds of `get_ipv4dnsaddr`, with `i` and the array of the addresses. -/
def dnsRounds (numServers : Nat) (s : Stream) (i : Nat) (addr : List Addr) : Option (List Addr) :=
  if s.eof = true then some addr
  else
    let scanned := Stream.scan nameserverFormat s
    match scanned.1 with
    | [b1, b2, b3, b4] =>
      if i < numServers then
        match inetAton (dnsServer b1 b2 b3 b4) with
        | none => none
        | some a => dnsRounds numServers (scanned.2.fgets cmdLength) (i + 1) (addr.set i a)
      else dnsRounds numServers (scanned.2.fgets cmdLength) i addr
    | _ => dnsRounds numServers (scanned.2.fgets cmdLength) i addr
termination_by s.left
decreasing_by all_goals
  exact Stream.round_left (by decide) (Bool.eq_false_iff.2 (by assumption))

/-- `get_ipv4dnsaddr` into `numServers` zeroed addresses. -/
def getIpv4dnsaddr (numServers : Nat) (fopen : Bool) (h : Host) : Option (List Addr) :=
  match h.resolvConf with
  | none => none
  | some text => if fopen = false then none else dnsRounds numServers (.start text) 0 (List.replicate numServers 0)

structure GetAnswers where
  getAddr : Bool
  getMac : Bool
  getNetmask : Bool
  getDstaddr : Bool
  fopen : Bool

/-- `"%02x"` -/
def hexByte (b : BitVec 8) : List Char := [Nat.digitChar (b.toNat / 16), Nat.digitChar (b.toNat % 16)]

def printMac (mac : Fin 6 → BitVec 8) : List Char := [':'].intercalate ((List.finRange 6).map fun i => hexByte (mac i))

/-- `os_get_network_config`, with what it leaves in the configuration. -/
def osGetNetworkConfig (config : Option NetworkConfig) (interface : Interface) (answers : GetAnswers) (h : Host) :
    Option NetworkConfig × ArtikError :=
  match config with
  | none => (none, .badArgs)
  | some config =>
    let d := h.device interface
    if answers.getAddr = false then (some config, .networkError)
    else
      let config := { config with ipAddr := printAddr d.addr }
      if answers.getMac = false then (some config, .networkError)
      else
        let config := { config with macAddr := printMac d.hwaddr }
        if answers.getNetmask = false then (some config, .networkError)
        else
          let config := { config with netmask := printAddr d.netmask }
          if answers.getDstaddr = false then (some config, .networkError)
          else
            let config := { config with gwAddr := printAddr d.dstaddr }
            match getIpv4dnsaddr 2 answers.fopen h with
            | none => (some config, .networkError)
            | some addr => (some { config with dnsAddr := fun i => printAddr (addr.getD i 0) }, .ok)

/-! ## Addresses -/

theorem printAddr_word (q : Quad) : printAddr q.word = q.text := by
  obtain ⟨a, b, c, d⟩ := q.bytes
  rw [printAddr, a, b, c, d, Quad.text]

theorem decimal_short (n : Fin 256) : (decimal n).length ≤ 3 :=
  (Nat.length_toDigits_le_iff (by decide) (by decide)).2 (by omega)

theorem toString_decimal (n : Fin 256) : (toString (n.val : Int)).toList = decimal n := by
  change (toString n.val).toList = decimal n
  rw [Nat.toString_eq_ofList_toDigits, String.toList_ofList, decimal]

/-- The buffer has room for an address. -/
theorem dnsServer_text (q : Quad) : dnsServer (q.a.val : Int) (q.b.val : Int) (q.c.val : Int) (q.d.val : Int) = q.text := by
  have a := decimal_short q.a
  have b := decimal_short q.b
  have c := decimal_short q.c
  have d := decimal_short q.d
  rw [dnsServer, toString_decimal, toString_decimal, toString_decimal, toString_decimal, ← Quad.text, List.take_of_length_le]
  simp only [Quad.text, List.length_append, List.length_cons, maxIpAddressLen]
  omega

/-! ## The file -/

/-- A line of the file: a server, or anything that does not begin like one. -/
inductive Line where
  | server (q : Quad)
  | other (text : List Char)

def Line.text : Line → List Char
  | .server q => keyword ++ ' ' :: q.text
  | .other text => text

/-- A line that `fgets` reads to its end. -/
def Line.Plain : Line → Prop
  | .server _ => True
  | .other text => ¬ keyword <+: text ∧ '\n' ∉ text ∧ text.length + 1 < cmdLength

def Line.server? : Line → Option Quad
  | .server q => some q
  | .other _ => none

/-- The lines of a file. -/
def fileText (lines : List Line) : List Char := lines.flatMap fun l => l.text ++ ['\n']

/-- The first servers go into the array. -/
def fill (numServers : Nat) : Nat → List Addr → List Quad → List Addr
  | _, addr, [] => addr
  | i, addr, q :: qs => if i < numServers then fill numServers (i + 1) (addr.set i q.word) qs else addr

theorem fill_full {numServers i : Nat} (full : ¬ i < numServers) (addr : List Addr) (qs : List Quad) : fill numServers i addr qs = addr := by
  cases qs with
  | nil => rfl
  | cons q qs => exact if_neg full

theorem nameserverFormat_eq :
    nameserverFormat = keyword.map .literal ++ [.space, .int, .literal '.', .int, .literal '.', .int, .literal '.', .int] := by
  decide

theorem skip_space {c : Char} (plain : isSpace c = false) (cs : List Char) (e : Bool) :
    Stream.skip isSpace ⟨c :: cs, e⟩ = ⟨c :: cs, e⟩ := by
  rw [Stream.skip]
  simp [plain]

/-- A server is read, up to the end of its line. -/
theorem scan_server (q : Quad) (rest : List Char) (e : Bool) :
    Stream.scan nameserverFormat ⟨keyword ++ ' ' :: (q.text ++ '\n' :: rest), e⟩ =
      ([(q.a.val : Int), (q.b.val : Int), (q.c.val : Int), (q.d.val : Int)], ⟨'\n' :: rest, e⟩) := by
  obtain ⟨c, cs, shape, digit⟩ := decimal_head q.a
  have plain := (Stream.digit_plain digit).1
  have skipped : Stream.skip isSpace ⟨' ' :: (q.text ++ '\n' :: rest), e⟩ = ⟨q.text ++ '\n' :: rest, e⟩ := by
    have blank : Stream.skip isSpace ⟨' ' :: (q.text ++ '\n' :: rest), e⟩ = Stream.skip isSpace ⟨q.text ++ '\n' :: rest, e⟩ := rfl
    rw [blank, Quad.text, shape]
    exact skip_space plain _ e
  rw [nameserverFormat_eq, Stream.scan_word, Stream.scan, skipped, Quad.text]
  simp only [List.append_assoc, List.cons_append, Stream.scan, Stream.readInt_decimal _ (by decide : Char.isDigit '.' = false),
    Stream.readInt_decimal _ (by decide : Char.isDigit '\n' = false), if_true]

/-- A line is left behind by `fgets`. -/
theorem fgets_line {u rest : List Char} (short : u.length + 1 < cmdLength) (clean : '\n' ∉ u) (e : Bool) :
    Stream.fgets cmdLength ⟨u ++ '\n' :: rest, e⟩ = ⟨rest, e⟩ := by
  rw [Stream.fgets, Stream.lineEnd_line (by omega) clean, Bool.or_false]

theorem dnsRounds_end (numServers i : Nat) (addr : List Addr) : dnsRounds numServers ⟨[], false⟩ i addr = some addr := by
  have none' : Stream.scan nameserverFormat ⟨[], false⟩ = ([], ⟨[], true⟩) := by decide
  have met : Stream.fgets cmdLength ⟨[], true⟩ = ⟨[], true⟩ := by decide
  rw [dnsRounds, if_neg (by decide)]
  dsimp only
  rw [none', met, dnsRounds, if_pos rfl]

/-- The rounds put the first servers into the array. -/
theorem dnsRounds_lines (lines : List Line) (plain : ∀ l ∈ lines, l.Plain) (numServers i : Nat) (addr : List Addr) :
    dnsRounds numServers ⟨fileText lines, false⟩ i addr = some (fill numServers i addr (lines.filterMap Line.server?)) := by
  induction lines generalizing i addr with
  | nil => exact dnsRounds_end numServers i addr
  | cons l lines ih =>
    obtain ⟨first, others⟩ := List.forall_mem_cons.1 plain
    rw [dnsRounds, if_neg Bool.false_ne_true]
    dsimp only
    cases l with
    | server q =>
      have text : fileText (.server q :: lines) = keyword ++ ' ' :: (q.text ++ '\n' :: fileText lines) := by
        simp [fileText, Line.text]
      have next : Stream.fgets cmdLength ⟨'\n' :: fileText lines, false⟩ = ⟨fileText lines, false⟩ :=
        fgets_line (u := []) (by decide) List.not_mem_nil false
      rw [text, scan_server]
      dsimp only
      rw [next, dnsServer_text, inetAton_text]
      change _ = some (fill numServers i addr (q :: lines.filterMap Line.server?))
      rw [fill]
      split
      · exact ih others (i + 1) _
      · rename_i full
        rw [ih others, fill_full full]
    | other text =>
      obtain ⟨differs, clean, short⟩ := first
      obtain ⟨u, ends, scanned⟩ := @Stream.scan_other _ (fileText lines) _
        [.space, .int, .literal '.', .int, .literal '.', .int, .literal '.', .int] false differs (by decide : '\n' ∉ keyword)
      have whole : fileText (.other text :: lines) = text ++ '\n' :: fileText lines := by
        simp [fileText, Line.text]
      rw [whole, nameserverFormat_eq, scanned]
      dsimp only
      rw [fgets_line (by have := ends.length_le; omega) (fun member => clean (ends.mem member))]
      exact ih others i addr

theorem fill_zeros (n : Nat) (done : List Addr) (qs : List Quad) :
    fill (done.length + n) done.length (done ++ List.replicate n 0) qs =
      done ++ ((qs.take n).map Quad.word ++ List.replicate (n - qs.length) 0) := by
  induction qs generalizing n done with
  | nil => simp [fill]
  | cons q qs ih =>
    cases n with
    | zero => simp [fill]
    | succ n =>
      have next : (done ++ List.replicate (n + 1) 0).set done.length q.word = done ++ [q.word] ++ List.replicate n 0 := by
        rw [List.replicate_succ, List.set_append_right _ _ le_rfl, Nat.sub_self, List.set_cons_zero, List.append_assoc]
        rfl
      have step := ih n (done ++ [q.word])
      rw [List.length_append, List.length_singleton, Nat.add_assoc, Nat.add_comm 1 n] at step
      rw [fill, if_pos (by omega), next, step, List.take_succ_cons, List.map_cons, List.length_cons, Nat.add_sub_add_right]
      simp

/-- **Every server line counts, and no other does**: a file gives its first servers, in their order, whatever stands
between them; the places behind them stay zero. -/
theorem getIpv4dnsaddr_lines (numServers : Nat) {h : Host} {lines : List Line} (file : h.resolvConf = some (fileText lines))
    (plain : ∀ l ∈ lines, l.Plain) :
    getIpv4dnsaddr numServers true h =
      some (((lines.filterMap Line.server?).take numServers).map Quad.word ++
        List.replicate (numServers - (lines.filterMap Line.server?).length) 0) := by
  have zeros := fill_zeros numServers [] (lines.filterMap Line.server?)
  rw [List.length_nil, Nat.zero_add, List.nil_append, List.nil_append] at zeros
  rw [getIpv4dnsaddr, file]
  dsimp only
  rw [if_neg (by decide), Stream.start, dnsRounds_lines lines plain, zeros]

/-- Two servers, a comment and an empty line. -/
def resolvLines : List Line := [.other "# home".toList, .server ⟨8, 8, 8, 8⟩, .other [], .server ⟨1, 1, 1, 1⟩]

theorem resolvLines_plain : ∀ l ∈ resolvLines, l.Plain := by
  intro l member
  simp only [resolvLines, List.mem_cons, List.not_mem_nil, or_false] at member
  rcases member with rfl | rfl | rfl | rfl
  · exact ⟨by decide, by decide, by decide⟩
  · trivial
  · exact ⟨by decide, by decide, by decide⟩
  · trivial

theorem getIpv4dnsaddr_resolvLines :
    getIpv4dnsaddr 3 true ⟨fun _ => ⟨0, 0, 0, fun _ => 0⟩, [], some (fileText resolvLines)⟩ =
      some [Quad.word ⟨8, 8, 8, 8⟩, Quad.word ⟨1, 1, 1, 1⟩, 0] :=
  getIpv4dnsaddr_lines 3 rfl resolvLines_plain

/-! ## Runs -/

/-- A call with the answers that it gets. -/
inductive Event where
  | set (config : NetworkConfig) (interface : Interface) (answers : SetAnswers)
  | get (config : Option NetworkConfig) (interface : Interface) (answers : GetAnswers)

inductive Seen where
  | set (code : ArtikError)
  | got (config : Option NetworkConfig) (code : ArtikError)

def step : Event → Host → Except Fault (Host × Seen)
  | .set config interface answers, h => (osSetNetworkConfig config interface answers h).map fun r => (r.1, .set r.2)
  | .get config interface answers, h =>
    .ok (h, .got (osGetNetworkConfig config interface answers h).1 (osGetNetworkConfig config interface answers h).2)

/-- Every address of a configuration is one, and in its only spelling. -/
def NetworkConfig.Valid (config : NetworkConfig) : Prop := ∀ a ∈ checked config, dottedQuad.rmatch a = true

instance (config : NetworkConfig) : Decidable config.Valid := inferInstanceAs (Decidable (∀ a ∈ checked config, dottedQuad.rmatch a = true))

/-- The servers of a configuration. -/
def NetworkConfig.servers (config : NetworkConfig) : List (List Char) :=
  config.dnsAddr 0 :: if config.dnsAddr 1 = [] then [] else [config.dnsAddr 1]

/-- What is known from the calls: the configuration of each interface that was set last, and the servers of the
configuration that was set last on any. -/
structure Known where
  device : Interface → Option NetworkConfig
  servers : Option (List (List Char))

def Known.nothing : Known := ⟨fun _ => none, none⟩

/-- A configuration that is set is known; one that is refused changes nothing; else the kernel has got a part of it. -/
def Known.next (known : Known) : Event → Seen → Known
  | .set config interface answers, .set code =>
    if code = .ok ∧ config.Valid then ⟨Function.update known.device interface (some config), some config.servers⟩
    else if answers.regcomp = true ∧ ¬ config.Valid then known
    else ⟨Function.update known.device interface none, none⟩
  | _, _ => known

/-- The host has what is known. -/
structure Agrees (known : Known) (h : Host) : Prop where
  device : ∀ i config, known.device i = some config →
    printAddr (h.device i).addr = config.ipAddr ∧ printAddr (h.device i).netmask = config.netmask ∧
      printAddr (h.device i).dstaddr = config.gwAddr
  servers : ∀ texts, known.servers = some texts → ∃ qs : List Quad, qs.map Quad.text = texts ∧
    h.resolvConf = some (fileText (qs.map .server))

theorem agrees_nothing (h : Host) : Agrees .nothing h :=
  ⟨fun _ _ known => (by cases known), fun _ known => (by cases known)⟩

section

variable {known : Known} {h h' : Host} {config : NetworkConfig} {i : Interface} {answers : SetAnswers} {code : ArtikError}

/-- The check goes through the addresses. -/
theorem checkAddresses_valid {pmatch : Bool} {as : List (List Char)} {valid : Bool} (checks : checkAddresses pmatch as = .ok valid) :
    valid = true ↔ ∀ a ∈ as, dottedQuad.rmatch a = true := by
  induction as with
  | nil =>
    cases checks
    simp
  | cons a as ih =>
    rw [List.forall_mem_cons]
    rw [checkAddresses] at checks
    split at checks
    · rename_i wrong
      cases checks
      refine iff_of_false Bool.false_ne_true fun right => ?_
      rcases wrong with rfl | wrong
      · exact absurd right.1 (by decide)
      · exact absurd right.1 (by rw [wrong]; exact Bool.false_ne_true)
    · rename_i right
      rw [not_or, Bool.not_eq_false] at right
      split at checks
      · cases checks
      · rw [ih checks]
        exact (and_iff_right right.2).symm

theorem checkAddresses_ok {as : List (List Char)} (right : ∀ a ∈ as, dottedQuad.rmatch a = true) : checkAddresses true as = .ok true := by
  cases checks : checkAddresses true as with
  | ok valid => rw [(checkAddresses_valid checks).2 right]
  | error f =>
    induction as with
    | nil => cases checks
    | cons a as ih =>
      rw [checkAddresses] at checks
      split at checks
      · cases checks
      · exact ih (List.forall_mem_cons.1 right).2 checks

theorem checkNetworkConfig_valid {valid : Bool} (compiled : answers.regcomp = true) (checks : checkNetworkConfig answers config = .ok valid) :
    valid = true ↔ config.Valid := by
  rw [checkNetworkConfig, if_neg (by rw [compiled]; decide)] at checks
  exact checkAddresses_valid checks

theorem NetworkConfig.Valid.text (valid : config.Valid) {a : List Char} (member : a ∈ checked config) : ∃ q : Quad, a = q.text :=
  dottedQuad_iff.1 (valid a member)

/-- Every function of the kernel leaves the other interfaces. -/
theorem update_other {j : Interface} (other : j ≠ i) (f : Device → Device) : (h.update i f).device j = h.device j :=
  Function.update_of_ne other ..

theorem dnsAddNameserver_device (addr : Addr) (append fopen fprintf : Bool) : (dnsAddNameserver addr append fopen fprintf h).1.device = h.device := by
  unfold dnsAddNameserver
  split
  · rfl
  · dsimp only
    split <;> rfl

theorem setDnsAddresses_device (is : List (Fin 2)) : (setDnsAddresses config answers is h).1.device = h.device := by
  induction is generalizing h with
  | nil => rfl
  | cons i is ih =>
    rw [setDnsAddresses]
    split
    · exact ih
    split
    · rfl
    · rename_i addr _
      dsimp only
      split
      · exact dnsAddNameserver_device ..
      · rw [ih]
        exact dnsAddNameserver_device ..

theorem applyConfig_other {j : Interface} (other : j ≠ i) : (applyConfig config i answers h).1.device j = h.device j := by
  have addr (a : Addr) (h : Host) : (setIpv4addr i a answers h).device j = h.device j := update_other other _
  have mask (a : Addr) (h : Host) : (setIpv4netmask i a h).device j = h.device j := update_other other _
  have gw (a : Addr) (h : Host) : (setDripv4addr i a h).device j = h.device j := update_other other _
  unfold applyConfig
  split
  · rfl
  split
  · rfl
  dsimp only
  split
  · exact addr _ _
  split
  · exact addr _ _
  split
  · exact (mask _ _).trans (addr _ _)
  split
  · exact (mask _ _).trans (addr _ _)
  split
  · exact (gw _ _).trans ((mask _ _).trans (addr _ _))
  · rw [setDnsAddresses_device]
    exact (gw _ _).trans ((mask _ _).trans (addr _ _))

/-- A server is written to the file. -/
theorem dnsAddNameserver_file {q : Quad} {append fopen fprintf : Bool} (works : (dnsAddNameserver q.word append fopen fprintf h).2 = true) :
    (dnsAddNameserver q.word append fopen fprintf h).1.resolvConf =
      some ((if append then h.resolvConf.getD [] else []) ++ fileText [.server q]) := by
  unfold dnsAddNameserver at works ⊢
  split at works
  · cases works
  · rename_i opened
    rw [if_neg opened]
    dsimp only at works ⊢
    split at works
    · cases works
    · rename_i written
      rw [if_neg written]
      simp [fileText, Line.text, printAddr_word]

/-- The servers of a valid configuration are the lines of the file. -/
theorem setDnsAddresses_file (valid : config.Valid) (done : (setDnsAddresses config answers [0, 1] h).2 = .ok) :
    ∃ qs : List Quad, qs.map Quad.text = config.servers ∧
      (setDnsAddresses config answers [0, 1] h).1.resolvConf = some (fileText (qs.map .server)) := by
  obtain ⟨q, first⟩ := valid.text (a := config.dnsAddr 0) (by simp [checked])
  have present : config.dnsAddr 0 ≠ [] := by
    obtain ⟨c, cs, shape, -⟩ := decimal_head q.a
    rw [first, Quad.text, shape]
    exact List.cons_ne_nil _ _
  rw [setDnsAddresses, if_neg present, first, inetAton_text] at done ⊢
  dsimp only at done ⊢
  split at done
  · cases done
  · rename_i works
    rw [if_neg works]
    have written := dnsAddNameserver_file (Bool.eq_true_of_not_eq_false works)
    rw [setDnsAddresses] at done ⊢
    by_cases absent : config.dnsAddr 1 = []
    · rw [if_pos absent] at done ⊢
      refine ⟨[q], ?_, written⟩
      rw [NetworkConfig.servers, if_pos absent, first]
      rfl
    · obtain ⟨q', second⟩ := valid.text (a := config.dnsAddr 1) (by simp [checked, absent])
      rw [if_neg absent, second, inetAton_text] at done ⊢
      dsimp only at done ⊢
      split at done
      · cases done
      · rename_i works'
        rw [if_neg works']
        have appended := dnsAddNameserver_file (Bool.eq_true_of_not_eq_false works')
        refine ⟨[q, q'], ?_, ?_⟩
        · rw [NetworkConfig.servers, if_neg absent, first, second]
          rfl
        · rw [setDnsAddresses, appended, written]
          simp [fileText]

/-- A configuration that is set is what the host has. -/
theorem applyConfig_ok (valid : config.Valid) (done : (applyConfig config i answers h).2 = .ok) :
    (printAddr ((applyConfig config i answers h).1.device i).addr = config.ipAddr ∧
      printAddr ((applyConfig config i answers h).1.device i).netmask = config.netmask ∧
        printAddr ((applyConfig config i answers h).1.device i).dstaddr = config.gwAddr) ∧
      ∃ qs : List Quad, qs.map Quad.text = config.servers ∧
        (applyConfig config i answers h).1.resolvConf = some (fileText (qs.map .server)) := by
  obtain ⟨ip, ipText⟩ := valid.text (a := config.ipAddr) (by simp [checked])
  obtain ⟨mask, maskText⟩ := valid.text (a := config.netmask) (by simp [checked])
  obtain ⟨gw, gwText⟩ := valid.text (a := config.gwAddr) (by simp [checked])
  unfold applyConfig at done ⊢
  rw [ipText, inetAton_text, maskText, inetAton_text, gwText, inetAton_text] at done ⊢
  dsimp only at done ⊢
  split at done
  · cases done
  rename_i addr
  split at done
  · cases done
  rename_i netmask
  split at done
  · cases done
  rename_i dstaddr
  split at done
  · cases done
  rename_i route
  rw [if_neg addr, if_neg netmask, if_neg dstaddr, if_neg route]
  refine ⟨?_, setDnsAddresses_file valid done⟩
  rw [setDnsAddresses_device]
  simp [setDefaultroute, setDripv4addr, setIpv4netmask, setIpv4addr, Host.update, printAddr_word]

/-- A configuration that is not valid is refused, and nothing is changed. -/
theorem osSetNetworkConfig_refused {r : Host × ArtikError} (compiled : answers.regcomp = true) (invalid : ¬ config.Valid)
    (set : osSetNetworkConfig config i answers h = .ok r) : r = (h, .networkError) := by
  obtain ⟨valid, checks, rfl⟩ := map_ok_iff.1 set
  have wrong : valid = false := Bool.eq_false_iff.2 fun right => invalid ((checkNetworkConfig_valid compiled checks).1 right)
  exact if_pos wrong

/-- What is known stays true. -/
theorem Agrees.step (agrees : Agrees known h) {e : Event} {o : Seen} (answered : Config.step e h = .ok (h', o)) :
    Agrees (known.next e o) h' := by
  cases e with
  | get config interface answers =>
    cases answered
    exact agrees
  | set config interface answers =>
    obtain ⟨r, set, same⟩ := map_ok_iff.1 answered
    cases same
    rw [Known.next]
    split
    · rename_i done
      obtain ⟨valid, checks, rfl⟩ := map_ok_iff.1 set
      obtain ⟨ok, valid'⟩ := done
      cases valid with
      | false => cases ok
      | true =>
        rw [if_neg (by decide)] at ok ⊢
        obtain ⟨addresses, servers⟩ := applyConfig_ok valid' ok
        refine ⟨fun j c set => ?_, fun texts set => ?_⟩
        · by_cases here : j = interface
          · subst here
            dsimp only at set
            rw [Function.update_self] at set
            cases set
            exact addresses
          · dsimp only at set
            rw [Function.update_of_ne here] at set
            rw [applyConfig_other here]
            exact agrees.device j c set
        · cases set
          exact servers
    split
    · rename_i refused
      rw [osSetNetworkConfig_refused refused.1 refused.2 set]
      exact agrees
    · refine ⟨fun j c set' => ?_, fun texts set' => (by cases set')⟩
      by_cases here : j = interface
      · subst here
        dsimp only at set'
        rw [Function.update_self] at set'
        cases set'
      · dsimp only at set'
        rw [Function.update_of_ne here] at set'
        obtain ⟨valid, -, rfl⟩ := map_ok_iff.1 set
        have same : (if valid = false then (h, ArtikError.networkError) else applyConfig config interface answers h).1.device j = h.device j := by
          split
          · rfl
          · exact applyConfig_other here
        rw [same]
        exact agrees.device j c set'

end

/-- What is known after a run. -/
def Known.after (known : Known) (cs : List (Call Event Host Seen)) : Known := cs.foldl (fun k c => k.next c.input c.output) known

theorem run_agrees {known : Known} {h h' : Host} {cs : List (Call Event Host Seen)} (run : Run step h cs h') (agrees : Agrees known h) :
    Agrees (known.after cs) h' := by
  induction run generalizing known with
  | nil => exact agrees
  | cons answered _ ih => exact ih (agrees.step answered)

/-! ## What a get tells -/

def noAddress : List Char := "0.0.0.0".toList

theorem fill_two (qs : List Quad) (k : Fin 2) :
    printAddr ((fill 2 0 (List.replicate 2 0) qs).getD k 0) = (qs.map Quad.text).getD k noAddress := by
  have zero : printAddr 0#32 = noAddress := by decide
  have two : k = 0 ∨ k = 1 := by omega
  rcases qs with - | ⟨q, - | ⟨q', qs⟩⟩ <;> rcases two with rfl | rfl <;>
    simp [fill, fill_full (lt_irrefl 2), zero, printAddr_word]

theorem getIpv4dnsaddr_servers {h : Host} {qs : List Quad} (file : h.resolvConf = some (fileText (qs.map .server))) :
    getIpv4dnsaddr 2 true h = some (fill 2 0 (List.replicate 2 0) qs) := by
  have plain : ∀ l ∈ qs.map Line.server, l.Plain := by
    intro l member
    obtain ⟨q, -, rfl⟩ := List.mem_map.1 member
    trivial
  have only : (qs.map Line.server).filterMap Line.server? = qs := by
    rw [List.filterMap_map]
    exact List.filterMap_some
  rw [getIpv4dnsaddr, file]
  dsimp only
  rw [if_neg (by decide), Stream.start, dnsRounds_lines _ plain, only]

theorem osGetNetworkConfig_config (old : NetworkConfig) (i : Interface) (answers : GetAnswers) (h : Host) :
    ∃ config, (osGetNetworkConfig (some old) i answers h).1 = some config := by
  unfold osGetNetworkConfig
  dsimp only
  repeat' split
  all_goals exact ⟨_, rfl⟩

/-- **What was set is what is read.** After every run of sets and gets on both interfaces, a get tells the addresses
that were set last on its interface and the servers that were set last on any, as they were written; a second
server that was not given is `0.0.0.0`. A configuration that is not valid is refused and changes nothing. -/
theorem get_tells {h h' : Host} {cs : List (Call Event Host Seen)} (run : Run step h cs h') :
    (∀ config old i answers, osGetNetworkConfig (some old) i answers h' = (some config, .ok) →
      (∀ set, (Known.nothing.after cs).device i = some set →
        config.ipAddr = set.ipAddr ∧ config.netmask = set.netmask ∧ config.gwAddr = set.gwAddr) ∧
        ∀ texts, (Known.nothing.after cs).servers = some texts → ∀ k, config.dnsAddr k = texts.getD k noAddress) ∧
    (∀ old i texts, (Known.nothing.after cs).servers = some texts →
      (osGetNetworkConfig (some old) i ⟨true, true, true, true, true⟩ h').2 = .ok) ∧
    ∀ config i answers r, answers.regcomp = true → ¬ config.Valid → osSetNetworkConfig config i answers h' = .ok r →
      r = (h', .networkError) := by
  have agrees := run_agrees run (agrees_nothing h)
  refine ⟨fun config old i answers got => ?_, fun old i texts known => ?_, fun config i answers r => osSetNetworkConfig_refused⟩
  · unfold osGetNetworkConfig at got
    dsimp only at got
    split at got
    · cases got
    split at got
    · cases got
    split at got
    · cases got
    split at got
    · cases got
    split at got
    · cases got
    · rename_i addr read
      cases got
      refine ⟨fun set known => agrees.device i set known, fun texts known k => ?_⟩
      obtain ⟨qs, rfl, file⟩ := agrees.servers texts known
      have opened : answers.fopen = true := by
        by_contra closed
        rw [getIpv4dnsaddr, file] at read
        dsimp only at read
        rw [if_pos (Bool.eq_false_iff.2 closed)] at read
        cases read
      rw [opened, getIpv4dnsaddr_servers file] at read
      cases read
      exact fill_two qs k
  · obtain ⟨qs, -, file⟩ := agrees.servers texts known
    rw [osGetNetworkConfig]
    dsimp only
    rw [getIpv4dnsaddr_servers file]
    rfl

/-- The library and the kernel do what they are asked. -/
structure SetAnswers.Work (answers : SetAnswers) : Prop where
  regcomp : answers.regcomp = true
  pmatch : answers.pmatch = true
  kernel : answers.setAddr = true ∧ answers.setNetmask = true ∧ answers.setDstaddr = true ∧ answers.addRoute = true
  file : ∀ i, answers.fopen i = true ∧ answers.fprintf i = true

theorem setDnsAddresses_works {config : NetworkConfig} {answers : SetAnswers} (work : answers.Work) (is : List (Fin 2))
    (texts : ∀ i ∈ is, config.dnsAddr i = [] ∨ ∃ q : Quad, config.dnsAddr i = q.text) (h : Host) :
    (setDnsAddresses config answers is h).2 = .ok := by
  induction is generalizing h with
  | nil => rfl
  | cons i is ih =>
    obtain ⟨first, texts⟩ := List.forall_mem_cons.1 texts
    rw [setDnsAddresses]
    split
    · exact ih texts h
    · rename_i present
      obtain ⟨q, text⟩ := first.resolve_left present
      have works : (dnsAddNameserver q.word (decide (i ≠ 0)) true true h).2 = true := rfl
      rw [text, inetAton_text]
      dsimp only
      rw [(work.file i).1, (work.file i).2, if_neg (by rw [works]; decide)]
      exact ih texts _

/-- **Exactly the well formed configurations are set**, where the library and the kernel do what they are asked. -/
theorem set_accepts {config : NetworkConfig} {answers : SetAnswers} (work : answers.Work) (i : Interface) (h : Host) :
    (∃ h', osSetNetworkConfig config i answers h = .ok (h', .ok)) ↔ ∀ a ∈ checked config, ∃ q : Quad, a = q.text := by
  constructor
  · rintro ⟨h', set⟩ a member
    obtain ⟨valid, checks, same⟩ := map_ok_iff.1 set
    cases valid with
    | false => cases same
    | true => exact ((checkNetworkConfig_valid work.regcomp checks).1 rfl).text member
  · intro texts
    have valid : config.Valid := fun a member => dottedQuad_iff.2 (texts a member)
    have checks : checkNetworkConfig answers config = .ok true := by
      rw [checkNetworkConfig, work.regcomp, work.pmatch, if_neg (by decide)]
      exact checkAddresses_ok valid
    have applied : (applyConfig config i answers h).2 = .ok := by
      obtain ⟨ip, ipText⟩ := texts config.ipAddr (by simp [checked])
      obtain ⟨mask, maskText⟩ := texts config.netmask (by simp [checked])
      obtain ⟨gw, gwText⟩ := texts config.gwAddr (by simp [checked])
      obtain ⟨addr, netmask, dstaddr, route⟩ := work.kernel
      unfold applyConfig
      rw [ipText, inetAton_text, maskText, inetAton_text, gwText, inetAton_text, addr, netmask, dstaddr, route]
      refine setDnsAddresses_works work [0, 1] (fun k _ => ?_) _
      by_cases absent : config.dnsAddr k = []
      · exact Or.inl absent
      · refine Or.inr (texts _ ?_)
        have two : k = 0 ∨ k = 1 := by omega
        rcases two with rfl | rfl
        · simp [checked]
        · simp [checked, absent]
    refine ⟨(applyConfig config i answers h).1, ?_⟩
    rw [osSetNetworkConfig, checks, Except.map, if_neg (by decide), ← applied]

def homeConfig : NetworkConfig where
  ipAddr := "192.168.1.10".toList
  netmask := "255.255.255.0".toList
  gwAddr := "192.168.1.1".toList
  dnsAddr i := if i = 0 then "8.8.8.8".toList else []
  macAddr := []

def newHost : Host := ⟨fun _ => ⟨0, 0, 0, fun _ => 0⟩, [], none⟩

def allWorks : SetAnswers := ⟨true, true, true, fun a => (a, a), true, true, true, fun _ => true, fun _ => true⟩

theorem homeConfig_valid : homeConfig.Valid := by
  have quads : ∀ a ∈ checked homeConfig, a ∈ ([⟨192, 168, 1, 10⟩, ⟨255, 255, 255, 0⟩, ⟨192, 168, 1, 1⟩, ⟨8, 8, 8, 8⟩] : List Quad).map Quad.text := by
    decide
  intro a member
  obtain ⟨q, -, text⟩ := List.mem_map.1 (quads a member)
  exact dottedQuad_iff.2 ⟨q, text.symm⟩

theorem allWorks_work : allWorks.Work := ⟨rfl, rfl, ⟨rfl, rfl, rfl, rfl⟩, fun _ => ⟨rfl, rfl⟩⟩

theorem set_accepts_homeConfig : ∃ h', osSetNetworkConfig homeConfig .wifi allWorks newHost = .ok (h', .ok) :=
  (set_accepts allWorks_work .wifi newHost).2 fun _ member => homeConfig_valid.text member

theorem homeConfig_set : ∃ h', step (.set homeConfig .wifi allWorks) newHost = .ok (h', .set .ok) := by
  have checks : checkNetworkConfig allWorks homeConfig = .ok true := checkAddresses_ok homeConfig_valid
  have applied : (applyConfig homeConfig .wifi allWorks newHost).2 = .ok := by decide +kernel
  have set : osSetNetworkConfig homeConfig .wifi allWorks newHost = .ok (applyConfig homeConfig .wifi allWorks newHost) := by
    rw [osSetNetworkConfig, checks, Except.map, if_neg (by decide)]
  refine ⟨(applyConfig homeConfig .wifi allWorks newHost).1, ?_⟩
  rw [step, set, Except.map, applied]

theorem get_tells_homeConfig :
    ∃ h' config, osGetNetworkConfig (some homeConfig) .wifi ⟨true, true, true, true, true⟩ h' = (some config, .ok) ∧
      config.ipAddr = "192.168.1.10".toList ∧ config.dnsAddr 1 = noAddress := by
  obtain ⟨h', set⟩ := homeConfig_set
  obtain ⟨tells, works, -⟩ := get_tells (.cons set (.nil h'))
  have known : Known.nothing.after [⟨newHost, .set homeConfig .wifi allWorks, h', .set .ok⟩] =
      ⟨Function.update (fun _ => none) .wifi (some homeConfig), some homeConfig.servers⟩ := by
    rw [Known.after, List.foldl_cons, List.foldl_nil, Known.next, if_pos ⟨rfl, homeConfig_valid⟩]
    rfl
  rw [known] at tells works
  have ok := works homeConfig .wifi _ rfl
  obtain ⟨config, got⟩ := osGetNetworkConfig_config homeConfig .wifi ⟨true, true, true, true, true⟩ h'
  have done : osGetNetworkConfig (some homeConfig) .wifi ⟨true, true, true, true, true⟩ h' = (some config, .ok) := Prod.ext got ok
  obtain ⟨addresses, servers⟩ := tells config homeConfig .wifi _ done
  exact ⟨h', config, done, (addresses homeConfig rfl).1, servers _ rfl 1⟩

end ArtikSdk.Network.Config
