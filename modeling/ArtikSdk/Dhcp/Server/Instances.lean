import ArtikSdk.Dhcp.Server.Isolation

/-!
# DHCP server: several servers in one process

`os_dhcp_server_start` gives every server a handle of its own, but there is one `g_state`,
which every start overwrites. `Process` is that process; a server keeps to itself as
long as no datagram reaches the first one after the second has been started.
-/

namespace ArtikSdk.Dhcp.Server
open Lib

/-- What the calls of one `os_dhcp_server_start` come to; `openlistener` is the address
read from the interface, or nothing where no listener can be opened. -/
structure StartWorld where
  delAllroutesInterface : Interface → Bool
  setIpv4addr : Interface → Addr → Bool
  setIpv4netmask : Interface → Addr → Bool
  setDripv4addr : Interface → Addr → Bool
  setDefaultroute : Interface → Addr → Bool
  openlistener : Interface → Option Addr

/-- `artik_error`, as `os_dhcp_server_start` returns it for a handle and a configuration. -/
inductive StartResult where
  | ok
  | networkError
deriving DecidableEq

/-- The process: the one `g_state`, and the servers started, each with its handle. -/
structure Process where
  g : State
  servers : List Handle

/-- Nothing started: static storage is zeroed. -/
def Process.empty : Process := ⟨⟨0, fun _ => 0, fun _ => 0, Options.default, none, []⟩, []⟩

/-- `check_dhcp_server_config`; `regexec` matches a dotted quad. The second DNS address
may be missing. -/
def checkDhcpServerConfig (regexec : List Char → Bool) (config : ServerConfig) : Bool :=
  regexec config.ipAddr && regexec config.netmask && regexec config.gwAddr && regexec (config.dnsAddr.getD 0 []) &&
    (config.dnsAddr.getD 1 [] == [] || regexec (config.dnsAddr.getD 1 [])) && regexec config.startAddr

section

variable (regexec : List Char → Bool) (inetAddr : List Char → Addr)

/-- `os_dhcp_server_start`. A listener that cannot be opened is only logged. -/
def osDhcpServerStart (config : ServerConfig) (os : StartWorld) (p : Process) : StartResult × Process :=
  let device := config.interface
  if checkDhcpServerConfig regexec config = false then (.networkError, p)
  else if os.delAllroutesInterface device = false then (.networkError, p)
  else if os.setIpv4addr device (inetAddr config.ipAddr) = false then (.networkError, p)
  else if os.setIpv4netmask device (inetAddr config.netmask) = false then (.networkError, p)
  else if os.setDripv4addr device (inetAddr config.gwAddr) = false then (.networkError, p)
  else if os.setDefaultroute device 0 = false then (.networkError, p)
  else
    let (server, g) := dhcpdRun inetAddr config ((os.openlistener device).getD 0)
    (.ok, ⟨g, p.servers ++ [server]⟩)

/-- What happens to the process: a start, or a datagram at the socket of a server. -/
inductive Event where
  | start (config : ServerConfig) (os : StartWorld)
  | datagram (server : Nat) (w : World)

/-- What is seen of an event: the result of a start, or the table and packets of a call. -/
inductive Seen where
  | started (r : StartResult)
  | handled (server : Nat) (change : List Lease × List Sent)
  | nowhere

/-- One event. The watch of a server passes its handle to `loop_handler`. -/
def Process.step (fuel : Nat) : Event → Process → Except Fault (Process × Seen)
  | .start config os, p =>
    let (r, p') := osDhcpServerStart regexec inetAddr config os p
    .ok (p', .started r)
  | .datagram i w, p =>
    match p.servers[i]? with
    | none => .ok (p, .nowhere)
    | some server =>
      match loopHandler fuel server w p.g with
      | .ok (g, ps) => .ok (⟨g, p.servers⟩, .handled i (change g ps))
      | .error e => .error e

/-! ## Two servers -/

/-- The sockets of the first and the second server. -/
inductive Socket where
  | first
  | second
deriving DecidableEq

/-- The position of a server among those started. -/
def Socket.index : Socket → Nat
  | .first => 0
  | .second => 1

/-- Two servers are started, and datagrams arrive at their sockets in any order. -/
structure Session where
  first : ServerConfig
  osFirst : StartWorld
  second : ServerConfig
  osSecond : StartWorld
  before : List World
  after : List (Socket × World)

namespace Session

variable (s : Session)

def events : List Event :=
  .start s.first s.osFirst :: (s.before.map (.datagram 0) ++
    .start s.second s.osSecond :: s.after.map fun d => .datagram d.1.index d.2)

/-- The datagrams of one server. -/
def own : Socket → List World
  | .first => s.before ++ (s.after.filter (·.1 = .first)).map Prod.snd
  | .second => (s.after.filter (·.1 = .second)).map Prod.snd

/-- A server as `dhcpd_run` leaves it. -/
def run (inetAddr : List Char → Addr) : Socket → Handle × State
  | .first => dhcpdRun inetAddr s.first ((s.osFirst.openlistener s.first.interface).getD 0)
  | .second => dhcpdRun inetAddr s.second ((s.osSecond.openlistener s.second.interface).getD 0)

/-- What a server does with its own datagrams, running alone. -/
def alone (inetAddr : List Char → Addr) (fuel : Nat) (socket : Socket) : Except Fault (List (List Lease × List Sent)) :=
  seen change (exec (loopHandler fuel (s.run inetAddr socket).1) (s.own socket) (s.run inetAddr socket).2)

/-- `os_dhcp_server_start` has started both. -/
structure Started (regexec : List Char → Bool) (inetAddr : List Char → Addr) : Prop where
  first : (osDhcpServerStart regexec inetAddr s.first s.osFirst Process.empty).1 = .ok
  second : (osDhcpServerStart regexec inetAddr s.second s.osSecond Process.empty).1 = .ok

/-- The calls of one server, as they are seen. -/
def calls (cs : List (Call Event Process Seen)) (socket : Socket) : List (List Lease × List Sent) :=
  cs.filterMap fun c =>
    match c.output with
    | .handled i change => if i = socket.index then some change else none
    | _ => none

/-- Each server does what it does alone, on a table of its own size; where the process
faults, so does a server alone. -/
structure Isolated (regexec : List Char → Bool) (inetAddr : List Char → Addr) (fuel : Nat) : Prop where
  runs : ∀ {cs : List (Call Event Process Seen)} {p : Process},
    exec (Process.step regexec inetAddr fuel) s.events Process.empty = .ok (cs, p) →
      ∀ socket, s.alone inetAddr fuel socket = .ok (calls cs socket)
  within : ∀ {cs : List (Call Event Process Seen)} {p : Process},
    exec (Process.step regexec inetAddr fuel) s.events Process.empty = .ok (cs, p) →
      ∀ c ∈ cs, ∀ i w server, c.input = .datagram i w → c.before.servers[i]? = some server → Sized server c.before.g
  faults : ∀ {e : Fault}, exec (Process.step regexec inetAddr fuel) s.events Process.empty = .error e →
    ∃ socket, s.alone inetAddr fuel socket = .error e

end Session

/-- A call of one server, as an event of the process. -/
def inProcess (servers : List Handle) (i : Nat) (c : Call World State (List Sent)) : Call Event Process Seen :=
  ⟨⟨c.before, servers⟩, .datagram i c.input, ⟨c.after, servers⟩, .handled i (change c.after c.output)⟩

/-- As long as the datagrams of one server arrive, it runs as it does alone. -/
theorem exec_datagrams {fuel i : Nat} (server : Handle) (ws : List World) {p : Process} (here : p.servers[i]? = some server) :
    exec (Process.step regexec inetAddr fuel) (ws.map (.datagram i)) p =
      match exec (loopHandler fuel server) ws p.g with
      | .error e => .error e
      | .ok (cs, g) => .ok (cs.map (inProcess p.servers i), ⟨g, p.servers⟩) := by
  induction ws generalizing p with
  | nil => rfl
  | cons w ws ih =>
    rw [List.map_cons, exec, exec, Process.step, here]
    dsimp only
    cases loopHandler fuel server w p.g with
    | error e => rfl
    | ok r =>
      dsimp only
      rw [ih (p := ⟨r.1, p.servers⟩) here]
      dsimp only
      cases exec (loopHandler fuel server) ws r.1 <;> rfl

/-- A start that succeeds overwrites `g_state`, whatever it was. -/
theorem start_ok {config : ServerConfig} {os : StartWorld} {p : Process}
    (started : (osDhcpServerStart regexec inetAddr config os p).1 = .ok) (q : Process) :
    osDhcpServerStart regexec inetAddr config os q =
      (.ok, ⟨(dhcpdRun inetAddr config ((os.openlistener config.interface).getD 0)).2,
        q.servers ++ [(dhcpdRun inetAddr config ((os.openlistener config.interface).getD 0)).1]⟩) := by
  unfold osDhcpServerStart at started ⊢
  dsimp only at started ⊢
  split at started
  · cases started
  split at started
  · cases started
  split at started
  · cases started
  split at started
  · cases started
  split at started
  · cases started
  split at started
  · cases started
  · rename_i h₁ h₂ h₃ h₄ h₅ h₆
    rw [if_neg h₁, if_neg h₂, if_neg h₃, if_neg h₄, if_neg h₅, if_neg h₆]

/-- The calls of a server, as the process shows them. -/
theorem calls_inProcess (servers : List Handle) (i : Nat) (cs : List (Call World State (List Sent))) (socket : Socket) :
    Session.calls (cs.map (inProcess servers i)) socket =
      if i = socket.index then cs.map (fun c => change c.after c.output) else [] := by
  unfold Session.calls
  rw [List.filterMap_map]
  split
  · rename_i own
    rw [← List.filterMap_eq_map]
    congr 1
    funext c
    simp [inProcess, own]
  · rename_i other
    rw [List.filterMap_eq_nil_iff]
    intro c _
    simp [inProcess, other]

theorem calls_append (cs ds : List (Call Event Process Seen)) (socket : Socket) :
    Session.calls (cs ++ ds) socket = Session.calls cs socket ++ Session.calls ds socket := by
  simp [Session.calls]

/-- The process of a session whose first server is left alone after the second start. -/
theorem exec_events (fuel : Nat) {s : Session} (started : s.Started regexec inetAddr) (retired : ∀ d ∈ s.after, d.1 = .second) :
    exec (Process.step regexec inetAddr fuel) s.events Process.empty =
      match exec (loopHandler fuel (s.run inetAddr .first).1) s.before (s.run inetAddr .first).2 with
      | .error e => .error e
      | .ok (cs, g) =>
        match exec (loopHandler fuel (s.run inetAddr .second).1) (s.after.map Prod.snd) (s.run inetAddr .second).2 with
        | .error e => .error e
        | .ok (ds, g') =>
          let one := [(s.run inetAddr .first).1]
          let two := [(s.run inetAddr .first).1, (s.run inetAddr .second).1]
          .ok (⟨Process.empty, .start s.first s.osFirst, ⟨(s.run inetAddr .first).2, one⟩, .started .ok⟩ ::
            (cs.map (inProcess one 0) ++
              ⟨⟨g, one⟩, .start s.second s.osSecond, ⟨(s.run inetAddr .second).2, two⟩, .started .ok⟩ ::
                ds.map (inProcess two 1)), ⟨g', two⟩) := by
  have datagrams : (s.after.map fun d => Event.datagram d.1.index d.2) = (s.after.map Prod.snd).map (.datagram 1) := by
    rw [List.map_map]
    refine List.map_congr_left fun d member => ?_
    rw [retired d member]
    rfl
  rw [Session.events, exec, Process.step, start_ok regexec inetAddr started.first Process.empty]
  dsimp only [Process.empty, List.nil_append]
  rw [exec_append, exec_datagrams regexec inetAddr (s.run inetAddr .first).1 s.before rfl, Session.run]
  dsimp only
  cases exec (loopHandler fuel _) s.before _ with
  | error e => rfl
  | ok r =>
    dsimp only
    rw [exec, Process.step, start_ok regexec inetAddr started.second, datagrams]
    dsimp only [List.cons_append, List.nil_append]
    rw [exec_datagrams regexec inetAddr (s.run inetAddr .second).1 (s.after.map Prod.snd) rfl, Session.run]
    dsimp only
    cases exec (loopHandler fuel _) (s.after.map Prod.snd) _ <;> rfl

theorem own_first {s : Session} (retired : ∀ d ∈ s.after, d.1 = .second) : s.own .first = s.before := by
  have none_left : s.after.filter (·.1 = .first) = [] := by
    refine List.filter_eq_nil_iff.2 fun d member => ?_
    simp [retired d member]
  rw [Session.own, none_left, List.map_nil, List.append_nil]

theorem own_second {s : Session} (retired : ∀ d ∈ s.after, d.1 = .second) : s.own .second = s.after.map Prod.snd := by
  have all_left : s.after.filter (·.1 = .second) = s.after := by
    refine List.filter_eq_self.2 fun d member => ?_
    simp [retired d member]
  rw [Session.own, all_left]

/-- A server alone finds a table of its own size at every datagram. -/
theorem sized_alone {fuel : Nat} {server : Handle} {serverip : Addr} {ws : List World} {cs : List (Call World State (List Sent))}
    {g : State} (result : exec (loopHandler fuel server) ws (State.boot server serverip) = .ok (cs, g)) :
    ∀ c ∈ cs, Sized server c.before := fun _ member =>
  ((exec_run result).1.invariant_before (boot_sized server serverip) (fun _ _ _ _ sized answered => loopHandler_sized sized answered)
    member).1

end

/-! ## Concrete sessions -/

/-- The numbers of a dotted quad. -/
def quad (a : List Char) : Option (List Nat) :=
  let ns := (a.splitOn '.').map fun digits => digits.foldl (fun n c => 10 * n + (c.toNat - '0'.toNat)) 0
  if ns.length = 4 ∧ ∀ n ∈ ns, n < 256 then some ns else none

/-- `regexec` and `inet_addr` on the addresses below. -/
def isQuad (a : List Char) : Bool := (quad a).isSome
def quadAddr (a : List Char) : Addr := ((quad a).getD [255, 255, 255, 255]).foldr (fun n addr => addr <<< 8 ||| BitVec.ofNat 32 n) 0

def wifiConfig : ServerConfig where
  interface := .wifi
  ipAddr := "192.168.1.1".toList
  netmask := "255.255.255.0".toList
  gwAddr := "192.168.1.1".toList
  dnsAddr := ["8.8.8.8".toList, []]
  startAddr := "192.168.1.100".toList
  numLeases := 1
  dns_length := rfl

def ethernetConfig : ServerConfig where
  interface := .ethernet
  ipAddr := "192.168.2.1".toList
  netmask := "255.255.255.0".toList
  gwAddr := "192.168.2.1".toList
  dnsAddr := ["8.8.8.8".toList, []]
  startAddr := "192.168.2.50".toList
  numLeases := 1
  dns_length := rfl

/-- Every call of a start succeeds, and the interface has its address. -/
def opens (config : ServerConfig) : StartWorld :=
  ⟨fun _ => true, fun _ _ => true, fun _ _ => true, fun _ _ => true, fun _ _ => true, fun _ => some (quadAddr config.ipAddr)⟩

/-- A client takes the address of the WiFi server before the Ethernet server is started. -/
def wifiThenEthernet (after : List (Socket × World)) : Session where
  first := wifiConfig
  osFirst := opens wifiConfig
  second := ethernetConfig
  osSecond := opens ethernetConfig
  before := [receives 0 firstMac discoverOptions, receives 1 firstMac requestOptions]
  after := after

theorem wifi_started : (osDhcpServerStart isQuad quadAddr wifiConfig (opens wifiConfig) Process.empty).1 = .ok := by
  decide +kernel

theorem ethernet_started :
    (osDhcpServerStart isQuad quadAddr ethernetConfig (opens ethernetConfig) Process.empty).1 = .ok := by
  decide +kernel

theorem wifiThenEthernet_started (after : List (Socket × World)) : (wifiThenEthernet after).Started isQuad quadAddr :=
  ⟨wifi_started, ethernet_started⟩

end ArtikSdk.Dhcp.Server
