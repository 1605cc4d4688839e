import ArtikSdk.Lib.Alloc
import ArtikSdk.Base.Error

/-!
# Watching the online status

`linux_network.c`: the list of watch callbacks, and the handler of the netlink socket. The loop over
the list calls user code, which may add and remove watches; it is a procedure, one callback a
round. A batch is what one `recvmsg` returns, as the messages in it.
-/

namespace ArtikSdk.Network
open Lib

/-! ## The watches -/

/-- `watch_online_node_t`, whose handle is its address; the callback stands for its user data, too. `id` is
not in the source: a number that no other node ever has. -/
structure Node where
  id : Nat
  address : Nat
  callback : Nat
deriving DecidableEq

/-- `watch_online_status_t`. -/
structure Watch where
  root : List Node
  currentOnlineStatus : Bool
deriving DecidableEq

/-- `watch_online_status`, and how many nodes there have been. -/
structure State where
  watch : Option Watch
  count : Nat
deriving DecidableEq

inductive Fault where
  | nullPointer
  | freed
deriving DecidableEq

/-- The outcomes in `initialize_watch_online_status`: of the `malloc`, `socket` and `bind`, of
`artik_get_online_status`, and of the request for the loop module. -/
structure InitAnswers where
  malloc : Bool
  socket : Bool
  bind : Bool
  status : Except ArtikError Bool
  loop : Bool

/-- `initialize_watch_online_status`. -/
def initializeWatchOnlineStatus (answers : InitAnswers) : Except Fault (Except ArtikError Watch) :=
  if answers.malloc = false then .ok (.error .noMem)
  else if answers.socket = false ∨ answers.bind = false then .ok (.error .accessDenied)
  else
    match answers.status with
    | .error ret => .ok (.error ret)
    | .ok status =>
      -- `loop->add_fd_watch(...)`
      if answers.loop = false then .error .nullPointer else .ok (.ok ⟨[], status⟩)

/-- What a call of user code does to the watches. -/
inductive Op where
  | add (callback : Nat) (init : InitAnswers) (node : Malloc)
  | remove (handle : Nat) (loop : Bool)

/-- `artik_list_add(&(watch_online_status->root), 0, sizeof(watch_online_node_t))`. -/
def Watch.add (callback : Nat) (node : Malloc) (count : Nat) (w : Watch) : State × Option Nat :=
  match node.pick fun a => w.root.any fun n => n.address = a with
  | none => (⟨some w, count⟩, none)
  | some a => (⟨some { w with root := w.root ++ [⟨count, a, callback⟩] }, count + 1⟩, some a)

/-- `os_network_add_watch_online_status`: the error, or the handle. -/
def osNetworkAddWatchOnlineStatus (callback : Nat) (init : InitAnswers) (node : Malloc) (s : State) :
    Except Fault (State × Except ArtikError Nat) := do
  match s.watch with
  | some w =>
    let r := w.add callback node s.count
    return (r.1, r.2.elim (.error .noMem) .ok)
  | none =>
    match ← initializeWatchOnlineStatus init with
    | .error ret => return (s, .error ret)
    | .ok w =>
      let r := w.add callback node s.count
      return (r.1, r.2.elim (.error .noMem) .ok)

/-- `os_network_remove_watch_online_status`; whether there is a node with the handle is not looked at. -/
def osNetworkRemoveWatchOnlineStatus (handle : Nat) (loop : Bool) (s : State) : Except Fault (State × ArtikError) :=
  match s.watch with
  | none => .ok (s, .notInitialized)
  | some w =>
    let root := if handle = 0 then w.root else w.root.eraseP fun n => n.address = handle
    if root = [] then
      -- `loop->remove_fd_watch(...)`
      if loop = false then .error .nullPointer else .ok ({ s with watch := none }, .ok)
    else .ok ({ s with watch := some { w with root } }, .ok)

def Op.act (op : Op) (s : State) : Except Fault State :=
  match op with
  | .add callback init node => (osNetworkAddWatchOnlineStatus callback init node s).map Prod.fst
  | .remove handle loop => (osNetworkRemoveWatchOnlineStatus handle loop s).map Prod.fst

/-- What one callback does, call by call. -/
def act : List Op → State → Except Fault State
  | [], s => .ok s
  | op :: ops, s => do act ops (← op.act s)

/-! ## The notification -/

/-- The loop over the watches, in front of a callback: the state, the node that is next, and the calls
made, each with its node and its status. -/
structure Loop where
  state : State
  node : Node
  calls : List (Node × Bool)

/-- `node->node.next`: the elements behind a node, if it is in the list. -/
def behind (id : Nat) : List Node → Option (List Node)
  | [] => none
  | n :: ns => if n.id = id then some ns else behind id ns

/-- One round: the callback is called and does `ops`, then the node's link is followed. -/
def round (ops : List Op) (l : Loop) : Loop ⊕ Except Fault (State × List (Node × Bool)) :=
  match l.state.watch with
  | none => .inr (.error .freed)
  | some w =>
    match act ops l.state with
    | .error f => .inr (.error f)
    | .ok s =>
      let calls := l.calls ++ [(l.node, w.currentOnlineStatus)]
      match (s.watch.map Watch.root).bind (behind l.node.id) with
      | none => .inr (.error .freed)
      | some [] => .inr (.ok (s, calls))
      | some (node :: _) => .inl ⟨s, node, calls⟩

/-- The start of the loop, which does not look whether there is a node. -/
def enter (s : State) : Except Fault Loop :=
  match s.watch with
  | none => .error .nullPointer
  | some w =>
    match w.root with
    | [] => .error .nullPointer
    | node :: _ => .ok ⟨s, node, []⟩

/-! ## Messages -/

/-- `nlmsg_type`. -/
inductive NlmsgType where
  | done
  | error
  | newLink
  | delLink
  | newAddr
  | delAddr
  | newRoute
  | delRoute
  | other
deriving DecidableEq

/-- A netlink message; `up` is `IFF_UP` of a link message. -/
structure Message where
  type : NlmsgType
  up : Bool
deriving DecidableEq

/-- The loop over a batch, which computes `check_online_status`. -/
def scan (oldOnlineStatus : Bool) : Bool → List Message → Bool
  | checkOnlineStatus, [] => checkOnlineStatus
  | checkOnlineStatus, m :: ms =>
    match m.type with
    | .done | .error => checkOnlineStatus
    | .newLink | .delLink => scan oldOnlineStatus (if m.up then !oldOnlineStatus else oldOnlineStatus) ms
    | .newAddr | .newRoute => scan oldOnlineStatus (!oldOnlineStatus) ms
    | .delAddr | .delRoute => scan oldOnlineStatus oldOnlineStatus ms
    | .other => scan oldOnlineStatus checkOnlineStatus ms

/-- What the loop over the watches leaves when it ends: the list, or null where the last watch was removed,
and the calls it made, each with its node and its status. -/
abbrev Notify := Bool → List Node → Except Fault (Option (List Node) × List (Node × Bool))

/-- The loop with callbacks that leave the watches alone. -/
def passive : Notify := fun online root => if root = [] then .error .nullPointer else .ok (some root, root.map fun n => (n, online))

/-- What `network_connection` shows: whether it asked for the status, and the callbacks. -/
structure Output where
  checked : Bool
  calls : List (Node × Bool)
deriving DecidableEq

/-- `network_connection` on a batch; `status` is what `artik_get_online_status` finds, or `none` where it
fails. Once the last watch is removed, nothing is received. -/
def networkConnection (notify : Notify) (status : Option Bool) (batch : List Message) (watch : Option Watch) :
    Except Fault (Option Watch × Output) :=
  match watch with
  | none => .ok (none, ⟨false, []⟩)
  | some w =>
    if scan w.currentOnlineStatus false batch then
      match status with
      | none => .ok (some w, ⟨true, []⟩)
      | some online =>
        if online ≠ w.currentOnlineStatus then
          (notify online w.root).map fun r => (r.1.map fun root => ⟨root, online⟩, ⟨true, r.2⟩)
        else .ok (some w, ⟨true, []⟩)
    else .ok (some w, ⟨false, []⟩)

end ArtikSdk.Network
