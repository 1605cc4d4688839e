import ArtikSdk.Base.ArtikList

/-!
# The module registry

`linux_module.c`: one node in `requested_node` for each successful request. The nodes of one
module share the handle of its library, the symbol and the copy of its name. The node is in
the list before the library is opened.
-/

namespace ArtikSdk.Module
open Lib

/-- `artik_api_module`, without the id that nothing here reads. -/
structure ApiModule where
  name : List Char
  object : List Char
deriving DecidableEq

def base : List Char := ['b', 'a', 's', 'e']
def systemio : List Char := ['s', 'y', 's', 't', 'e', 'm', 'i', 'o']
def connectivity : List Char := ['c', 'o', 'n', 'n', 'e', 'c', 't', 'i', 'v', 'i', 't', 'y']
def wifi : List Char := ['w', 'i', 'f', 'i']
def media : List Char := ['m', 'e', 'd', 'i', 'a']
def bluetooth : List Char := ['b', 'l', 'u', 'e', 't', 'o', 'o', 't', 'h']
def sensor : List Char := ['s', 'e', 'n', 's', 'o', 'r']
def zigbee : List Char := ['z', 'i', 'g', 'b', 'e', 'e']
def lwm2m : List Char := ['l', 'w', 'm', '2', 'm']
def mqtt : List Char := ['m', 'q', 't', 't']

/-- The modules of a platform: the five tables have the same entries. -/
def artikApiModules : List ApiModule :=
  [⟨['l', 'o', 'g'], base⟩,
    ⟨['l', 'o', 'o', 'p'], base⟩,
    ⟨['g', 'p', 'i', 'o'], systemio⟩,
    ⟨['i', '2', 'c'], systemio⟩,
    ⟨['s', 'e', 'r', 'i', 'a', 'l'], systemio⟩,
    ⟨['p', 'w', 'm'], systemio⟩,
    ⟨['a', 'd', 'c'], systemio⟩,
    ⟨['h', 't', 't', 'p'], connectivity⟩,
    ⟨['c', 'l', 'o', 'u', 'd'], connectivity⟩,
    ⟨['w', 'i', 'f', 'i'], wifi⟩,
    ⟨['m', 'e', 'd', 'i', 'a'], media⟩,
    ⟨['t', 'i', 'm', 'e'], base⟩,
    ⟨['s', 'e', 'c', 'u', 'r', 'i', 't', 'y'], connectivity⟩,
    ⟨['s', 'p', 'i'], systemio⟩,
    ⟨['b', 'l', 'u', 'e', 't', 'o', 'o', 't', 'h'], bluetooth⟩,
    ⟨['s', 'e', 'n', 's', 'o', 'r'], sensor⟩,
    ⟨['z', 'i', 'g', 'b', 'e', 'e'], zigbee⟩,
    ⟨['n', 'e', 't', 'w', 'o', 'r', 'k'], connectivity⟩,
    ⟨['w', 'e', 'b', 's', 'o', 'c', 'k', 'e', 't'], connectivity⟩,
    ⟨['l', 'w', 'm', '2', 'm'], lwm2m⟩,
    ⟨['m', 'q', 't', 't'], mqtt⟩]

/-- `MAX_MODULE_NAME` -/
def maxModuleName : Nat := 32

/-- An ops table: its address, and its first word. -/
structure Ops where
  address : Nat
  word : Nat
deriving DecidableEq

def Ops.null : Ops := ⟨0, 0⟩

/-- `artik_module_info` -/
structure Info where
  moduleName : Nat
  dlHandle : Nat
  dlSymbol : Ops
deriving DecidableEq

def Info.zero : Info := ⟨0, 0, .null⟩

/-- The list, what its nodes hold behind the list's own fields, and the strings. -/
structure State where
  requestedNode : ArtikList.State
  info : Nat → Info
  text : Nat → Option (List Char)

def State.init : State := ⟨.init, fun _ => .zero, fun _ => none⟩

inductive Fault where
  | heap (f : Heap.Fault)
  | nullPointer
  | notAllocated
deriving DecidableEq

/-- What a request can return; `INVALID_MODULE` is not null. -/
inductive Result where
  | invalidModule
  | pointer (ops : Ops)
  | code (e : ArtikError)
deriving DecidableEq

/-- A call of the dynamic linker that succeeds. -/
inductive DlCall where
  | dlopen (handle : Nat)
  | dlclose (handle : Nat)
deriving DecidableEq

structure Output where
  result : Result
  dl : List DlCall
deriving DecidableEq

/-- The outcomes in a request: of the list's `malloc`, of that for the name, of `dlopen` on a
path (null is `0`) and of `dlsym` (`none` when `dlerror` reports one). -/
structure World where
  node : Malloc
  moduleName : Malloc
  dlopen : List Char → Nat
  dlsym : Nat → List Char → Option Ops

/-- `LIB_VERSION_MAJOR`, `LIB_VERSION_MINOR`, `LIB_VERSION_PATCH` -/
structure Version where
  major : Nat
  minor : Nat
  patch : Nat

/-- `PATH_STRING` -/
def pathString (v : Version) (object : List Char) : List Char :=
  "libartik-sdk-".toList ++ object ++ ".so.".toList ++ (toString v.major).toList ++ '.' :: (toString v.minor).toList ++
    '.' :: (toString v.patch).toList

/-- `MODULE_STRING` -/
def moduleString (name : List Char) : List Char := name ++ "_module".toList

/-- `sizeof(artik_module_node)` -/
def moduleNode : ArtikList.SizeOfNode := ⟨ArtikList.sizeofNode + 24, Nat.le_add_right _ _⟩

/-! ## Comparing -/

/-- A check that reads through a pointer of the node: whether it can, and what it finds. -/
structure Comparison where
  readable : Info → Bool
  equal : Info → Bool

/-- `strncmp(node->info.module_name, target, strlen(target)) == 0` -/
def artikCompareModuleName (text : Nat → Option (List Char)) (target : List Char) : Comparison where
  readable i := (text i.moduleName).isSome
  equal i := target.isPrefixOf ((text i.moduleName).getD [])

/-- `memcmp(node->info.dl_symbol, target, sizeof(void *)) == 0`; `none` is null, or a table
that is not mapped. -/
def artikCompareModuleOps (target : Option Ops) : Comparison where
  readable i := i.dlSymbol.address ≠ 0 && target.isSome
  equal i := i.dlSymbol.word = (target.getD .null).word

/-- Where the list's loops stop: at the element found, or at one that the check cannot read. -/
def Comparison.stop (c : Comparison) (info : Nat → Info) : ArtikList.Check :=
  fun node _ => !c.readable (info node) || c.equal (info node)

def getByCheck (c : Comparison) (s : State) : Except Fault Nat :=
  match ArtikList.artikListGetByCheck (some (c.stop s.info)) s.requestedNode with
  | .error f => .error (.heap f)
  | .ok node => if node ≠ 0 ∧ c.readable (s.info node) = false then .error .nullPointer else .ok node

/-! ## The two functions -/

/-- From the label `exit` on. -/
def finishRequest (name : List Char) (w : World) (node moduleName dlHandle : Nat) (dlSymbol : Ops) (dl : List DlCall) (s : State) :
    State × Output :=
  if moduleName = 0 then
    match w.moduleName.pick fun a => (s.text a).isSome with
    | none => (s, ⟨.invalidModule, dl⟩)
    | some a =>
      ({ s with text := Function.update s.text a (some name), info := Function.update s.info node ⟨a, dlHandle, dlSymbol⟩ },
        ⟨.pointer dlSymbol, dl⟩)
  else ({ s with info := Function.update s.info node ⟨moduleName, dlHandle, dlSymbol⟩ }, ⟨.pointer dlSymbol, dl⟩)

def openLibrary (v : Version) (m : ApiModule) (name : List Char) (w : World) (node moduleName : Nat) (s : State) : State × Output :=
  let dlHandle := w.dlopen (pathString v m.object)
  if dlHandle = 0 then (s, ⟨.invalidModule, []⟩)
  else
    match w.dlsym dlHandle (moduleString name) with
    | none => (s, ⟨.invalidModule, [.dlopen dlHandle]⟩)
    | some dlSymbol => finishRequest name w node moduleName dlHandle dlSymbol [.dlopen dlHandle] s

def osRequestApiModule (v : Version) (name : Option (List Char)) (w : World) (s : State) : Except Fault (State × Output) :=
  match name with
  | none => .ok (s, ⟨.invalidModule, []⟩)
  | some name =>
    match artikApiModules.find? fun m => m.name.take maxModuleName = name.take maxModuleName with
    | none => .ok (s, ⟨.pointer .null, []⟩)
    | some m =>
      match getByCheck (artikCompareModuleName s.text name) s with
      | .error f => .error f
      | .ok node =>
        let known := if node ≠ 0 then s.info node else .zero
        match ArtikList.artikListAdd 0 moduleNode w.node s.requestedNode with
        | .error f => .error (.heap f)
        | .ok (node, list) =>
          if node = 0 then .ok ({ s with requestedNode := list }, ⟨.invalidModule, []⟩)
          else
            let s := { s with requestedNode := list, info := Function.update s.info node .zero }
            if known.dlHandle ≠ 0 then
              .ok (finishRequest name w node known.moduleName known.dlHandle known.dlSymbol [] s)
            else .ok (openLibrary v m name w node known.moduleName s)

/-- `free(module_name)` -/
def freeText (p : Nat) (s : State) : Except Fault State :=
  if p = 0 then .ok s
  else if (s.text p).isSome then .ok { s with text := Function.update s.text p none }
  else .error .notAllocated

/-- The nodes have no clear function. -/
def noClear : ArtikList.OnClear := fun _ _ x => x

/-- What follows the removal of a node that held `info`. -/
def closeUnused (module : Option Ops) (info : Info) (s : State) : Except Fault (State × Output) :=
  match getByCheck (artikCompareModuleOps module) s with
  | .error f => .error f
  | .ok node =>
    if node = 0 then
      match freeText info.moduleName s with
      | .error f => .error f
      | .ok s => .ok (s, ⟨.code .ok, [.dlclose info.dlHandle]⟩)
    else .ok (s, ⟨.code .ok, []⟩)

def osReleaseApiModule (module : Option Ops) (s : State) : Except Fault (State × Output) :=
  match getByCheck (artikCompareModuleOps module) s with
  | .error f => .error f
  | .ok node =>
    if node = 0 then .ok (s, ⟨.code .badArgs, []⟩)
    else
      match ArtikList.artikListDeleteCheck noClear (some ((artikCompareModuleOps module).stop s.info)) s.requestedNode with
      | .error f => .error (.heap f)
      | .ok (ret, list) =>
        if ret ≠ .ok then .ok ({ s with requestedNode := list }, ⟨.code ret, []⟩)
        else closeUnused module (s.info node) { s with requestedNode := list }

inductive Input where
  | request (name : Option (List Char)) (world : World)
  | release (module : Option Ops)

def step (v : Version) (input : Input) (s : State) : Except Fault (State × Output) :=
  match input with
  | .request name world => osRequestApiModule v name world s
  | .release module => osReleaseApiModule module s

end ArtikSdk.Module
