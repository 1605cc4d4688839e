import ArtikSdk.Lib.Alloc
import ArtikSdk.Lib.Chain
import ArtikSdk.Base.Error

/-!
# The SDK's linked list

`artik_list.h` on an explicit heap. Handles, function pointers and data are addresses, and
null is `0`. A check function is asked about each element once in a call, so for that call it
is a function of the element; its parameter is part of it. A clear function gets the element
after it was unlinked: `onClear` is what it leaves of the element, and the list is not its.
-/

namespace ArtikSdk.ArtikList
open Lib

/-- `struct artik_list` without `next`. -/
structure Fields where
  clear : Nat
  handle : Nat
  sizeData : Nat
  data : Nat
deriving DecidableEq

/-- `sizeof(artik_list)`. -/
def sizeofNode : Nat := 40

/-- "The real size of the node": that of a structure which begins with an `artik_list`. -/
structure SizeOfNode where
  bytes : Nat
  header : sizeofNode ≤ bytes

/-- A call that disposes of an element: its clear function on it, or `free`. -/
inductive Disposal where
  | clear (fn elem : Nat)
  | free (p : Nat)
deriving DecidableEq

/-- The list variable, the nodes, and the disposals so far. -/
structure State where
  list : Nat
  heap : Heap Fields
  log : List Disposal

def State.init : State := ⟨0, Heap.empty, []⟩

/-- A clear function's effect on the element it is called on: function, element, its fields. -/
abbrev OnClear := Nat → Nat → Fields → Fields

/-- A check function with its parameter. -/
abbrev Check := Nat → Fields → Bool

/-! ## The loops -/

/-- `while (elem && !stop(elem)) { prev = elem; elem = elem->next; }` -/
def seek (stop : Check) (_ elem : Nat) (x : Fields) : Option Nat := if stop elem x then none else some elem

/-- `while (elem && pos > 0) { prev = elem; elem = elem->next; pos--; }` -/
def seekPos : Nat × UInt32 → Nat → Fields → Option (Nat × UInt32)
  | (_, pos), elem, _ => if pos > 0 then some (elem, pos - 1) else none

/-- `while (elem && !stop(elem)) elem = elem->next;` -/
def find (stop : Check) (_ : Unit) (elem : Nat) (x : Fields) : Option Unit := if stop elem x then none else some ()

/-- `while (elem && i++ < pos) elem = elem->next;` -/
def findPos (pos i : UInt32) (_ : Nat) (_ : Fields) : Option UInt32 := if i < pos then some (i + 1) else none

/-- `while (elem) { ++res; elem = elem->next; }` -/
def count (res : UInt32) (_ : Nat) (_ : Fields) : Option UInt32 := some (res + 1)

/-! ## The functions -/

def artikListAdd (handle : Nat) (sizeOfNode : SizeOfNode) (malloc : Malloc) (s : State) : Except Heap.Fault (Nat × State) := do
  let elem ← s.heap.last s.heap.live s.list
  let block := malloc.pick fun a => (s.heap.cell a).isSome
  let fresh (a : Nat) : Cell Fields := ⟨0, ⟨0, if handle ≠ 0 then handle else a, sizeOfNode.bytes - sizeofNode, 0⟩⟩
  if elem ≠ 0 then
    let heap ← s.heap.setNext elem (block.getD 0)
    match block with
    | none => return (0, { s with heap })
    | some a => return (a, { s with heap := heap.allocate a (fresh a) })
  else
    match block with
    | none => return (0, s)
    | some a => return (a, { s with list := a, heap := s.heap.allocate a (fresh a) })

/-- The end of every removal: the clear function, then the data and the node are freed. -/
def dispose (onClear : OnClear) (elem : Nat) (s : State) : Except Heap.Fault State := do
  let c ← s.heap.read elem
  let (fields, log) :=
    if c.item.clear ≠ 0 then (onClear c.item.clear elem c.item, s.log ++ [.clear c.item.clear elem])
    else (c.item, s.log)
  let log := if fields.data ≠ 0 then log ++ [.free fields.data] else log
  let heap ← s.heap.free elem
  return { s with heap, log := log ++ [.free elem] }

/-- What follows the loop in the four delete functions. -/
def deleteElem (onClear : OnClear) (prev elem : Nat) (s : State) : Except Heap.Fault (ArtikError × State) :=
  if elem = 0 then .ok (.badArgs, s)
  else do
    let c ← s.heap.read elem
    let heap ← if prev ≠ 0 then s.heap.setNext prev c.next else pure s.heap
    let c ← heap.read elem
    let list := if elem = s.list then c.next else s.list
    let s ← dispose onClear elem { s with list, heap }
    return (.ok, s)

def artikListSize (s : State) : Except Heap.Fault UInt32 := do
  let (res, _) ← s.heap.walk count s.heap.live 0 s.list
  return res

def artikListDeleteNode (onClear : OnClear) (node : Nat) (s : State) : Except Heap.Fault (ArtikError × State) :=
  if s.list = 0 ∨ node = 0 then .ok (.badArgs, s)
  else do
    let (prev, elem) ← s.heap.walk (seek fun a _ => a = node) s.heap.live 0 s.list
    deleteElem onClear prev elem s

def artikListDeleteHandle (onClear : OnClear) (handle : Nat) (s : State) : Except Heap.Fault (ArtikError × State) :=
  if s.list = 0 ∨ handle = 0 then .ok (.badArgs, s)
  else do
    let (prev, elem) ← s.heap.walk (seek fun _ x => x.handle = handle) s.heap.live 0 s.list
    deleteElem onClear prev elem s

def artikListDeletePos (onClear : OnClear) (pos : UInt32) (s : State) : Except Heap.Fault (ArtikError × State) := do
  if s.list = 0 then return (.badArgs, s)
  let size ← artikListSize s
  if pos ≥ size then return (.badArgs, s)
  let ((prev, _), elem) ← s.heap.walk seekPos s.heap.live (0, pos) s.list
  deleteElem onClear prev elem s

def artikListDeleteCheck (onClear : OnClear) (checkFunc : Option Check) (s : State) :
    Except Heap.Fault (ArtikError × State) :=
  match checkFunc with
  | none => .ok (.badArgs, s)
  | some check =>
    if s.list = 0 then .ok (.badArgs, s)
    else do
      let (prev, elem) ← s.heap.walk (seek check) s.heap.live 0 s.list
      deleteElem onClear prev elem s

/-- `while (*list) { ... }` of `artik_list_delete_all`. -/
def deleteAllLoop (onClear : OnClear) : Nat → State → Except Heap.Fault State
  | 0, s => if s.list = 0 then .ok s else .error .endless
  | fuel + 1, s =>
    if s.list = 0 then .ok s
    else do
      let c ← s.heap.read s.list
      let s ← dispose onClear s.list { s with list := c.next }
      deleteAllLoop onClear fuel s

def artikListDeleteAll (onClear : OnClear) (s : State) : Except Heap.Fault (ArtikError × State) :=
  if s.list = 0 then .ok (.badArgs, s)
  else do
    let s ← deleteAllLoop onClear s.heap.live s
    return (.ok, { s with list := 0 })

def artikListGetByHandle (handle : Nat) (s : State) : Except Heap.Fault Nat :=
  if s.list = 0 ∨ handle = 0 then .ok 0
  else do
    let (_, elem) ← s.heap.walk (find fun _ x => x.handle = handle) s.heap.live () s.list
    return elem

def artikListGetByPos (pos : UInt32) (s : State) : Except Heap.Fault Nat := do
  if s.list = 0 then return 0
  let size ← artikListSize s
  if pos ≥ size then return 0
  let (_, elem) ← s.heap.walk (findPos pos) s.heap.live 0 s.list
  return elem

def artikListGetByCheck (checkFunc : Option Check) (s : State) : Except Heap.Fault Nat :=
  match checkFunc with
  | none => .ok 0
  | some check =>
    if s.list = 0 then .ok 0
    else do
      let (_, elem) ← s.heap.walk (find check) s.heap.live () s.list
      return elem

def artikListEnd (s : State) : Except Heap.Fault Nat := s.heap.last s.heap.live s.list

/-- The owner of a node stores into its fields; the link and the size are not its. -/
def assign (node clear handle data : Nat) (s : State) : State :=
  match s.heap.cell node with
  | none => s
  | some c =>
    let item := { c.item with clear, handle, data }
    { s with heap := { s.heap with cell := Function.update s.heap.cell node (some { c with item }) } }

/-! ## Sequences of calls -/

/-- A call on the list, or a store by the owner of a node. -/
inductive Op where
  | add (handle : Nat) (sizeOfNode : SizeOfNode) (malloc : Malloc)
  | deleteNode (node : Nat)
  | deleteHandle (handle : Nat)
  | deletePos (pos : UInt32)
  | deleteCheck (checkFunc : Option Check)
  | deleteAll
  | size
  | getByHandle (handle : Nat)
  | getByPos (pos : UInt32)
  | getByCheck (checkFunc : Option Check)
  | listEnd
  | assign (node clear handle data : Nat)

/-- What a call returns. -/
inductive Ret where
  | node (a : Nat)
  | code (e : ArtikError)
  | size (n : Nat)
  | none
deriving DecidableEq

def step (onClear : OnClear) (op : Op) (s : State) : Except Heap.Fault (State × Ret) :=
  match op with
  | .add handle sizeOfNode malloc => return (fun r => (r.2, .node r.1)) (← artikListAdd handle sizeOfNode malloc s)
  | .deleteNode node => return (fun r => (r.2, .code r.1)) (← artikListDeleteNode onClear node s)
  | .deleteHandle handle => return (fun r => (r.2, .code r.1)) (← artikListDeleteHandle onClear handle s)
  | .deletePos pos => return (fun r => (r.2, .code r.1)) (← artikListDeletePos onClear pos s)
  | .deleteCheck checkFunc => return (fun r => (r.2, .code r.1)) (← artikListDeleteCheck onClear checkFunc s)
  | .deleteAll => return (fun r => (r.2, .code r.1)) (← artikListDeleteAll onClear s)
  | .size => return (s, .size (← artikListSize s).toNat)
  | .getByHandle handle => return (s, .node (← artikListGetByHandle handle s))
  | .getByPos pos => return (s, .node (← artikListGetByPos pos s))
  | .getByCheck checkFunc => return (s, .node (← artikListGetByCheck checkFunc s))
  | .listEnd => return (s, .node (← artikListEnd s))
  | .assign node clear handle data => return (ArtikList.assign node clear handle data s, .none)

end ArtikSdk.ArtikList
