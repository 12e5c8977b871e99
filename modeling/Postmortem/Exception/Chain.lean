import Postmortem.Exception.Category
import Postmortem.Exception.Record
import Postmortem.Object.Tree

/-!
# Exception chains

An exception can carry the exception that caused it, and so on. The chain is read from the printed
sections, outermost exception first, and completed by inspecting the exception objects; where the
text ends, the walk goes on from object to object. It ends at an address that it has seen before,
which is marked as a cycle, and at a given length.
-/

namespace Postmortem

/-- One exception of a chain; the outermost has depth zero. -/
structure ExceptionNode where
  depth : Nat
  typeName : Option String := none
  message : Option String := none
  hresult : Option String := none
  address : Option Address := none
  source : Option String := none
  category : ExceptionCategory := .unrecognized
  /-- Fields of the object that matter for its category. -/
  customFields : SortedMap String := ⟨[]⟩
  stackTrace : List String := []
  /-- Stands for an exception that occurs further out in the chain. -/
  isCycle : Bool := false
deriving DecidableEq, Repr, Inhabited

namespace ExceptionNode

/-- The node of a printed exception. -/
def ofRecord (record : ExceptionRecord) (depth : Nat) : ExceptionNode :=
  { depth
    typeName := record.typeName
    message := record.message
    hresult := record.hresult
    address := record.address
    category := .ofType? record.typeName
    stackTrace := record.stackTrace }

/-- The node that ends a chain which comes back to an address. -/
def cycleMarker (address : Address) (typeName : Option String) (depth : Nat) : ExceptionNode :=
  { depth
    typeName
    message := some s!"cycle: exception {address} already appears in the chain"
    address := some address
    category := .ofType? typeName
    isCycle := true }

/-- Fills what the text left open from the exception object. -/
def complete (node : ExceptionNode) (tree : ObjectTree) : ExceptionNode :=
  { node with
    message := node.message <|> tree.fieldText? "_message"
    source := node.source <|> tree.fieldText? "_source"
    hresult := node.hresult <|>
      (tree.fieldText? "_HResult").bind fun v => formatResultCode? .ten v.toList
    customFields := node.category.extraFields.foldl (fun fields name =>
      match tree.fieldText? name with
      | some value => fields.insert name value
      | none => fields) node.customFields }

end ExceptionNode

/-- A chain of exceptions. -/
structure ExceptionChain where
  outermost : ExceptionNode
  /-- The exceptions inside, from the outside in. -/
  inner : List ExceptionNode := []
deriving DecidableEq, Repr, Inhabited

namespace ExceptionChain

/-- All exceptions, outermost first. -/
def nodes (chain : ExceptionChain) : List ExceptionNode := chain.outermost :: chain.inner

/-- The innermost exception, which is usually the cause. -/
def innermost (chain : ExceptionChain) : ExceptionNode := chain.inner.getLastD chain.outermost

/-- Whether the chain comes back to one of its exceptions. -/
def hasCycle (chain : ExceptionChain) : Bool := chain.nodes.any ExceptionNode.isCycle

/-- The outermost exception that is a resolution failure. -/
def resolutionFailure? (chain : ExceptionChain) : Option ExceptionNode :=
  chain.nodes.find? (·.category.isResolutionFailure)

end ExceptionChain

/-- The address of the inner exception that an exception object holds. -/
def innerAddress? (tree : ObjectTree) : Option Address :=
  match tree.field? "_innerException" with
  | some (.object _ address _) => address
  | some (.primitive _ value) => (Address.parse? value).filter (·.value != 0)
  | _ => none

/-- How far a chain is walked. -/
structure ChainWalk where
  /-- The exceptions found, outermost first. -/
  nodes : List ExceptionNode := []
  /-- The inner exception that the last of them holds. -/
  next : Option Address := none
  /-- The addresses that must not occur again. -/
  visited : List Address := []
  /-- The addresses that were inspected, in order. -/
  inspected : List Address := []
  /-- The marker that ends the chain. -/
  cycle : Option ExceptionNode := none

namespace ChainWalk

variable (introspector : Introspector) (limits : InspectLimits) (maxDepth : Nat)

/-- Adds a node and what the inspection of its object shows. -/
def add (walk : ChainWalk) (node : ExceptionNode) (next : Option Address) (tree : ObjectTree) :
    ChainWalk :=
  if tree.isAvailable then
    { walk with nodes := walk.nodes ++ [node.complete tree], next := next <|> innerAddress? tree }
  else { walk with nodes := walk.nodes ++ [node], next }

/-- Inspects the object at an address. -/
def inspect (walk : ChainWalk) (address : Address) : ObjectTree × ChainWalk :=
  (introspector.inspectOrPlaceholder walk.inspected address limits,
    { walk with inspected := walk.inspected ++ [address] })

/-- Notes that an address must not occur again. -/
def visit (walk : ChainWalk) (address : Address) : ChainWalk :=
  { walk with visited := address :: walk.visited }

/-- Ends the chain at an address that it has seen before. -/
def endAt (walk : ChainWalk) (address : Address) (typeName : Option String) : ChainWalk :=
  { walk with cycle := some (.cycleMarker address typeName walk.nodes.length) }

/-- Adds a printed exception. -/
def addRecord (walk : ChainWalk) (record : ExceptionRecord) : ChainWalk :=
  let node := ExceptionNode.ofRecord record walk.nodes.length
  match record.address with
  | some address =>
    let (tree, walk) := (walk.visit address).inspect introspector limits address
    walk.add node record.innerAddress tree
  | none => { walk with nodes := walk.nodes ++ [node], next := record.innerAddress }

/-- Adds printed exceptions up to a cycle or the greatest length. -/
def addRecords : List ExceptionRecord → ChainWalk → ChainWalk
  | [], walk => walk
  | record :: records, walk =>
    if maxDepth ≤ walk.nodes.length then walk
    else
      match record.address.filter walk.visited.contains with
      | some address => walk.endAt address record.typeName
      | none => addRecords records (walk.addRecord introspector limits record)

/-- Follows inner exceptions through their objects for a number of steps. -/
def follow : Nat → ChainWalk → ChainWalk
  | 0, walk => walk
  | steps + 1, walk =>
    match walk.cycle, walk.next with
    | none, some address =>
      if walk.visited.contains address then walk.endAt address none
      else
        let (tree, walk) := (walk.visit address).inspect introspector limits address
        match tree with
        | .object typeName _ _ =>
          let record : ExceptionRecord := { address := some address, typeName := some typeName }
          follow steps (walk.add (.ofRecord record walk.nodes.length) none tree)
        | _ => walk
    | _, _ => walk

/-- Walks the chain of printed exceptions. The outermost one is always part of it. -/
def ofRecords : List ExceptionRecord → ChainWalk
  | [] => {}
  | root :: records =>
    let walk := addRecords introspector limits maxDepth records
      (addRecord introspector limits {} root)
    follow introspector limits (maxDepth - walk.nodes.length) walk

/-- Walks the chain in a printed text. -/
def ofText (text : String) : ChainWalk :=
  ofRecords introspector limits maxDepth
    ((nestedSections text).filterMap ExceptionRecord.ofListing?)

/-- The chain that was found. -/
def chain? (walk : ChainWalk) : Option ExceptionChain :=
  match walk.nodes ++ walk.cycle.toList with
  | [] => none
  | outermost :: inner => some { outermost, inner }

end ChainWalk

end Postmortem
