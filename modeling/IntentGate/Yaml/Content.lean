import IntentGate.Yaml.Node
import IntentGate.Yaml.Typed

set_option autoImplicit false

namespace IntentGate.Yaml

open Json

mutual
-- How many marks a node takes: one for a scalar or an alias, two for a collection and those inside.
def Node.size : Node → Nat
  | .reference _ => 1
  | .scalar _ _ _ => 1
  | .sequence _ items => 2 + itemsSize items
  | .mapping _ entries => 2 + entriesSize entries

def itemsSize : List Node → Nat
  | [] => 0
  | n :: rest => n.size + itemsSize rest

def entriesSize : List (Node × Node) → Nat
  | [] => 0
  | (k, v) :: rest => k.size + v.size + entriesSize rest
end

def depthLimit : Nat := 128

abbrev Reach := StateT Nat Option

namespace Document

def size (d : Document) : Nat := (d.root.map Node.size).getD 1

def aliasLimit (d : Document) : Nat := 100 * d.size

def follow (d : Document) : Node → Reach Node
  | .reference number => do
    let count := (← get) + 1
    set count
    if d.aliasLimit < count then failure
    match d.anchors.target? number with
    | some target => return target
    | none => failure
  | n => return n

def key (d : Document) (n : Node) : Reach String := do
  match ← d.follow n with
  | .scalar _ s _ => return s
  | _ => failure

def value (d : Document) : (depth : Nat) → Node → Reach Value
  | 0, n => do
    match ← d.follow n with
    | .scalar tag s isPlain => scalarValue? tag s isPlain
    | _ => failure
  | depth + 1, n => do
    match ← d.follow n with
    | .reference _ => failure
    | .scalar tag s isPlain => scalarValue? tag s isPlain
    | .sequence tag items =>
      if tag.any isLocal then failure
      return .list (← items.mapM (d.value depth))
    | .mapping tag entries =>
      if tag.any isLocal then failure
      let fields ← entries.mapM fun e => return (← d.key e.1, ← d.value depth e.2)
      return .object (Keyed.ofList fields)

def isNothing (s : String) (isPlain : Bool) : Bool := isPlain && s.isEmpty

def list (d : Document) (depth : Nat) (n : Node) : Reach (List Value) := do
  match ← d.follow n with
  | .sequence _ items => items.mapM (d.value (depth - 1))
  | .scalar _ s isPlain => if isNothing s isPlain then return [] else failure
  | _ => failure

def isNamed (d : Document) (name : String) (entry : Node × Node) : Reach Bool := do
  return (← d.key entry.1) = name

def listNamed (d : Document) (name : String) : Reach (Option (List Value)) := do
  match d.root with
  | some (.mapping _ entries) =>
    match ← entries.filterM (d.isNamed name) with
    | [] => return none
    | [(_, n)] => return some (← d.list (depthLimit - 1) n)
    | _ => failure
  | some (.scalar _ s isPlain) => if isNothing s isPlain then return none else failure
  | some _ => failure
  | none => return none

def listNamed? (d : Document) (name : String) : Option (Option (List Value)) :=
  (d.listNamed name).run' 0

end Document

end IntentGate.Yaml
