import IntentGate.Yaml.Token

set_option autoImplicit false

namespace IntentGate.Yaml

inductive Node where
  | reference (number : Nat)
  | scalar (tag : Option String) (text : String) (isPlain : Bool)
  | sequence (tag : Option String) (items : List Node)
  | mapping (tag : Option String) (entries : List (Node × Node))
deriving Inhabited

-- The anchors of a document. A name is numbered when it is given to a node, by how many other names
-- there are so far; names that share a number stand for the node that got it last. `owners` tells the node
-- of each number by its place among the anchored nodes, and `nodes` holds those that are complete.
structure Anchors where
  names : List (String × Nat) := []
  owners : List (Nat × Nat) := []
  count : Nat := 0
  nodes : List (Nat × Node) := []

def Anchors.define (name : String) (a : Anchors) : Nat × Anchors :=
  let number := a.names.length
  let names := (name, number) :: a.names.filter (·.1 ≠ name)
  (a.count, { a with names, owners := (number, a.count) :: a.owners, count := a.count + 1 })

def Anchors.complete (place : Nat) (node : Node) (a : Anchors) : Anchors :=
  { a with nodes := (place, node) :: a.nodes }

def Anchors.target? (a : Anchors) (number : Nat) : Option Node := do
  a.nodes.lookup (← a.owners.lookup number)

def tagPrefixes : List (List Char × List Char) :=
  [(['!'], ['!']), (['!', '!'], "tag:yaml.org,2002:".toList)]

structure Reading where
  tokens : List Token
  handles : List (List Char × List Char) := tagPrefixes
  anchors : Anchors := {}

abbrev Reader := StateT Reading Option

namespace Reader

def peek : Reader Token := do
  match (← get).tokens with
  | t :: _ => return t
  | [] => failure

def advance : Reader Unit := modify fun r => { r with tokens := r.tokens.drop 1 }

def resolve (t : WrittenTag) : Reader String := do
  if t.handle.isEmpty then return String.ofList t.rest
  else
    match (← get).handles.lookup t.handle with
    | some start => return String.ofList (start ++ t.rest)
    | none => failure

def anchor? : Reader (Option Nat) := do
  match ← peek with
  | .anchor name =>
    advance
    let r ← get
    let (place, anchors) := r.anchors.define (String.ofList name)
    set { r with anchors }
    return some place
  | _ => return none

def tag? : Reader (Option String) := do
  match ← peek with
  | .tag t =>
    advance
    return some (← resolve t)
  | _ => return none

def properties : Reader (Option Nat × Option String) := do
  let first ← anchor?
  let tag ← tag?
  if first.isNone && tag.isSome then return (← anchor?, tag) else return (first, tag)

def nothing : Node := .scalar none "" true

def Token.endsItem : Token → Bool
  | .item | .blockEnd => true
  | _ => false

def Token.endsField : Token → Bool
  | .key | .value | .blockEnd => true
  | _ => false

def Token.endsBareItem : Token → Bool
  | .item => true
  | t => Token.endsField t

def Token.endsFlowItem : Token → Bool
  | .comma | .flowSequenceEnd => true
  | _ => false

def Token.endsFlowField : Token → Bool
  | .comma | .flowMappingEnd => true
  | _ => false

def Token.isValue : Token → Bool
  | .value => true
  | _ => false

-- Where a node may stand: among the lines of a block or between brackets. A field of a block mapping
-- may be a sequence that is not indented.
inductive Context where
  | block
  | field
  | flow
deriving DecidableEq

mutual

def node (fuel : Nat) (context : Context) : Reader Node := do
  match fuel, ← peek with
  | 0, _ => failure
  | _, .reference name =>
    advance
    match (← get).anchors.names.lookup (String.ofList name) with
    | some number => return .reference number
    | none => failure
  | fuel + 1, _ =>
    let (place, tag) ← properties
    let result ← content fuel context (place.isSome || tag.isSome) tag
    if let some place := place then
      modify fun r => { r with anchors := r.anchors.complete place result }
    return result

def content (fuel : Nat) (context : Context) (hasProperties : Bool) (tag : Option String) :
    Reader Node := do
  match fuel, ← peek, context with
  | 0, _, _ => failure
  | fuel + 1, .item, .field => return .sequence tag (← bareItems fuel [])
  | _, .scalar text isPlain, _ =>
    advance
    return .scalar tag (String.ofList text) isPlain
  | fuel + 1, .flowSequence, _ =>
    advance
    return .sequence tag (← flowItems fuel true [])
  | fuel + 1, .flowMapping, _ =>
    advance
    return .mapping tag (← flowFields fuel true [])
  | _, _, .flow => empty hasProperties tag
  | fuel + 1, .blockSequence, _ =>
    advance
    return .sequence tag (← items fuel [])
  | fuel + 1, .blockMapping, _ =>
    advance
    return .mapping tag (← fields fuel [])
  | _, _, _ => empty hasProperties tag
where
  empty (hasProperties : Bool) (tag : Option String) : Reader Node :=
    if hasProperties then return .scalar tag "" true else failure

def nodeUnless (fuel : Nat) (ends : Token → Bool) (context : Context) : Reader Node := do
  match fuel with
  | 0 => failure
  | fuel + 1 => if ends (← peek) then return nothing else node fuel context

def valueUnless (fuel : Nat) (ends : Token → Bool) (context : Context) : Reader Node := do
  match fuel, ← peek with
  | fuel + 1, .value =>
    advance
    nodeUnless fuel ends context
  | _, _ => return nothing

def items (fuel : Nat) (done : List Node) : Reader (List Node) := do
  match fuel, ← peek with
  | fuel + 1, .item =>
    advance
    let item ← nodeUnless fuel Token.endsItem .block
    items fuel (item :: done)
  | _, .blockEnd =>
    advance
    return done.reverse
  | _, _ => failure

def bareItems (fuel : Nat) (done : List Node) : Reader (List Node) := do
  match fuel, ← peek with
  | fuel + 1, .item =>
    advance
    let item ← nodeUnless fuel Token.endsBareItem .block
    bareItems fuel (item :: done)
  | _, _ => return done.reverse

def fields (fuel : Nat) (done : List (Node × Node)) : Reader (List (Node × Node)) := do
  match fuel, ← peek with
  | fuel + 1, .key =>
    advance
    let key ← nodeUnless fuel Token.endsField .field
    let value ← valueUnless fuel Token.endsField .field
    fields fuel ((key, value) :: done)
  | _, .blockEnd =>
    advance
    return done.reverse
  | _, _ => failure

def flowItems (fuel : Nat) (first : Bool) (done : List Node) : Reader (List Node) := do
  match fuel, ← peek with
  | 0, _ => failure
  | _, .flowSequenceEnd =>
    advance
    return done.reverse
  | fuel + 1, t =>
    match first, t with
    | false, .comma => advance
    | false, _ => failure
    | true, _ => pure ()
    match ← peek with
    | .flowSequenceEnd =>
      advance
      return done.reverse
    | .key =>
      advance
      let pair ← flowPair fuel
      flowItems fuel false (pair :: done)
    | _ =>
      let item ← node fuel .flow
      flowItems fuel false (item :: done)

-- A mapping of one field, written without its brackets. The mark that shows an empty key is lost.
def flowPair (fuel : Nat) : Reader Node := do
  match fuel, ← peek with
  | 0, _ => failure
  | fuel + 1, t =>
    let key ← nodeUnless fuel (fun t => Token.isValue t || Token.endsFlowItem t) .flow
    if Token.isValue t || Token.endsFlowItem t then advance
    let value ← valueUnless fuel Token.endsFlowItem .flow
    return .mapping none [(key, value)]

def flowFields (fuel : Nat) (first : Bool) (done : List (Node × Node)) :
    Reader (List (Node × Node)) := do
  match fuel, ← peek with
  | 0, _ => failure
  | _, .flowMappingEnd =>
    advance
    return done.reverse
  | fuel + 1, t =>
    match first, t with
    | false, .comma => advance
    | false, _ => failure
    | true, _ => pure ()
    match ← peek with
    | .flowMappingEnd =>
      advance
      return done.reverse
    | .key =>
      advance
      let key ← nodeUnless fuel (fun t => Token.isValue t || Token.endsFlowField t) .flow
      let value ← valueUnless fuel Token.endsFlowField .flow
      flowFields fuel false ((key, value) :: done)
    | _ =>
      let key ← node fuel .flow
      flowFields fuel false ((key, nothing) :: done)

end

def directives (fuel : Nat) (versioned : Bool) (handles : List (List Char × List Char)) :
    Reader (List (List Char × List Char)) := do
  match fuel, ← peek with
  | fuel + 1, .directive (.version major minor) =>
    if versioned || major ≠ 1 || (minor ≠ 1 && minor ≠ 2) then failure
    else
      advance
      directives fuel true handles
  | fuel + 1, .directive (.tag handle start) =>
    if (handles.lookup handle).isSome then failure
    else
      advance
      directives fuel versioned ((handle, start) :: handles)
  | _, _ => return handles

def marked (fuel : Nat) : Reader Node := do
  match ← peek with
  | .directive _ | .documentStart | .documentEnd | .streamEnd => return nothing
  | _ => node fuel .block

def afterDocument : List Token → Bool
  | .documentEnd :: rest => afterDocument rest
  | [.streamEnd] => true
  | _ => false

def stream (fuel : Nat) : Reader (Option Node) := do
  match ← peek with
  | .streamEnd => return none
  | .directive _ | .documentStart =>
    let handles ← directives fuel false []
    modify fun r => { r with handles := handles ++ r.handles }
    match ← peek with
    | .documentStart =>
      advance
      return some (← marked fuel)
    | _ => failure
  | _ => return some (← node fuel .block)

end Reader

structure Document where
  root : Option Node
  anchors : Anchors

def Document.ofText? (s : String) : Option Document := do
  let tokens ← tokens? s
  let (root, after) ← (Reader.stream (4 * tokens.length + 4)).run { tokens }
  if root.isSome && !Reader.afterDocument after.tokens then none
  else some { root, anchors := after.anchors }

end IntentGate.Yaml
