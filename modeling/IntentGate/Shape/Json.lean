import IntentGate.Shape.Choice

/-! JSON values and JSON texts as sources. They differ in three places: a value has all its elements at
hand and counts them, a variant of a value carries its fields by name only, and a text breaks off. -/

set_option autoImplicit false

namespace IntentGate.Shape

open Json

def Number.toFloat : Number → Float
  | .int n => Float.ofInt n
  | .float x => x

def wrongValue {α : Type} (v : Value) (expected : String) : Except Fault α :=
  wrongKind v.found expected

instance : Source Value where
  bool
    | .bool b => .ok b
    | v => wrongValue v "a boolean"
  text expected
    | .text s => .ok s
    | v => wrongValue v expected
  float
    | .number n => .ok (Number.toFloat n)
    | v => wrongValue v "f64"
  option
    | .null => .ok none
    | v => .ok (some v)
  list
    | .list items => .ok { items }
    | v => wrongValue v "a sequence"
  object expected
    | .object fields => .ok { items := fields }
    | v => wrongValue v expected
  record expected
    | .object fields => .ok (.members { items := fields })
    | .list items => .ok (.items { items })
    | v => wrongValue v expected
  skip _ := .ok ()
  surplus count := some (.data (.length count "fewer elements in array"))

instance : JsonSource Value where
  value := .ok
  chosen
    | .text name => .ok { name, payload := none, close := none }
    | .object [(name, v)] => .ok { name, payload := some v, close := none }
    | .object _ => .error (.data .severalKeys)
    | v => wrongValue v "string or map"
  payload _ _
    | .object fields => .ok (.members { items := fields })
    | v => wrongValue v "struct variant"
  null
    | .null => .ok ()
    | v => wrongValue v "unit"

def untroubled {α : Type} (read : Except Trouble α) : Except Fault α := read.mapError .trouble

def wrongDraft {α : Type} (d : Draft) (expected : String) : Except Fault α := do
  wrongKind (← untroubled d.found) expected

def stopFault (stop : Stop) : Option Fault := stop.trouble?.map .trouble

instance : Source Draft where
  bool
    | .bool b => .ok b
    | d => wrongDraft d "a boolean"
  text expected
    | .text s => .ok s
    | d => wrongDraft d expected
  float
    | .number n => .ok (Number.toFloat n)
    | d => wrongDraft d "f64"
  option
    | .null => .ok none
    | d => .ok (some d)
  list
    | .list items stop => .ok { items, stop := stopFault stop }
    | d => wrongDraft d "a sequence"
  object expected
    | .object members stop => .ok { items := members, stop := stopFault stop }
    | d => wrongDraft d expected
  record expected
    | .object members stop => .ok (.members { items := members, stop := stopFault stop })
    | .list items stop => .ok (.items { items, stop := stopFault stop })
    | d => wrongDraft d expected
  skip d := untroubled d.skip
  surplus _ := some (.trouble .malformed)

def afterOnly : Stop → Option Fault
  | .closed => none
  | .separator t => some (.trouble t)
  | .key _ _ => some (.trouble .malformed)

def choose : Draft → Except Fault (Chosen Draft)
  | .text name => .ok { name, payload := none, close := none }
  | .object [(name, d)] stop => .ok { name, payload := some d, close := afterOnly stop }
  | .object ((name, d) :: _) _ =>
    .ok { name, payload := some d, close := some (.trouble .malformed) }
  | .object [] (.key _ found) => do wrongKind (← untroubled found) "variant identifier"
  | .faulty false t _ => .error (.trouble t)
  | _ => .error (.trouble .malformed)

instance : JsonSource Draft where
  value d := untroubled d.value
  chosen := choose
  payload type name d := Source.record s!"struct variant {type}::{name}" d
  null
    | .null => .ok ()
    | d => wrongDraft d "unit"

def readText {α : Type} (read : Draft → Except Fault α) (s : String) : Except Fault α := do
  let document := Document.ofText s
  let a ← read document.root
  if document.followed then throw (.trouble .malformed)
  return a

def valueOfText (s : String) : Except Fault Value := readText JsonSource.value s

end IntentGate.Shape
