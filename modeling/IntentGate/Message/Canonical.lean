import IntentGate.Message
import IntentGate.Shape.Json

set_option autoImplicit false

namespace IntentGate.Canonical

open Json Shape

def refine (rule : String → Value → Option Value) (fields : Fields) : Fields :=
  fields.filterMap fun f => (rule f.1 f.2).map fun v => (f.1, v)

def unlessNull (form : Value → Value) : Value → Option Value
  | .null => none
  | v => some (form v)

def onFields (form : Fields → Fields) : Value → Value
  | .object fields => .object (form fields)
  | v => v

def onItems (form : Value → Value) : Value → Value
  | .list items => .list (items.map form)
  | v => v

def confidence : Value → Value
  | .number n => .number (.float (Number.toFloat n))
  | v => v

def intentRule (key : String) (v : Value) : Option Value :=
  if key = "confidence" then unlessNull confidence v
  else if key = "require_entities" then unlessNull id v
  else some v

def intent : Value → Value := onFields (refine intentRule)

def rankedRule (key : String) (v : Value) : Option Value :=
  if key = "confidence" then unlessNull confidence v else some v

def ranked : Value → Value := onFields (refine rankedRule)

def entityRule (key : String) (v : Value) : Option Value :=
  if key = "role" ∨ key = "group" then unlessNull id v else some v

def entityKey (key : String) : String := if key = "type" then "entity" else key

-- The older key of the entity's kind gives way to the newer one.
def renamed (fields : Fields) : Fields := Keyed.ofList (fields.map fun f => (entityKey f.1, f.2))

def entity : Value → Value := onFields fun fields => refine entityRule (renamed fields)

def messageRule (key : String) (v : Value) : Option Value :=
  if key = "intent" then unlessNull intent v
  else if key = "intent_ranking" then unlessNull (onItems ranked) v
  else if key = "entities" then unlessNull (onItems entity) v
  else if key = "is_final" then unlessNull id v
  else some v

def withText (fields : Fields) : Fields :=
  if (Keyed.get? fields "text").isSome then fields else Keyed.insert "text" (.text "") fields

def message : Value → Value := onFields fun fields => refine messageRule (withText fields)

def fallback (threshold : Float) : Value :=
  .object [("confidence", .number (.float threshold)), ("name", .text "nlu_fallback")]

def ranking (fields : Fields) : List Value :=
  match Keyed.get? fields "intent_ranking" with
  | some (.list items) => items
  | _ => []

def rejected (threshold : Float) : Value → Value :=
  onFields fun fields =>
    Keyed.insert "intent" (fallback threshold)
      (Keyed.insert "intent_ranking" (.list (fallback threshold :: ranking fields)) fields)

end IntentGate.Canonical
