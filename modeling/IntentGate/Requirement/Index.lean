import IntentGate.DomainSchema
import IntentGate.Requirement

set_option autoImplicit false

namespace IntentGate

open Json

structure RequirementIndex where
  entries : Table (List Requirement) := .empty
deriving DecidableEq

namespace RequirementIndex

def required? (index : RequirementIndex) (intent : String) : Option (List Requirement) :=
  index.entries.get? intent

def insert (intent : String) (required : List Requirement) (index : RequirementIndex) :
    RequirementIndex :=
  { entries := index.entries.insert intent required }

def size (index : RequirementIndex) : Nat := index.entries.rows.length

def isEmpty (index : RequirementIndex) : Bool := index.entries.rows.isEmpty

def declared? : Value → Option Value
  | .object properties => Keyed.get? properties "require_entities"
  | _ => none

def addIntent (index : RequirementIndex) (declaration : String × Value) :
    Except DeclarationFault RequirementIndex := do
  match declared? declaration.2 with
  | none => return index
  | some (.list required) => return index.insert declaration.1 (← required.mapM Requirement.normalize)
  | some v => throw (.notList declaration.1 v)

def addEntry (index : RequirementIndex) : Value → Except DeclarationFault RequirementIndex
  | .text _ => .ok index
  | .object declarations => declarations.foldlM addIntent index
  | v => .error (.notIntent v)

def build (schema : DomainSchema) : Except DeclarationFault RequirementIndex :=
  schema.intents.foldlM addEntry {}

end RequirementIndex

end IntentGate
