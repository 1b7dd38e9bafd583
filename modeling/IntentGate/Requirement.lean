import IntentGate.Message
import IntentGate.Shape.Record
import IntentGate.Text

set_option autoImplicit false

namespace IntentGate

open Json Shape

structure Requirement where
  entity : String
  role : Option String := none
  group : Option String := none
deriving DecidableEq

inductive LabelKey where
  | role
  | group
deriving DecidableEq

def LabelKey.name : LabelKey → String
  | .role => "role"
  | .group => "group"

inductive DeclarationFault where
  | emptyType
  | typeNotText (v : Value)
  | noType
  | labelNotText (key : LabelKey) (v : Value)
  | notEntity (v : Value)
  | notList (intent : String) (v : Value)
  | notIntent (v : Value)

def DeclarationFault.message : DeclarationFault → String
  | .emptyType => "required entity type is empty"
  | .typeNotText v => s!"required entity type must be a string, got {v.compact}"
  | .noType => "required entity mapping has no `entity` key"
  | .labelNotText key v => s!"required entity {key.name} must be a string, got {v.compact}"
  | .notEntity v => s!"required entity must be an entity name or a mapping, got {v.compact}"
  | .notList intent v =>
    "require_entities of intent '" ++ intent ++ "' must be a list, got " ++ v.compact
  | .notIntent v => s!"intent entry must be a name or a mapping, got {v.compact}"

def typeName (s : String) : Except DeclarationFault String :=
  if Text.isBlank s then .error .emptyType else .ok s

def declaredType (fields : Fields) : Except DeclarationFault String :=
  match (fields.get? "entity").orElse fun _ => fields.get? "type" with
  | some (.text s) => typeName s
  | some v => .error (.typeNotText v)
  | none => .error .noType

def declaredLabel (fields : Fields) (key : LabelKey) : Except DeclarationFault (Option String) :=
  match fields.get? key.name with
  | none | some .null => .ok none
  | some (.text s) => .ok (some s)
  | some (.number n) => .ok (some n.show)
  | some v => .error (.labelNotText key v)

namespace Requirement

def normalize : Value → Except DeclarationFault Requirement
  | .text s => return { entity := ← typeName s }
  | .object fields => do
    let entity ← declaredType fields
    let role ← declaredLabel fields .role
    let group ← declaredLabel fields .group
    return { entity, role, group }
  | v => .error (.notEntity v)

def sameLabel : Option String → Option Label → Bool
  | none, none => true
  | some required, some predicted => required = predicted.show
  | _, _ => false

def accepts (r : Requirement) (e : Entity) : Bool :=
  r.entity = e.kind && sameLabel r.role e.role && sameLabel r.group e.group

def ofEntity (e : Entity) : Requirement where
  entity := e.kind
  role := e.role.map Label.show
  group := e.group.map Label.show

def withRole (role : String) (r : Requirement) : Requirement := { r with role := some role }

def withGroup (group : String) (r : Requirement) : Requirement := { r with group := some group }

def bracketed (key : LabelKey) : Option String → String
  | some label => "[" ++ key.name ++ "=" ++ label ++ "]"
  | none => ""

def display (r : Requirement) : String := r.entity ++ bracketed .role r.role ++ bracketed .group r.group

end Requirement

def Requirement.written (r : Requirement) : Value :=
  .object [("entity", .text r.entity), ("role", .ofOption .text r.role),
    ("group", .ofOption .text r.group)]

variable {δ : Type} [Source δ]

def readRequirement (d : δ) : Except Fault Requirement :=
  readPlain "EntityRequirement"
    [field .required "entity" textOf fun x r => { r with entity := x },
     field .optional "role" (optionOf textOf) fun x r => { r with role := x },
     field .optional "group" (optionOf textOf) fun x r => { r with group := x }]
    { entity := "" } d

end IntentGate
