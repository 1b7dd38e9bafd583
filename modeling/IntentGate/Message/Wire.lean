import IntentGate.Message
import IntentGate.Shape.Record

set_option autoImplicit false

namespace IntentGate

open Json Shape

def givenField {α : Type} (key : String) (write : α → Value) : Option α → Fields
  | some a => [(key, write a)]
  | none => []

def Label.written : Label → Value
  | .text s => .text s
  | .number n => .number n

def Intent.written (i : Intent) : Value :=
  .object ([("name", .text i.name)] ++ givenField "confidence" .ofFloat i.confidence
    ++ givenField "require_entities" .list i.requireEntities ++ i.extra)

def RankedIntent.written (r : RankedIntent) : Value :=
  .object ([("name", .text r.name)] ++ givenField "confidence" .ofFloat r.confidence ++ r.extra)

def Entity.written (e : Entity) : Value :=
  .object ([("entity", .text e.kind)] ++ givenField "role" Label.written e.role
    ++ givenField "group" Label.written e.group ++ e.extra)

def Message.written (m : Message) : Value :=
  .object ([("text", .text m.text)] ++ givenField "intent" Intent.written m.intent
    ++ givenField "intent_ranking" (fun l => .list (l.map RankedIntent.written)) m.ranking
    ++ givenField "entities" (fun l => .list (l.map Entity.written)) m.entities
    ++ givenField "is_final" .bool m.isFinal ++ m.extra)

def Message.line (m : Message) : String := m.written.compact

def Message.toJson (m : Message) : Value := m.written.sorted

variable {δ : Type} [JsonSource δ]

def readLabel (d : δ) : Except Fault Label := do
  match ← JsonSource.value d with
  | .text s => return .text s
  | .number n => return .number n
  | _ => throw (.data (.noVariant "EntityLabel"))

def intentFields : List (Field δ Intent) :=
  [field .required "name" textOf fun x i => { i with name := x },
   field .optional "confidence" (optionOf Source.float) fun x i => { i with confidence := x },
   field .optional "require_entities" (optionOf (listOf JsonSource.value)) fun x i =>
     { i with requireEntities := x }]

def readIntent (d : δ) : Except Fault Intent :=
  readOpen "Intent" intentFields (fun key v i => { i with extra := Keyed.insert key v i.extra })
    { name := "" } d

def rankedFields : List (Field δ RankedIntent) :=
  [field .required "name" textOf fun x r => { r with name := x },
   field .optional "confidence" (optionOf Source.float) fun x r => { r with confidence := x }]

def readRanked (d : δ) : Except Fault RankedIntent :=
  readOpen "RankedIntent" rankedFields
    (fun key v r => { r with extra := Keyed.insert key v r.extra }) { name := "" } d

def entityFields : List (Field δ Entity) :=
  [(field .required "entity" textOf fun x e => { e with kind := x }).orKey "type",
   field .optional "role" (optionOf readLabel) fun x e => { e with role := x },
   field .optional "group" (optionOf readLabel) fun x e => { e with group := x }]

def readEntity (d : δ) : Except Fault Entity :=
  readOpen "Entity" entityFields (fun key v e => { e with extra := Keyed.insert key v e.extra })
    { kind := "" } d

def messageFields : List (Field δ Message) :=
  [field .defaulted "text" textOf fun x m => { m with text := x },
   field .optional "intent" (optionOf readIntent) fun x m => { m with intent := x },
   field .optional "intent_ranking" (optionOf (listOf readRanked)) fun x m => { m with ranking := x },
   field .optional "entities" (optionOf (listOf readEntity)) fun x m => { m with entities := x },
   field .optional "is_final" (optionOf Source.bool) fun x m => { m with isFinal := x }]

def readMessage (d : δ) : Except Fault Message :=
  readOpen "Message" messageFields (fun key v m => { m with extra := Keyed.insert key v m.extra })
    {} d

end IntentGate
