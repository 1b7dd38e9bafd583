import IntentGate.Config.Wire
import IntentGate.Message
import IntentGate.Requirement
import IntentGate.Shape.Json

set_option autoImplicit false

namespace IntentGate

open Json

inductive Misconfiguration where
  | shape (m : Mismatch)
  | invalid (s : InvalidSetting)
  | declaration (f : DeclarationFault)
  | stated (reason : String)

def Misconfiguration.message : Misconfiguration → String
  | .shape m => m.message
  | .invalid s => s.message
  | .declaration f => f.message
  | .stated reason => reason

inductive NeededField where
  | intent
  | confidence
deriving DecidableEq

def NeededField.name : NeededField → String
  | .intent => "intent"
  | .confidence => "intent.confidence"

inductive GateError where
  | configuration (cause : Misconfiguration)
  | missingField (field : NeededField)
  | unimplemented (feature : Feature)
  | invalidMessage (index : Nat) (source : GateError)

namespace GateError

def message : GateError → String
  | .configuration cause => s!"Invalid configuration: {cause.message}"
  | .missingField field => s!"Message is missing required field: {field.name}"
  | .unimplemented feature =>
    s!"Configured feature is not implemented and has no effect: {feature.name}"
  | .invalidMessage index source => s!"Message {index} in batch: {source.message}"

def atIndex (index : Nat) (e : GateError) : GateError := .invalidMessage index e

end GateError

namespace Message

def predicted (m : Message) : Except GateError Intent :=
  match m.intent with
  | some intent => .ok intent
  | none => .error (.missingField .intent)

def intentName (m : Message) : Except GateError String := do return (← m.predicted).name

def confidence (m : Message) : Except GateError Float := do
  match (← m.predicted).confidence with
  | some c => return c
  | none => throw (.missingField .confidence)

end Message

def RejectionConfig.ofOptions (options : Value) : Except GateError RejectionConfig :=
  match readRejectionConfig options with
  | .ok config => .ok config
  | .error (.data m) => .error (.configuration (.shape m))
  | .error (.trouble _) => .error (.configuration (.stated "unreadable"))

end IntentGate
