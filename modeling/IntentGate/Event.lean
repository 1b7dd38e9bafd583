import IntentGate.Config.Rejection
import IntentGate.Verdict

set_option autoImplicit false

namespace IntentGate

open Json

inductive Level where
  | trace
  | debug
  | info
  | warn
  | error
deriving DecidableEq

def Level.rank : Level → Nat
  | .trace => 0
  | .debug => 1
  | .info => 2
  | .warn => 3
  | .error => 4

def Level.name : Level → String
  | .trace => "TRACE"
  | .debug => "DEBUG"
  | .info => "INFO"
  | .warn => "WARN"
  | .error => "ERROR"

inductive Event where
  | ignoredFeature (feature : Feature)
  | installedIndex (intents : Nat)
  | finalIgnored
  | judged (prediction : Option Intent) (verdict : Verdict)
  | processedBatch (total rejected : Nat)
  | finishedStage (total rejected : Nat) (method : String)
  | usingDomain (path : String)
  | loadedDomain (path : String) (intents : Nat)
  | failed (message : String)

namespace Event

def level : Event → Level
  | .ignoredFeature _ => .warn
  | .finalIgnored => .warn
  | .judged _ _ => .debug
  | .loadedDomain _ _ => .debug
  | .failed _ => .error
  | _ => .info

def judgement : Verdict → String
  | .accept .disabled => "Full utterance: rejection gate disabled"
  | .accept .forcedFinal => "Full utterance: forced via is_final"
  | .accept .fullUtterance => "Full utterance"
  | .reject (.excludedIntent _) => "Rejected: intent is excluded"
  | .reject (.entityMismatch _ _) => "Rejected: required entities not matched"
  | .reject _ => "Rejected: thresholds not reached"

def message : Event → String
  | .ignoredFeature _ => "Ignoring configured rejection feature"
  | .installedIndex _ => "Installed required-entity index"
  | .finalIgnored =>
    "Message requests a final utterance but force_final_enabled is false; is_final is ignored"
  | .judged _ verdict => judgement verdict
  | .processedBatch _ _ => "Processed message batch"
  | .finishedStage _ _ _ => "Rejection stage finished"
  | .usingDomain _ => "Using domain file"
  | .loadedDomain _ _ => "Loaded domain"
  | .failed message => message

def structured (name : String) (parts : List (String × String)) : String :=
  name ++ " \x7b " ++ ", ".intercalate (parts.map fun p => p.1 ++ ": " ++ p.2) ++ " \x7d"

def bracketed (items : List String) : String := "[" ++ ", ".intercalate items ++ "]"

def labelShown : Option String → String
  | some label => "Some(" ++ Text.quoted label ++ ")"
  | none => "None"

def requirementShown (r : Requirement) : String :=
  structured "EntityRequirement"
    [("entity_type", Text.quoted r.entity), ("role", labelShown r.role), ("group", labelShown r.group)]

def reasonShown : RejectReason → String
  | .excludedIntent intent => structured "ExcludedIntent" [("intent", Text.quoted intent)]
  | .belowCustomThreshold confidence threshold =>
    structured "BelowCustomThreshold"
      [("confidence", Decimal.logged confidence), ("threshold", Decimal.logged threshold)]
  | .belowDefaultThreshold confidence threshold =>
    structured "BelowDefaultThreshold"
      [("confidence", Decimal.logged confidence), ("threshold", Decimal.logged threshold)]
  | .ambiguous delta threshold =>
    structured "Ambiguous" [("delta", Decimal.logged delta), ("threshold", Decimal.logged threshold)]
  | .entityMismatch missing extra =>
    structured "EntityMismatch"
      [("missing", bracketed (missing.map requirementShown)), ("extra", bracketed (extra.map requirementShown))]

def intentFields (prediction : Option Intent) : List (String × String) :=
  prediction.toList.map fun intent => ("intent", intent.name)

def confidenceFields (prediction : Option Intent) : List (String × String) :=
  (prediction.bind (·.confidence)).toList.map fun c => ("confidence", Decimal.logged c)

-- The switch and a request to be final decide before the prediction is looked at.
def judgedFields (prediction : Option Intent) : Verdict → List (String × String)
  | .accept .disabled => []
  | .accept .forcedFinal => []
  | .accept .fullUtterance => intentFields prediction ++ confidenceFields prediction
  | .reject (.excludedIntent intent) => [("intent", intent)]
  | .reject reason => intentFields prediction ++ [("reason", reasonShown reason)]

def fields : Event → List (String × String)
  | .ignoredFeature feature =>
    [("feature", "Configured feature is not implemented and has no effect: " ++ feature.name)]
  | .installedIndex intents => [("intents", toString intents)]
  | .judged prediction verdict => judgedFields prediction verdict
  | .processedBatch total rejected =>
    [("total", toString total), ("rejected", toString rejected)]
  | .finishedStage total rejected method =>
    [("total", toString total), ("rejected", toString rejected), ("method", method)]
  | .usingDomain path => [("path", path)]
  | .loadedDomain path intents => [("path", path), ("intents", toString intents)]
  | _ => []

def target : Event → String
  | .finishedStage _ _ _ => "utterance_gate::application::handlers::rejection::process_messages"
  | .loadedDomain _ _ => "utterance_gate::adapters::domain::yaml_domain_provider"
  | .usingDomain _ => "utterance_gate"
  | .failed _ => "utterance_gate"
  | _ => "utterance_gate::domain::rejection::gate"

def paddedLevel (level : Level) : String :=
  String.ofList (List.replicate (5 - level.name.length) ' ') ++ level.name

def line (e : Event) : String :=
  let fields := e.fields.map fun f => s!" {f.1}={f.2}"
  s!"{paddedLevel e.level} {e.target}: {e.message}{String.join fields}"

def jsonLine (e : Event) : String :=
  let fields := ("message", Value.text e.message) :: e.fields.map fun f => (f.1, Value.text f.2)
  (Value.object [("level", .text e.level.name), ("fields", .object fields),
    ("target", .text e.target)]).compact

end Event

end IntentGate
