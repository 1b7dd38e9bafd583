import IntentGate.Requirement
import IntentGate.Shape.Choice
import IntentGate.Verdict

set_option autoImplicit false

namespace IntentGate

open Json Shape

def tagged (name : String) (v : Value) : Value := .object [(name, v)]

def twoFloats (first second : String) (x y : Float) : Value :=
  .object [(first, .ofFloat x), (second, .ofFloat y)]

def mismatch (missing extra : List Requirement) : Value :=
  .object [("missing", .list (missing.map Requirement.written)),
    ("extra", .list (extra.map Requirement.written))]

def ThresholdCheck.written : ThresholdCheck → Value
  | .passed => .text "Passed"
  | .belowCustom c t => tagged "BelowCustom" (twoFloats "confidence" "threshold" c t)
  | .belowDefault c t => tagged "BelowDefault" (twoFloats "confidence" "threshold" c t)
  | .ambiguous d t => tagged "Ambiguous" (twoFloats "delta" "threshold" d t)

def EntityCheck.written : EntityCheck → Value
  | .unconstrained => .text "Unconstrained"
  | .satisfied => .text "Satisfied"
  | .unsatisfied missing extra => tagged "Unsatisfied" (mismatch missing extra)

def AcceptReason.written : AcceptReason → Value
  | .disabled => .text "Disabled"
  | .forcedFinal => .text "ForcedFinal"
  | .fullUtterance => .text "FullUtterance"

def RejectReason.written : RejectReason → Value
  | .excludedIntent intent => tagged "ExcludedIntent" (.object [("intent", .text intent)])
  | .belowCustomThreshold c t => tagged "BelowCustomThreshold" (twoFloats "confidence" "threshold" c t)
  | .belowDefaultThreshold c t =>
    tagged "BelowDefaultThreshold" (twoFloats "confidence" "threshold" c t)
  | .ambiguous d t => tagged "Ambiguous" (twoFloats "delta" "threshold" d t)
  | .entityMismatch missing extra => tagged "EntityMismatch" (mismatch missing extra)

def Verdict.written : Verdict → Value
  | .accept reason => tagged "Accept" reason.written
  | .reject reason => tagged "Reject" reason.written

variable {δ α : Type} [JsonSource δ]

def twoFloatFields (first second : String) : List (Field δ (Float × Float)) :=
  [field .required first Source.float fun x p => (x, p.2),
   field .required second Source.float fun x p => (p.1, x)]

def twoFloatVariant (type name first second : String) (make : Float → Float → α) : Variant δ α :=
  recordVariant type name (twoFloatFields first second) (0, 0) fun p => make p.1 p.2

def mismatchFields : List (Field δ (List Requirement × List Requirement)) :=
  [field .required "missing" (listOf readRequirement) fun x p => (x, p.2),
   field .required "extra" (listOf readRequirement) fun x p => (p.1, x)]

def mismatchVariant (type name : String) (make : List Requirement → List Requirement → α) :
    Variant δ α :=
  recordVariant type name mismatchFields ([], []) fun p => make p.1 p.2

def readThresholdCheck : δ → Except Fault ThresholdCheck :=
  readChoice
    [bare "Passed" .passed,
     twoFloatVariant "ThresholdCheck" "BelowCustom" "confidence" "threshold" .belowCustom,
     twoFloatVariant "ThresholdCheck" "BelowDefault" "confidence" "threshold" .belowDefault,
     twoFloatVariant "ThresholdCheck" "Ambiguous" "delta" "threshold" .ambiguous]

def readEntityCheck : δ → Except Fault EntityCheck :=
  readChoice
    [bare "Unconstrained" .unconstrained, bare "Satisfied" .satisfied,
     mismatchVariant "EntityCheck" "Unsatisfied" .unsatisfied]

def readAcceptReason : δ → Except Fault AcceptReason :=
  readChoice
    [bare "Disabled" .disabled, bare "ForcedFinal" .forcedFinal,
     bare "FullUtterance" .fullUtterance]

def readRejectReason : δ → Except Fault RejectReason :=
  readChoice
    [recordVariant "RejectReason" "ExcludedIntent"
       [field .required "intent" textOf fun x _ => x] "" .excludedIntent,
     twoFloatVariant "RejectReason" "BelowCustomThreshold" "confidence" "threshold"
       .belowCustomThreshold,
     twoFloatVariant "RejectReason" "BelowDefaultThreshold" "confidence" "threshold"
       .belowDefaultThreshold,
     twoFloatVariant "RejectReason" "Ambiguous" "delta" "threshold" .ambiguous,
     mismatchVariant "RejectReason" "EntityMismatch" .entityMismatch]

def readVerdict : δ → Except Fault Verdict :=
  readChoice
    [carrying "Accept" readAcceptReason .accept, carrying "Reject" readRejectReason .reject]

end IntentGate
