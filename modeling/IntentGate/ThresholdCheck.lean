import IntentGate.Config.Rejection
import IntentGate.Message

set_option autoImplicit false

namespace IntentGate

inductive ThresholdCheck where
  | passed
  | belowCustom (confidence threshold : Float)
  | belowDefault (confidence threshold : Float)
  | ambiguous (delta threshold : Float)
deriving DecidableEq

-- An entry of the ranking without a confidence counts as certain.
def RankedIntent.weight (r : RankedIntent) : Float := r.confidence.getD 1

def confidenceDelta (ranking : List RankedIntent) (excluded : List String) : Option Float :=
  match (ranking.filter fun r => r.name ∉ excluded).map (·.weight) with
  | first :: second :: _ => some (first - second)
  | _ => none

namespace ThresholdCheck

def isPassed : ThresholdCheck → Bool
  | .passed => true
  | _ => false

-- An intent with a custom threshold is judged by that alone.
def of (config : RejectionConfig) (intent : String) (confidence : Float)
    (ranking : List RankedIntent) : ThresholdCheck :=
  match config.thresholdFor intent with
  | (t, true) => if confidence < t then .belowCustom confidence t else .passed
  | (t, false) =>
    if confidence < t then .belowDefault confidence t
    else
      match confidenceDelta ranking config.excluded with
      | some delta =>
        if delta < config.thresholds.ambiguity then .ambiguous delta config.thresholds.ambiguity
        else .passed
      | none => .passed

end ThresholdCheck

end IntentGate
