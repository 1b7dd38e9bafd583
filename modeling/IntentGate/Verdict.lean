import IntentGate.Requirement.Check
import IntentGate.ThresholdCheck

set_option autoImplicit false

namespace IntentGate

inductive AcceptReason where
  | disabled
  | forcedFinal
  | fullUtterance
deriving DecidableEq

inductive RejectReason where
  | excludedIntent (intent : String)
  | belowCustomThreshold (confidence threshold : Float)
  | belowDefaultThreshold (confidence threshold : Float)
  | ambiguous (delta threshold : Float)
  | entityMismatch (missing extra : List Requirement)
deriving DecidableEq

inductive Verdict where
  | accept (reason : AcceptReason)
  | reject (reason : RejectReason)
deriving DecidableEq

def RejectReason.ofThreshold : ThresholdCheck → Option RejectReason
  | .passed => none
  | .belowCustom confidence threshold => some (.belowCustomThreshold confidence threshold)
  | .belowDefault confidence threshold => some (.belowDefaultThreshold confidence threshold)
  | .ambiguous delta threshold => some (.ambiguous delta threshold)

def RejectReason.ofEntities : EntityCheck → Option RejectReason
  | .unsatisfied missing extra => some (.entityMismatch missing extra)
  | _ => none

def Verdict.isAccept : Verdict → Bool
  | .accept _ => true
  | .reject _ => false

def Verdict.isReject (v : Verdict) : Bool := !v.isAccept

end IntentGate
