import IntentGate.Requirement.Index

set_option autoImplicit false

namespace IntentGate

inductive EntityCheck where
  | unconstrained
  | satisfied
  | unsatisfied (missing extra : List Requirement)
deriving DecidableEq

namespace EntityCheck

def isSatisfied : EntityCheck → Bool
  | .unsatisfied _ _ => false
  | _ => true

def extraOf (required : List Requirement) (predicted : List Entity) : List Requirement :=
  (predicted.filter fun e => !required.any (·.accepts e)).map .ofEntity

def missingOf (required : List Requirement) (predicted : List Entity) : List Requirement :=
  required.filter fun r => !predicted.any r.accepts

def compare (required : List Requirement) (predicted : List Entity) : EntityCheck :=
  let missing := missingOf required predicted
  let extra := extraOf required predicted
  if missing.isEmpty && extra.isEmpty then .satisfied else .unsatisfied missing extra

def of (index : RequirementIndex) (intent : String) (predicted : List Entity) : EntityCheck :=
  match index.required? intent with
  | none => .unconstrained
  | some required => compare required predicted

end EntityCheck

end IntentGate
