import IntentGate.Event
import IntentGate.Gate.Error

set_option autoImplicit false

namespace IntentGate

structure Gate where
  config : RejectionConfig
  index : Option RequirementIndex := none

namespace Gate

-- Installs the index of `domain` unless there is one already. An index without requirements is not
-- installed, so that a later domain can still give one.
def offer (gate : Gate) (domain : Option DomainSchema) : Except GateError Gate :=
  match gate.index, domain with
  | none, some schema => do
    let index ← (RequirementIndex.build schema).mapError (.configuration ∘ .declaration)
    return if index.isEmpty then gate else { gate with index := some index }
  | _, _ => .ok gate

-- Builds a gate from valid settings. An index at hand is taken as it is, in preference to a domain.
def build (config : RejectionConfig) (domain : Option DomainSchema)
    (index : Option RequirementIndex) : Except GateError Gate := do
  config.validate.mapError (.configuration ∘ .invalid)
  match index with
  | some index => return { config, index := some index }
  | none => offer { config } domain

def rejectionIntent (gate : Gate) : Intent :=
  { name := rejectionName, confidence := some gate.config.thresholds.default }

def thresholdReason (gate : Gate) (message : Message) (intent : String) (confidence : Float) :
    Option RejectReason :=
  RejectReason.ofThreshold (.of gate.config intent confidence message.candidates)

def entityReason (gate : Gate) (message : Message) (intent : String) : Option RejectReason :=
  if gate.config.requireEntities then
    RejectReason.ofEntities (.of (gate.index.getD {}) intent message.mentions)
  else none

def judge (gate : Gate) (message : Message) (intent : String) (confidence : Float) : Verdict :=
  match (gate.thresholdReason message intent confidence).orElse fun _ =>
    gate.entityReason message intent with
  | some reason => .reject reason
  | none => .accept .fullUtterance

def evaluate (gate : Gate) (message : Message) : Except GateError Verdict :=
  if !gate.config.enabled then .ok (.accept .disabled)
  else if message.wantsFinal && gate.config.forceFinal then .ok (.accept .forcedFinal)
  else do
    let intent ← message.intentName
    if gate.config.isExcluded intent then
      return .reject (.excludedIntent intent)
    return gate.judge message intent (← message.confidence)

def applyRejection (gate : Gate) (message : Message) : Message :=
  { message with
    intent := some gate.rejectionIntent
    ranking := some (.ofIntent gate.rejectionIntent :: message.candidates) }

def afterVerdict (gate : Gate) (message : Message) (verdict : Verdict) : Message :=
  if verdict.isAccept then message else gate.applyRejection message

def decideFrom (gate : Gate) (position : Nat) :
    List Message → Except GateError (List (Message × Verdict))
  | [] => .ok []
  | message :: rest => do
    let verdict ← (gate.evaluate message).mapError (.atIndex position)
    return (gate.afterVerdict message verdict, verdict) :: (← gate.decideFrom (position + 1) rest)

structure Outcome (α : Type) where
  result : Except GateError α
  gate : Gate

def processWithVerdicts (gate : Gate) (messages : List Message) (domain : Option DomainSchema) :
    Outcome (List (Message × Verdict)) :=
  match gate.offer domain with
  | .ok gate => { result := gate.decideFrom 0 messages, gate }
  | .error e => { result := .error e, gate }

def process (gate : Gate) (messages : List Message) (domain : Option DomainSchema) :
    Outcome (List Message) :=
  let outcome := gate.processWithVerdicts messages domain
  { outcome with result := outcome.result.map fun decided => decided.map (·.1) }

def stageName : String := "utterance_rejection"

end Gate

class MessageStage (σ : Type) where
  name : String
  process : σ → List Message → Option DomainSchema → Except GateError (List Message) × σ

instance : MessageStage Gate where
  name := Gate.stageName
  process gate messages domain :=
    let outcome := gate.process messages domain
    (outcome.result, outcome.gate)

end IntentGate
