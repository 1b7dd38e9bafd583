import IntentGate.Gate.Events
import IntentGate.Gate

set_option autoImplicit false

namespace IntentGate.Gate

def ensureIndex (gate : Gate) (domain : Option DomainSchema) : Outcome Unit :=
  match gate.offer domain with
  | .ok gate => { result := .ok (), gate }
  | .error e => { result := .error e, gate }

inductive Request where
  | ensureIndex (domain : Option DomainSchema)
  | evaluate (message : Message)
  | applyRejection (message : Message)
  | process (messages : List Message) (domain : Option DomainSchema)
  | processWithVerdicts (messages : List Message) (domain : Option DomainSchema)
  | stage (messages : List Message) (domain : Option DomainSchema)

namespace Request

def domain : Request → Option DomainSchema
  | ensureIndex domain | process _ domain | processWithVerdicts _ domain | stage _ domain => domain
  | evaluate _ | applyRejection _ => none

def offering (domain : Option DomainSchema) : Request → Request
  | ensureIndex _ => ensureIndex domain
  | process messages _ => process messages domain
  | processWithVerdicts messages _ => processWithVerdicts messages domain
  | stage messages _ => stage messages domain
  | request => request

end Request

inductive Reply where
  | ensured (result : Except GateError Unit)
  | verdict (result : Except GateError Verdict)
  | rewritten (message : Message)
  | batch (result : Except GateError (List Message))
  | decided (result : Except GateError (List (Message × Verdict)))

def answer (gate : Gate) : Request → Reply × Gate
  | .ensureIndex domain =>
      let outcome := gate.ensureIndex domain
      (.ensured outcome.result, outcome.gate)
  | .evaluate message => (.verdict (gate.evaluate message), gate)
  | .applyRejection message => (.rewritten (gate.applyRejection message), gate)
  | .process messages domain =>
      let outcome := gate.process messages domain
      (.batch outcome.result, outcome.gate)
  | .processWithVerdicts messages domain =>
      let outcome := gate.processWithVerdicts messages domain
      (.decided outcome.result, outcome.gate)
  | .stage messages domain =>
      let (result, gate) := MessageStage.process gate messages domain
      (.batch result, gate)

def after (gate : Gate) (requests : List Request) : Gate :=
  requests.foldl (fun gate request => (gate.answer request).2) gate

def answerEvents (gate : Gate) : Request → List Event
  | .ensureIndex domain => gate.offerEvents domain
  | .evaluate message => gate.evaluationEvents message
  | .applyRejection _ => []
  | .process messages domain | .processWithVerdicts messages domain | .stage messages domain =>
      gate.processEvents messages domain

def log (gate : Gate) : List Request → List Event
  | [] => []
  | request :: rest => gate.answerEvents request ++ (gate.answer request).2.log rest

structure StreamOutcome where
  decided : List (List (Message × Verdict))
  failure : Option GateError := none
  gate : Gate

def processStream (gate : Gate) (batches : List (List Message)) (domain : Option DomainSchema) : StreamOutcome :=
  match batches with
  | [] => { decided := [], gate }
  | batch :: rest =>
    let outcome := gate.processWithVerdicts batch domain
    match outcome.result with
    | .error e => { decided := [], failure := some e, gate := outcome.gate }
    | .ok decided =>
      let later := outcome.gate.processStream rest domain
      { later with decided := decided :: later.decided }

def reprocess (gate : Gate) (batch : List Message) (domains : List (Option DomainSchema)) : StreamOutcome :=
  match domains with
  | [] => { decided := [], gate }
  | domain :: rest =>
    let outcome := gate.processWithVerdicts batch domain
    match outcome.result with
    | .error e => { decided := [], failure := some e, gate := outcome.gate }
    | .ok decided =>
      let later := outcome.gate.reprocess (decided.map (·.1)) rest
      { later with decided := decided :: later.decided }

end IntentGate.Gate
