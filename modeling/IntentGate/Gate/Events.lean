import IntentGate.Gate

set_option autoImplicit false

namespace IntentGate.Gate

def installEvents (index : RequirementIndex) : List Event := [.installedIndex index.size]

def offerEvents (gate : Gate) (domain : Option DomainSchema) : List Event :=
  match gate.index, domain with
  | none, some schema =>
    match RequirementIndex.build schema with
    | .ok index => if index.isEmpty then [] else installEvents index
    | .error _ => []
  | _, _ => []

def buildEvents (config : RejectionConfig) (built : Gate) : List Event :=
  config.unimplemented.map .ignoredFeature ++ built.index.toList.flatMap installEvents

def finalEvents (gate : Gate) (message : Message) : List Event :=
  if !gate.config.enabled then []
  else if message.wantsFinal then
    if gate.config.forceFinal then [] else [.finalIgnored]
  else []

def evaluationEvents (gate : Gate) (message : Message) : List Event :=
  gate.finalEvents message
    ++ match gate.evaluate message with
      | .ok verdict => [.judged message.intent verdict]
      | .error _ => []

def batchEvents (gate : Gate) (total rejected : Nat) : List Message → List Event
  | [] => [.processedBatch total rejected]
  | message :: rest =>
    gate.evaluationEvents message
      ++ match gate.evaluate message with
        | .ok verdict => gate.batchEvents total (if verdict.isAccept then rejected else rejected + 1) rest
        | .error _ => []

def processEvents (gate : Gate) (messages : List Message) (domain : Option DomainSchema) :
    List Event :=
  gate.offerEvents domain
    ++ match gate.offer domain with
      | .ok gate => gate.batchEvents messages.length 0 messages
      | .error _ => []

end IntentGate.Gate
