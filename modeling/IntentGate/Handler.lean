import IntentGate.Gate.Events
import IntentGate.Provider

set_option autoImplicit false

namespace IntentGate

inductive HandlerError where
  | domain (e : LoadError)
  | gate (e : GateError)

def HandlerError.message : HandlerError → String
  | .domain e => s!"Domain error: {e.message}"
  | .gate e => s!"Rejection gate error: {e.message}"

structure BatchReport where
  messages : List Message
  verdicts : List Verdict

namespace BatchReport

def ofDecided (decided : List (Message × Verdict)) : BatchReport :=
  let (messages, verdicts) := decided.unzip
  { messages, verdicts }

def rejectedCount (report : BatchReport) : Nat := (report.verdicts.filter (·.isReject)).length

end BatchReport

structure Handler where
  gate : Gate
  provider : Option Provider := none
  domain : Option DomainSchema := none
  calls : Nat := 0

namespace Handler

def loading? (h : Handler) : Option (Except LoadError DomainSchema) :=
  match h.provider, h.domain with
  | some provider, none => some (provider.answer h.calls)
  | _, _ => none

def load (h : Handler) : Except LoadError Unit × Handler :=
  match h.loading? with
  | none => (.ok (), h)
  | some (.ok schema) => (.ok (), { h with domain := some schema, calls := h.calls + 1 })
  | some (.error e) => (.error e, { h with calls := h.calls + 1 })

def offered (h : Handler) : Option DomainSchema :=
  match h.provider with
  | some _ => h.domain
  | none => none

structure Outcome where
  result : Except HandlerError (List (Message × Verdict))
  handler : Handler

def Outcome.report (outcome : Outcome) : Except HandlerError BatchReport := outcome.result.map .ofDecided

def handle (h : Handler) (messages : List Message) : Outcome :=
  match h.load with
  | (.error e, h) => { result := .error (.domain e), handler := h }
  | (.ok (), h) =>
    let outcome := h.gate.processWithVerdicts messages h.offered
    { result := outcome.result.mapError .gate, handler := { h with gate := outcome.gate } }

def after (h : Handler) (batches : List (List Message)) : Handler :=
  batches.foldl (fun h messages => (h.handle messages).handler) h

def loadEvents (h : Handler) : List Event :=
  match h.provider, h.loading? with
  | some provider, some answer => provider.events answer
  | _, _ => []

def finishEvents (h : Handler) : Except HandlerError BatchReport → List Event
  | .ok report => [.finishedStage report.messages.length report.rejectedCount h.gate.config.method]
  | .error _ => []

def handleEvents (h : Handler) (messages : List Message) : List Event :=
  h.loadEvents
    ++ match h.load with
      | (.error _, _) => []
      | (.ok (), loaded) =>
        loaded.gate.processEvents messages loaded.offered ++ h.finishEvents (h.handle messages).report

end Handler

end IntentGate
