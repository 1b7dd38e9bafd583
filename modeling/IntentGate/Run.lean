import IntentGate.Handler
import IntentGate.Logging.Filter
import IntentGate.Message.Lines
import IntentGate.Settings.Load

set_option autoImplicit false

namespace IntentGate

open Text

inductive RunError where
  | config (e : ConfigError)
  | gate (e : GateError)
  | batch (e : HandlerError)
  | input (e : InputError)

def RunError.message : RunError → String
  | .config e => e.message
  | .gate e => e.message
  | .batch e => e.message
  | .input e => e.message

structure Call where
  env : Environment
  read : FileReader
  input : Octets

structure Report where
  result : Except RunError (List Message)
  logged : List Event
  output : Octets
  jsonLog : Bool

namespace Report

def complaint? (report : Report) : Option String :=
  match report.result with
  | .error (.config e) => some s!"utterance-gate: {e.message}"
  | _ => none

def exitCode (report : Report) : UInt32 := if report.result.isOk then 0 else 1

end Report

namespace Call

def fullEnv (call : Call) : Environment := Settings.environment call.env call.read

def config (call : Call) : Except ConfigError AppConfig := do
  let config ← AppConfig.load call.fullEnv call.read
  config.check
  return config

def domainPath? (call : Call) : Option String :=
  match call.config with
  | .ok config => config.domain.path
  | .error _ => none

def provider? (call : Call) (config : AppConfig) : Option Provider :=
  config.domain.path.map fun path => .ofFile path (call.read path)

def filterName : String := "RUST_LOG"

-- The filter from the environment if it is well-formed, and else the level from the settings.
def logFilter (call : Call) (config : AppConfig) : LogFilter :=
  match (call.fullEnv.get? filterName).bind LogFilter.ofText? with
  | some filter => filter
  | none => (LogFilter.ofText? config.logging.level).getD []

structure Console where
  logged : List Event := []
  written : Array Octets := #[]

abbrev Action := ExceptT RunError (StateM Console)

namespace Action

def log (events : List Event) : Action Unit :=
  modify fun console => { console with logged := console.logged ++ events }

def write (octets : Octets) : Action Unit :=
  modify fun console => { console with written := console.written.push octets }

def attempt {ε α : Type} (error : ε → RunError) (result : Except ε α) : Action α :=
  ExceptT.mk (pure (result.mapError error))

end Action

def finish (handler : Handler) (messages : List Message) : Action (List Message) := do
  Action.log (handler.handleEvents messages)
  let decided ← Action.attempt .batch (handler.handle messages).result
  let processed := decided.map (·.1)
  processed.forM fun message => Action.write message.output
  return processed

def perform (call : Call) (config : AppConfig) : Action (List Message) := do
  let gate ← Action.attempt .gate (Gate.build config.rejection none none)
  Action.log (Gate.buildEvents config.rejection gate)
  Action.log (config.domain.path.toList.map .usingDomain)
  let messages ← Action.attempt .input (readMessages call.input)
  finish { gate, provider := call.provider? config } messages

def ending : Except RunError (List Message) → List Event
  | .ok _ => []
  | .error e => [.failed e.message]

def execute (call : Call) (config : AppConfig) : Report :=
  let (result, console) := (call.perform config).run {}
  let filter := call.logFilter config
  { result
    logged := (console.logged ++ ending result).filter filter.admits
    output := console.written.toList.flatten
    jsonLog := config.logging.json }

def run (call : Call) : Report :=
  match call.config with
  | .error e => { result := .error (.config e), logged := [], output := [], jsonLog := false }
  | .ok config => call.execute config

end Call

end IntentGate
