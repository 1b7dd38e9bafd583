import IntentGate.Config.Wire
import IntentGate.Text

set_option autoImplicit false

namespace IntentGate

open Json Shape

def defaultLevel : String := "info"

structure LoggingConfig where
  level : String := defaultLevel
  json : Bool := false
deriving DecidableEq

structure DomainSource where
  path : Option String := none
deriving DecidableEq

structure AppConfig where
  rejection : RejectionConfig := {}
  domain : DomainSource := {}
  logging : LoggingConfig := {}
deriving DecidableEq

def logLevels : List String := ["trace", "debug", "info", "warn", "error"]

def LoggingConfig.validate (logging : LoggingConfig) : Except InvalidSetting Unit :=
  if Text.lower logging.level ∈ logLevels then .ok () else .error (.logLevel logging.level)

def AppConfig.validate (config : AppConfig) : Except InvalidSetting Unit := do
  config.rejection.validate
  config.logging.validate

def LoggingConfig.unnamed : LoggingConfig where
  level := defaultLevel
  json := false

variable {δ : Type} [Source δ]

def readLogging (d : δ) : Except Fault LoggingConfig :=
  readPlain "LoggingConfig"
    [field .defaulted "level" textOf fun x l => { l with level := x },
     field .defaulted "json" Source.bool fun x l => { l with json := x }] .unnamed d

def readDomainSource (d : δ) : Except Fault DomainSource :=
  readPlain "DomainSourceConfig"
    [field .optional "path" (optionOf (Source.text "path string")) fun x _ => { path := x }] {} d

def readAppConfig (d : δ) : Except Fault AppConfig :=
  readPlain "AppConfig"
    [field .defaulted "rejection" readRejectionConfig fun x c => { c with rejection := x },
     field .defaulted "domain" readDomainSource fun x c => { c with domain := x },
     field .defaulted "logging" readLogging fun x c => { c with logging := x }] {} d

end IntentGate
