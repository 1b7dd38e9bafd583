import IntentGate.Config.Application
import IntentGate.Files
import IntentGate.Settings.Conversion
import IntentGate.Settings.EnvironmentFile
import IntentGate.Settings.Path
import IntentGate.Settings.Yaml
import IntentGate.Shape.Json
import IntentGate.Toml.Document

set_option autoImplicit false

namespace IntentGate

open Shape

namespace Settings

def fileName : String := "utterance_gate"

def ofJson? (s : String) : Option (Keyed Setting) :=
  match valueOfText s with
  | .ok v =>
    match Setting.ofJson v with
    | .table entries => some entries
    | _ => none
  | .error _ => none

def formats : List (String × (String → Option (Keyed Setting))) :=
  [("json", ofJson?), ("yaml", Setting.ofYaml?), ("yml", Setting.ofYaml?), ("toml", Toml.settings?)]

def isFile (read : FileReader) (path : String) : Bool := (read path).isOk

def ofContent? (parse : String → Option (Keyed Setting)) (content : FileContent) :
    Option (Keyed Setting) :=
  match content.text with
  | .ok s => parse s
  | .error _ => some []

-- The settings of the first file there is. A file with no extension hides the others and has none.
def ofFile? (read : FileReader) : Option (Keyed Setting) :=
  if isFile read fileName then some []
  else
    let path (format : String × (String → Option (Keyed Setting))) := s!"{fileName}.{format.1}"
    match formats.find? fun format => isFile read (path format) with
    | some format => ofContent? format.2 (read (path format))
    | none => some []

def environment (env : Environment) (read : FileReader) : Environment :=
  match read ".env" with
  | .ok content => EnvironmentFile.load env content
  | .error _ => env

def paths : List String :=
  ".env" :: fileName :: formats.map fun format => s!"{fileName}.{format.1}"

end Settings

inductive ConfigError where
  | unloadable
  | invalid (cause : InvalidSetting)
deriving DecidableEq

def ConfigError.message : ConfigError → String
  | .unloadable => "Configuration loading failed"
  | .invalid cause => s!"Validation failed: {cause.message}"

namespace AppConfig

def load (env : Environment) (read : FileReader) : Except ConfigError AppConfig :=
  match Settings.ofFile? read with
  | none => .error .unloadable
  | some file =>
    match readAppConfig ((Setting.gather (.table []) file).gather env.settings) with
    | .ok config => .ok config
    | .error _ => .error .unloadable

def check (config : AppConfig) : Except ConfigError Unit := config.validate.mapError .invalid

end AppConfig

end IntentGate
