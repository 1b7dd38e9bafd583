import IntentGate.DomainSchema
import IntentGate.Provider
import IntentGate.Text

set_option autoImplicit false

namespace IntentGate

open Text

inductive FileFault where
  | notFound
  | notDirectory
  | isDirectory
  | nameTooLong
  | nulInName
  | notText
  | other (reason : String)
deriving DecidableEq

def FileFault.message : FileFault → String
  | .notFound => "No such file or directory (os error 2)"
  | .notDirectory => "Not a directory (os error 20)"
  | .isDirectory => "Is a directory (os error 21)"
  | .nameTooLong => "File name too long (os error 36)"
  | .nulInName => "file name contained an unexpected NUL byte"
  | .notText => "stream did not contain valid UTF-8"
  | .other reason => reason

abbrev FileContent := Except FileFault Octets

abbrev FileReader := String → FileContent

def FileContent.text (content : FileContent) : Except FileFault String := do
  match decode? (← content) with
  | some s => return s
  | none => throw .notText

def loadDomain (path : String) (content : FileContent) : Except LoadError DomainSchema :=
  match content.text with
  | .error .notFound => .error (.notFound path)
  | .error fault => .error (.io fault.message)
  | .ok s =>
    match DomainSchema.ofYaml? s with
    | some schema => .ok schema
    | none => .error (.malformed "not a domain in YAML")

def Provider.ofFile (path : String) (content : FileContent) : Provider where
  answer _ := loadDomain path content
  path := some path

end IntentGate
