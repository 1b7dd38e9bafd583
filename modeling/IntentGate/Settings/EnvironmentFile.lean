import IntentGate.Settings.Environment
import IntentGate.Text

set_option autoImplicit false

namespace IntentGate.EnvironmentFile

inductive Spot where
  | plain
  | escape
  | space
  | single
  | singleEscape
  | double
  | doubleEscape
deriving DecidableEq

def opening (c : Char) : Spot :=
  if c = '\\' then .escape
  else if c = '\x22' then .double
  else if c = '\x27' then .single
  else .plain

def Spot.next (spot : Spot) (c : Char) : Spot :=
  match spot with
  | .space => opening c
  | .escape => .plain
  | .plain => if Text.isBlankChar c && c ≠ '\n' && c ≠ '\r' then .space else opening c
  | .double => if c = '\\' then .doubleEscape else if c = '\x22' then .plain else .double
  | .doubleEscape => .double
  | .single => if c = '\\' then .singleEscape else if c = '\x27' then .plain else .single
  | .singleEscape => .single

def readOn (spot : Spot) (done : List Char) : List Char → Spot × List Char
  | [] => (spot, done)
  | c :: rest =>
    if spot = .space && c = '#' then (.plain, done) else readOn (spot.next c) (c :: done) rest

def withoutEnd : List Char → List Char
  | '\n' :: '\r' :: rest => rest.reverse
  | '\n' :: rest => rest.reverse
  | cs => cs.reverse

def isComment (cs : List Char) : Bool := (cs.dropWhile Text.isBlankChar).head? = some '#'

def joined (spot : Spot) (done : List Char) : List (Option String) → List (Option (List Char))
  | [] => if spot = .plain then [] else [none]
  | none :: _ => [none]
  | some line :: rest =>
    if isComment (done.reverse ++ line.toList) then some [] :: joined .plain [] rest
    else
      match readOn spot done line.toList with
      | (.plain, done) => some (withoutEnd done) :: joined .plain [] rest
      | (spot, done) => joined spot done rest

def pieces (reversed : Text.Octets) : Text.Octets → List Text.Octets
  | [] => if reversed.isEmpty then [] else [reversed.reverse]
  | c :: rest =>
    if c = Text.lineFeed then (c :: reversed).reverse :: pieces [] rest
    else pieces (c :: reversed) rest

def withoutMark : Text.Octets → Text.Octets
  | 0xEF :: 0xBB :: 0xBF :: rest => rest
  | octets => octets

-- What the lines so far have set, also by leaving it empty, and the environment around them.
structure Known where
  env : Environment
  lines : Environment := []

def Known.value (known : Known) (name : List Char) : List Char :=
  let name := String.ofList name
  ((known.env.get? name).orElse fun _ => known.lines.get? name).elim [] String.toList

-- How the characters of a value are taken. A reference keeps its name in reverse.
inductive Mode where
  | plain
  | single
  | double
  | reference (inDouble : Bool) (name : List Char)
  | braced (inDouble : Bool) (name : List Char)
  | ended

def Mode.outside (inDouble : Bool) : Mode := if inDouble then .double else .plain

def escaped? (c : Char) : Option Char :=
  if c = 'n' then some '\n'
  else if c = '\\' || c = '\x27' || c = '\x22' || c = '$' || c = ' ' then some c
  else none

def valueFrom (known : Known) (mode : Mode) (done : List Char) : List Char → Option (List Char)
  | [] =>
    match mode with
    | .plain | .ended => some done.reverse
    | .reference false name => some (done.reverse ++ known.value name.reverse)
    | _ => none
  | c :: rest =>
    match mode with
    | .ended =>
      if c = ' ' || c = '\t' then valueFrom known .ended done rest
      else if c = '#' then some done.reverse
      else none
    | .single =>
      if c = '\x27' then valueFrom known .plain done rest else valueFrom known .single (c :: done) rest
    | .reference inDouble name =>
      if c.isAlphanum then valueFrom known (.reference inDouble (c :: name)) done rest
      else if c = '\x7b' && name.isEmpty then valueFrom known (.braced inDouble []) done rest
      else
        let done := (known.value name.reverse).reverse ++ done
        if c = '$' then valueFrom known (.reference inDouble []) done rest
        else valueFrom known (.outside inDouble) (c :: done) rest
    | .braced inDouble name =>
      if c = '\x7d' then
        valueFrom known (.outside inDouble) ((known.value name.reverse).reverse ++ done) rest
      else valueFrom known (.braced inDouble (c :: name)) done rest
    | .plain =>
      if c = '$' then valueFrom known (.reference false []) done rest
      else if c = '\x27' then valueFrom known .single done rest
      else if c = '\x22' then valueFrom known .double done rest
      else if c = ' ' || c = '\t' then valueFrom known .ended done rest
      else if c = '\\' then
        match rest with
        | [] => some done.reverse
        | e :: rest =>
          match escaped? e with
          | some x => valueFrom known .plain (x :: done) rest
          | none => none
      else valueFrom known .plain (c :: done) rest
    | .double =>
      if c = '$' then valueFrom known (.reference true []) done rest
      else if c = '\x22' then valueFrom known .plain done rest
      else if c = '\\' then
        match rest with
        | [] => none
        | e :: rest =>
          match escaped? e with
          | some x => valueFrom known .double (x :: done) rest
          | none => none
      else valueFrom known .double (c :: done) rest

def isNameStart (c : Char) : Bool := c.isAlpha || c = '_'

def isNameChar (c : Char) : Bool := c.isAlphanum || c = '_' || c = '.'

def skipBlank (cs : List Char) : List Char := cs.dropWhile Text.isBlankChar

def name? (cs : List Char) : Option (String × List Char) :=
  if cs.head?.any isNameStart then
    let (name, rest) := cs.span isNameChar
    some (String.ofList name, skipBlank rest)
  else none

def assignment? (cs : List Char) : Option (String × List Char) := do
  match ← name? cs with
  | (name, '=' :: rest) => return (name, skipBlank rest)
  | ("export", rest) =>
    match ← name? rest with
    | (name, '=' :: rest) => return (name, skipBlank rest)
    | _ => none
  | _ => none

def line? (known : Known) (cs : List Char) : Option (Option (String × String)) := do
  let cs := Text.trim cs
  if cs.isEmpty || cs.head? = some '#' then return none
  else
    let (name, value) ← assignment? cs
    if value.isEmpty || value.head? = some '#' then return some (name, "")
    else return some (name, String.ofList (← valueFrom known .plain [] value))

def Known.set (known : Known) (name value : String) : Known :=
  let lines := (name, value) :: known.lines
  match known.env.get? name with
  | some _ => { known with lines }
  | none => { env := (name, value) :: known.env, lines }

def apply (known : Known) : List (Option (List Char)) → Environment
  | some cs :: rest =>
    match line? known cs with
    | some (some (name, value)) => apply (known.set name value) rest
    | some none => apply known rest
    | none => known.env
  | _ => known.env

def load (env : Environment) (content : Text.Octets) : Environment :=
  apply { env } (joined .plain [] ((pieces [] (withoutMark content)).map Text.decode?))

end IntentGate.EnvironmentFile
