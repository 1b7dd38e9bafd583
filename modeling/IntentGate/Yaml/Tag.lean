import IntentGate.Text
import IntentGate.Yaml.Cursor

set_option autoImplicit false

namespace IntentGate.Yaml

structure WrittenTag where
  handle : List Char
  rest : List Char
deriving DecidableEq

def isUriChar (full : Bool) (c : Char) : Bool :=
  isWordChar c || ";/?:@&=+$.%!~*\x27()".toList.contains c || (full && ",[]".toList.contains c)

def leadOctet? (n : Nat) : Option (Nat × Nat) :=
  if n < 0x80 then some (0, n)
  else if 0xC0 ≤ n ∧ n < 0xE0 then some (1, n % 0x20)
  else if 0xE0 ≤ n ∧ n < 0xF0 then some (2, n % 0x10)
  else if 0xF0 ≤ n ∧ n < 0xF8 then some (3, n % 0x08)
  else none

-- Undoes the percent escapes of a tag. `unfinished` is a character of which octets are missing: how many,
-- and its bits so far.
def unescapeFrom (unfinished : Option (Nat × Nat)) : List Char → Option (List Char)
  | '%' :: a :: b :: rest => do
    let n ← Text.natural? 16 [a, b]
    match unfinished with
    | some (missing, bits) =>
      if n < 0x80 || 0xC0 ≤ n then none
      else if missing = 1 then
        return Char.ofNat (bits * 64 + n % 64) :: (← unescapeFrom none rest)
      else unescapeFrom (some (missing - 1, bits * 64 + n % 64)) rest
    | none =>
      match ← leadOctet? n with
      | (0, bits) => return Char.ofNat bits :: (← unescapeFrom none rest)
      | (missing, bits) => unescapeFrom (some (missing, bits)) rest
  | c :: rest =>
    if unfinished.isSome || c = '%' then none else (unescapeFrom none rest).map (c :: ·)
  | [] => if unfinished.isSome then none else some []

def Cursor.uri? (c : Cursor) (full : Bool) : Option (List Char × Cursor) := do
  let (cs, after) := c.span (isUriChar full)
  return (← unescapeFrom none cs, after)

def Cursor.handle (c : Cursor) : List Char × Cursor :=
  let (word, after) := (c.skip 1).span isWordChar
  if after.rest.head? = some '!' then ('!' :: word ++ ['!'], after.skip 1) else ('!' :: word, after)

def endsTag (inFlow : Bool) (rest : List Char) : Bool :=
  atGap rest || (inFlow && rest.head? = some ',')

def Cursor.writtenTag? (c : Cursor) : Option (WrittenTag × Cursor) :=
  match c.rest with
  | '!' :: '<' :: _ => do
    let (rest, after) ← (c.skip 2).uri? true
    if rest.isEmpty ∨ after.rest.head? ≠ some '>' then none
    else some ({ handle := [], rest }, after.skip 1)
  | _ => do
    let (handle, after) := c.handle
    if 1 < handle.length ∧ handle.getLast? = some '!' then
      let (rest, after) ← after.uri? false
      if rest.isEmpty then none else some ({ handle, rest }, after)
    else
      let (rest, after) ← after.uri? false
      match handle.drop 1 ++ rest with
      | [] => some ({ handle := [], rest := ['!'] }, after)
      | rest => some ({ handle := ['!'], rest }, after)

def Cursor.tag? (c : Cursor) (inFlow : Bool) : Option (WrittenTag × Cursor) :=
  c.writtenTag?.filter fun (_, after) => endsTag inFlow after.rest

inductive Directive where
  | version (major minor : Nat)
  | tag (handle start : List Char)

def Cursor.versionPart? (c : Cursor) : Option (Nat × Cursor) := do
  let (digits, after) := c.span Text.isDigit
  if 9 < digits.length then none else some (← Text.natural? 10 digits, after)

def Cursor.spaces (c : Cursor) : Cursor := (c.span isSpace).2

def Cursor.version? (c : Cursor) : Option (Directive × Cursor) := do
  let (major, after) ← c.spaces.versionPart?
  if after.rest.head? ≠ some '.' then none
  else
    let (minor, after) ← (after.skip 1).versionPart?
    return (.version major minor, after)

def Cursor.tagDirective? (c : Cursor) : Option (Directive × Cursor) := do
  let c := c.spaces
  let (handle, after) := c.handle
  if c.rest.head? ≠ some '!' ∨ (handle ≠ ['!'] ∧ handle.getLast? ≠ some '!')
      ∨ !(after.rest.head?.any isSpace) then none
  else
    let (start, after) ← after.spaces.uri? true
    if start.isEmpty ∨ !atGap after.rest then none else some (.tag handle start, after)

def Cursor.directive? (c : Cursor) : Option (Directive × Cursor) := do
  let (name, after) := (c.skip 1).span isWordChar
  if !atGap after.rest then none
  else
    let (directive, after) ← match String.ofList name with
      | "YAML" => after.version?
      | "TAG" => after.tagDirective?
      | _ => none
    return (directive, ← after.endLine?)

end IntentGate.Yaml
