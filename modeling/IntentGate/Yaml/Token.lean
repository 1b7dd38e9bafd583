import IntentGate.Yaml.Scalar.Block
import IntentGate.Yaml.Scalar.Flow
import IntentGate.Yaml.Tag

/-! The tokens of a YAML text. A colon can show that what was read before it is a key; the key's token is
then put in front of that. -/

set_option autoImplicit false

namespace IntentGate.Yaml

inductive Token where
  | streamEnd
  | directive (d : Directive)
  | documentStart
  | documentEnd
  | blockSequence
  | blockMapping
  | blockEnd
  | flowSequence
  | flowSequenceEnd
  | flowMapping
  | flowMappingEnd
  | comma
  | item
  | key
  | value
  | reference (name : List Char)
  | anchor (name : List Char)
  | tag (t : WrittenTag)
  | scalar (text : List Char) (isPlain : Bool)

-- A place that turns out to be a key if a colon follows on its line. `token` counts the tokens before
-- it. Where a block mapping goes on, nothing else can stand.
structure SimpleKey where
  token : Nat
  line : Nat
  column : Nat
  required : Bool

-- A text as far as it has been cut into tokens. The last token comes first. `indent` is the column of
-- the innermost block collection, with those around it in `outer`; `keys` has a place for each open
-- bracket and one for the outside.
structure Scanner where
  cursor : Cursor
  tokens : List Token := []
  keyAllowed : Bool := true
  indent : Option Nat := none
  outer : List (Option Nat) := []
  keys : List (Option SimpleKey) := [none]

namespace Scanner

def inFlow (s : Scanner) : Bool := 1 < s.keys.length

def emit (t : Token) (s : Scanner) : Scanner := { s with tokens := t :: s.tokens }

def emitAt (count : Nat) (t : Token) (s : Scanner) : Scanner :=
  { s with tokens := s.tokens.insertIdx (s.tokens.length - count) t }

def SimpleKey.isStale (k : SimpleKey) (c : Cursor) : Bool :=
  k.line < c.line || k.column + 1024 < c.column

def dropStale? (s : Scanner) : Option Scanner := do
  let keys ← s.keys.mapM fun key =>
    match key with
    | some k => if SimpleKey.isStale k s.cursor then if k.required then none else some none else some key
    | none => some none
  return { s with keys }

def forgetKey? (s : Scanner) : Option Scanner :=
  match s.keys with
  | some k :: keys => if k.required then none else some { s with keys := none :: keys }
  | _ => some s

def noteKey? (s : Scanner) : Option Scanner := do
  if s.keyAllowed then
    let s ← s.forgetKey?
    let key : SimpleKey :=
      { token := s.tokens.length, line := s.cursor.line, column := s.cursor.column,
        required := !s.inFlow && s.indent = some s.cursor.column }
    return { s with keys := some key :: s.keys.drop 1 }
  else return s

def isDeeper (column : Nat) : Option Nat → Bool
  | some indent => indent < column
  | none => true

def openBlock (column count : Nat) (t : Token) (s : Scanner) : Scanner :=
  if !s.inFlow && isDeeper column s.indent then
    { s.emitAt count t with indent := some column, outer := s.indent :: s.outer }
  else s

def closeBlocks (p : Nat → Bool) (tokens : List Token) :
    (indent : Option Nat) → (outer : List (Option Nat)) → List Token × Option Nat × List (Option Nat)
  | some indent, next :: outer =>
    if p indent then closeBlocks p (.blockEnd :: tokens) next outer
    else (tokens, some indent, next :: outer)
  | indent, outer => (tokens, indent, outer)

def unindent (p : Nat → Bool) (s : Scanner) : Scanner :=
  if s.inFlow then s
  else
    let (tokens, indent, outer) := closeBlocks p s.tokens s.indent s.outer
    { s with tokens, indent, outer }

def closeAll? (s : Scanner) : Option Scanner := do
  return { ← (s.unindent fun _ => true).forgetKey? with keyAllowed := false }

def skip (n : Nat) (s : Scanner) : Scanner := { s with cursor := s.cursor.skip n }

def mark (t : Token) (s : Scanner) : Scanner := (s.skip 1).emit t

def openFlow? (t : Token) (s : Scanner) : Option Scanner := do
  let s ← s.noteKey?
  return { s with keys := none :: s.keys, keyAllowed := true }.mark t

def closeFlow? (t : Token) (s : Scanner) : Option Scanner := do
  let s ← s.forgetKey?
  let keys := if s.inFlow then s.keys.drop 1 else s.keys
  return { s with keys, keyAllowed := false }.mark t

def comma? (s : Scanner) : Option Scanner := do
  return { ← s.forgetKey? with keyAllowed := true }.mark .comma

def item? (s : Scanner) : Option Scanner := do
  if !s.inFlow && !s.keyAllowed then none
  else
    let s := s.openBlock s.cursor.column s.tokens.length .blockSequence
    return { ← s.forgetKey? with keyAllowed := true }.mark .item

def key? (s : Scanner) : Option Scanner := do
  if !s.inFlow && !s.keyAllowed then none
  else
    let s := s.openBlock s.cursor.column s.tokens.length .blockMapping
    return { ← s.forgetKey? with keyAllowed := !s.inFlow }.mark .key

def value? (s : Scanner) : Option Scanner :=
  match s.keys with
  | some k :: keys =>
    let s := (s.emitAt k.token .key).openBlock k.column k.token .blockMapping
    some ({ s with keys := none :: keys, keyAllowed := false }.mark .value)
  | _ =>
    if !s.inFlow && !s.keyAllowed then none
    else
      let s := s.openBlock s.cursor.column s.tokens.length .blockMapping
      some ({ s with keyAllowed := !s.inFlow }.mark .value)

def name? (make : List Char → Token) (s : Scanner) : Option Scanner := do
  let s ← s.noteKey?
  let (name, cursor) := (s.cursor.skip 1).span isWordChar
  let ends := atGap cursor.rest || cursor.rest.head?.any fun c => "?:,]\x7d%@\x60".toList.contains c
  if name.isEmpty || !ends then none
  else some { s.emit (make name) with cursor, keyAllowed := false }

def tag? (s : Scanner) : Option Scanner := do
  let s ← s.noteKey?
  let (t, cursor) ← s.cursor.tag? s.inFlow
  return { s.emit (.tag t) with cursor, keyAllowed := false }

def quoted? (quote : Quote) (s : Scanner) : Option Scanner := do
  let s ← s.noteKey?
  let (text, cursor) ← s.cursor.quoted? quote
  return { s.emit (.scalar text false) with cursor, keyAllowed := false }

def plain? (s : Scanner) : Option Scanner := do
  let s ← s.noteKey?
  let plain ← s.cursor.plain? s.inFlow (s.indent.elim 0 (· + 1))
  return { s.emit (.scalar plain.text true) with cursor := plain.after, keyAllowed := plain.newLine }

def block? (literal : Bool) (s : Scanner) : Option Scanner := do
  let s ← s.forgetKey?
  let (text, cursor) ← s.cursor.block? literal s.indent
  return { s.emit (.scalar text false) with cursor, keyAllowed := true }

def directive? (s : Scanner) : Option Scanner := do
  let s ← s.closeAll?
  let (d, cursor) ← s.cursor.directive?
  return { s.emit (.directive d) with cursor }

def documentMark? (s : Scanner) : Option Scanner := do
  let t := if s.cursor.rest.head? = some '-' then Token.documentStart else .documentEnd
  return ((← s.closeAll?).skip 3).emit t

def reserved : List Char := ",[]\x7b\x7d#&*!|>\x27\x22%@\x60-?:".toList

def startsPlain (inFlow : Bool) (c : Char) (rest : List Char) : Bool :=
  (!isGap c && !reserved.contains c) || (c = '-' && !(rest.head?.any isSpace))
    || (!inFlow && (c = '?' || c = ':') && !atGap rest)

def token? (c : Char) (rest : List Char) (s : Scanner) : Option Scanner :=
  if c = '%' && s.cursor.column = 0 then s.directive?
  else if isDocumentMark s.cursor.column (c :: rest) then s.documentMark?
  else
    match c with
    | '[' => s.openFlow? .flowSequence
    | '\x7b' => s.openFlow? .flowMapping
    | ']' => s.closeFlow? .flowSequenceEnd
    | '\x7d' => s.closeFlow? .flowMappingEnd
    | ',' => s.comma?
    | '*' => s.name? .reference
    | '&' => s.name? .anchor
    | '!' => s.tag?
    | '\x27' => s.quoted? .single
    | '\x22' => s.quoted? .double
    | c =>
      if c = '-' && atGap rest then s.item?
      else if c = '?' && (s.inFlow || atGap rest) then s.key?
      else if c = ':' && (s.inFlow || atGap rest) then s.value?
      else if (c = '|' || c = '>') && !s.inFlow then s.block? (c = '|')
      else if startsPlain s.inFlow c rest then s.plain?
      else none

def next? (s : Scanner) : Option (Scanner ⊕ List Token) := do
  let (keyAllowed, cursor) :=
    nextToken s.inFlow s.keyAllowed false s.cursor.line s.cursor.column s.cursor.rest
  let s ← { s with keyAllowed, cursor }.dropStale?
  let s := s.unindent (cursor.column < ·)
  match cursor.rest with
  | [] => return .inr ((← s.closeAll?).emit .streamEnd).tokens.reverse
  | c :: rest => return .inl (← s.token? c rest)

-- Every token takes a character, so that there are at most `count` before the end.
def run? : (count : Nat) → Scanner → Option (List Token)
  | 0, _ => none
  | count + 1, s => do
    match ← s.next? with
    | .inl s => run? count s
    | .inr tokens => return tokens

end Scanner

def tokens? (s : String) : Option (List Token) := do
  let cursor ← Cursor.ofText? s
  Scanner.run? (cursor.rest.length + 1) { cursor }

end IntentGate.Yaml
