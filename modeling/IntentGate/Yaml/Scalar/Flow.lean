import IntentGate.Text
import IntentGate.Yaml.Cursor

set_option autoImplicit false

namespace IntentGate.Yaml

-- White space met and not yet written: within a line, or from the first line end on. Later characters
-- come first.
inductive Pending where
  | spaces (cs : List Char)
  | lines (first : Option Char) (more : List Char)

def Pending.none : Pending := .spaces []

def Pending.hasLines : Pending → Bool
  | .spaces _ => false
  | .lines _ _ => true

def Pending.isNone : Pending → Bool
  | .spaces [] => true
  | _ => false

def Pending.push (c : Char) : Pending → Pending
  | .spaces cs => if isBreak c then .lines c [] else .spaces (c :: cs)
  | .lines first more => .lines first (if isBreak c then c :: more else more)

def Pending.flush (text : List Char) : Pending → List Char
  | .spaces cs => cs ++ text
  | .lines (some '\n') [] => ' ' :: text
  | .lines (some '\n') more => more ++ text
  | .lines (some c) more => more ++ c :: text
  | .lines .none more => more ++ text

def isFlowMark (c : Char) : Bool := c = ',' || c = '[' || c = ']' || c = '\x7b' || c = '\x7d'

structure Plain where
  text : List Char
  after : Cursor
  newLine : Bool

def isBadColon (c : Char) (rest : List Char) : Bool :=
  c = ':' && (rest.head?.any fun x => isFlowMark x || x = '?')

def endsPlain (inFlow : Bool) (c : Char) (rest : List Char) : Bool :=
  (c = ':' && atGap rest) || (inFlow && isFlowMark c)

def plainFrom (inFlow : Bool) (indent : Nat) (text : List Char) (pending : Pending)
    (line column : Nat) : List Char → Option Plain
  | [] => some { text := text.reverse, after := { rest := [], line, column }, newLine := pending.hasLines }
  | c :: rest =>
    let stop : Plain :=
      { text := text.reverse, after := { rest := c :: rest, line, column }, newLine := pending.hasLines }
    if isBreak c then plainFrom inFlow indent text (pending.push c) (line + 1) 0 rest
    else if isSpace c then
      if c = '\t' && pending.hasLines && column < indent then none
      else plainFrom inFlow indent text (pending.push c) line (column + 1) rest
    else if !pending.isNone
        && ((!inFlow && column < indent) || isDocumentMark column (c :: rest) || c = '#') then some stop
    else if inFlow && isBadColon c rest then none
    else if endsPlain inFlow c rest then some stop
    else plainFrom inFlow indent (c :: pending.flush text) .none line (column + 1) rest

def Cursor.plain? (c : Cursor) (inFlow : Bool) (indent : Nat) : Option Plain :=
  plainFrom inFlow indent [] .none c.line c.column c.rest

inductive Quote where
  | single
  | double
deriving DecidableEq

def Quote.char : Quote → Char
  | .single => '\x27'
  | .double => '\x22'

def shortEscapes : List (Char × Nat) :=
  [('0', 0), ('a', 7), ('b', 8), ('t', 9), ('\t', 9), ('n', 10), ('v', 11), ('f', 12), ('r', 13),
   ('e', 27), (' ', 32), ('\x22', 34), ('/', 47), ('\\', 92), ('N', 0x85), ('_', 0xA0),
   ('L', 0x2028), ('P', 0x2029)]

def coded? (digits : List Char) : Option Char :=
  match Text.natural? 16 digits with
  | some n => if Nat.isValidChar n then some (Char.ofNat n) else none
  | none => none

def quotedFrom (quote : Quote) (text : List Char) (pending : Pending) (line column : Nat) :
    List Char → Option (List Char × Cursor)
  | [] => none
  | c :: rest =>
    if isBreak c then quotedFrom quote text (pending.push c) (line + 1) 0 rest
    else if isSpace c then quotedFrom quote text (pending.push c) line (column + 1) rest
    else if isDocumentMark column (c :: rest) then none
    else
      let text := pending.flush text
      match quote, c, rest with
      | .single, '\x27', '\x27' :: rest =>
        quotedFrom quote ('\x27' :: text) .none line (column + 2) rest
      | .double, '\\', 'x' :: a :: b :: rest => do
        quotedFrom quote ((← coded? [a, b]) :: text) .none line (column + 4) rest
      | .double, '\\', 'u' :: a :: b :: c :: d :: rest => do
        quotedFrom quote ((← coded? [a, b, c, d]) :: text) .none line (column + 6) rest
      | .double, '\\', 'U' :: a :: b :: c :: d :: e :: f :: g :: h :: rest => do
        quotedFrom quote ((← coded? [a, b, c, d, e, f, g, h]) :: text) .none line (column + 10) rest
      | .double, '\\', e :: rest =>
        if isBreak e then quotedFrom quote text (.lines none []) (line + 1) 0 rest
        else do
          quotedFrom quote (Char.ofNat (← shortEscapes.lookup e) :: text) .none line (column + 2) rest
      | .double, '\\', [] => none
      | quote, c, rest =>
        if c = quote.char then some (text.reverse, { rest, line, column := column + 1 })
        else quotedFrom quote (c :: text) .none line (column + 1) rest

def Cursor.quoted? (c : Cursor) (quote : Quote) : Option (List Char × Cursor) :=
  quotedFrom quote [] .none c.line (c.column + 1) (c.rest.drop 1)

end IntentGate.Yaml
