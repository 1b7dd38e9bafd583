import IntentGate.Text
import IntentGate.Yaml.Cursor

set_option autoImplicit false

namespace IntentGate.Yaml

inductive Chomp where
  | strip
  | clip
  | keep

structure BlockHeader where
  chomp : Chomp := .clip
  increment : Option Nat := none

def chomp? : Char → Option Chomp
  | '+' => some .keep
  | '-' => some .strip
  | _ => none

def increment? (c : Char) : Option Nat := (Text.digitIn? 10 c).filter (0 < ·)

def blockHeader? : List Char → Option (BlockHeader × Nat)
  | c :: d :: _ =>
    match chomp? c, increment? c, chomp? d, increment? d with
    | some chomp, _, _, some n => some ({ chomp, increment := n }, 2)
    | some chomp, _, _, none => if d = '0' then none else some ({ chomp }, 1)
    | none, some n, some chomp, _ => some ({ chomp, increment := n }, 2)
    | none, some n, none, _ => some ({ increment := n }, 1)
    | none, none, _, _ => if c = '0' then none else some ({}, 0)
  | [c] =>
    match chomp? c, increment? c with
    | some chomp, _ => some ({ chomp }, 1)
    | none, some n => some ({ increment := n }, 1)
    | none, none => if c = '0' then none else some ({}, 0)
  | [] => some ({}, 0)

def leadingIndent (widest column : Nat) : List Char → Nat
  | c :: rest =>
    if c = ' ' then leadingIndent (max widest (column + 1)) (column + 1) rest
    else if isBreak c then leadingIndent widest 0 rest
    else widest
  | [] => widest

-- A block scalar being read. Texts are kept in reverse: `first` is the line end of the last line and
-- `more` those of the empty lines after it. `spaced` tells that the last line starts with a space.
structure BlockText where
  text : List Char := []
  first : List Char := []
  more : List Char := []
  spaced : Bool := false

def BlockText.begin (literal : Bool) (c : Char) (b : BlockText) : BlockText :=
  let joined := !literal && b.first = ['\n'] && !b.spaced && !isSpace c
  let text := if joined then (if b.more.isEmpty then ' ' :: b.text else b.text) else b.first ++ b.text
  { text := c :: (b.more ++ text), spaced := isSpace c }

def BlockText.finish (chomp : Chomp) (b : BlockText) : List Char :=
  match chomp with
  | .strip => b.text.reverse
  | .clip => (b.first ++ b.text).reverse
  | .keep => (b.more ++ (b.first ++ b.text)).reverse

-- Reads the lines of a block. `inLine` tells that the place is inside a line, and not in its
-- indentation; `free` that the indentation is still to be found, so that no tab can stand in it.
def blockFrom (literal : Bool) (indent : Nat) (inLine free : Bool) (b : BlockText)
    (line column : Nat) : List Char → Option (BlockText × Cursor)
  | [] => some (b, { rest := [], line, column })
  | c :: rest =>
    if isBreak c then
      let b := if inLine then { b with first := [c] } else { b with more := c :: b.more }
      blockFrom literal indent false free b (line + 1) 0 rest
    else if inLine then
      blockFrom literal indent true false { b with text := c :: b.text } line (column + 1) rest
    else if c = ' ' && column < indent then
      blockFrom literal indent false free b line (column + 1) rest
    else if c = '\t' && (free || column < indent) then none
    else if column = indent then
      blockFrom literal indent true false (b.begin literal c) line (column + 1) rest
    else some (b, { rest := c :: rest, line, column })

def Cursor.block? (c : Cursor) (literal : Bool) (parent : Option Nat) :
    Option (List Char × Cursor) := do
  let c := c.skip 1
  let (header, length) ← blockHeader? c.rest
  let c ← (c.skip length).endLine?
  let indent := match header.increment, parent with
    | some n, some parent => parent + n
    | some n, none => n
    | none, _ => max (leadingIndent 0 0 c.rest) (max 1 (parent.elim 0 (· + 1)))
  let (b, after) ← blockFrom literal indent false header.increment.isNone {} c.line c.column c.rest
  return (b.finish header.chomp, after)

end IntentGate.Yaml
