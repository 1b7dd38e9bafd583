set_option autoImplicit false

namespace IntentGate.Yaml

def isBreak (c : Char) : Bool := c = '\n' || c.toNat = 0x2028 || c.toNat = 0x2029

def isSpace (c : Char) : Bool := c = ' ' || c = '\t'

def isGap (c : Char) : Bool := isSpace c || isBreak c

def atGap : List Char → Bool
  | [] => true
  | c :: _ => isGap c

def isWordChar (c : Char) : Bool := c.isAlphanum || c = '_' || c = '-'

def byteOrderMark : Char := Char.ofNat 0xFEFF

def isAllowed (c : Char) : Bool :=
  let n := c.toNat
  c = '\t' || c = '\n' || c = '\r' || (0x20 ≤ n && n ≤ 0x7E) || n = 0x85
    || (0xA0 ≤ n && n ≤ 0xD7FF) || (0xE000 ≤ n && n ≤ 0xFFFD) || 0x10000 ≤ n

def uniform : List Char → List Char
  | '\r' :: '\n' :: rest => '\n' :: uniform rest
  | c :: rest => (if c = '\r' || c.toNat = 0x85 then '\n' else c) :: uniform rest
  | [] => []

structure Cursor where
  rest : List Char
  line : Nat := 0
  column : Nat := 0

def Cursor.ofText? (s : String) : Option Cursor :=
  let cs := match s.toList with
    | c :: cs => if c = byteOrderMark then cs else c :: cs
    | [] => []
  if cs.all isAllowed then some { rest := uniform cs } else none

def Cursor.skip (c : Cursor) (n : Nat) : Cursor :=
  { c with rest := c.rest.drop n, column := c.column + n }

def Cursor.nextLine (c : Cursor) : Cursor := { rest := c.rest.drop 1, line := c.line + 1 }

def Cursor.span (c : Cursor) (p : Char → Bool) : List Char × Cursor :=
  let taken := c.rest.takeWhile p
  (taken, c.skip taken.length)

def Cursor.endLine? (c : Cursor) : Option Cursor :=
  let c := (c.span isSpace).2
  let c := if c.rest.head? = some '#' then (c.span fun x => !isBreak x).2 else c
  match c.rest with
  | [] => some c
  | x :: _ => if isBreak x then some c.nextLine else none

def isDocumentMark (column : Nat) : List Char → Bool
  | '-' :: '-' :: '-' :: rest => column = 0 && atGap rest
  | '.' :: '.' :: '.' :: rest => column = 0 && atGap rest
  | _ => false

-- Moves to the next token, over spaces, comments and line ends. Outside brackets a line end allows a
-- simple key to follow, and where one may follow no tab can stand. Tells whether one may follow.
def nextToken (inFlow : Bool) :
    (keyAllowed inComment : Bool) → (line column : Nat) → List Char → Bool × Cursor
  | keyAllowed, _, line, column, [] => (keyAllowed, { rest := [], line, column })
  | keyAllowed, inComment, line, column, c :: rest =>
    if isBreak c then nextToken inFlow (keyAllowed || !inFlow) false (line + 1) 0 rest
    else if inComment || c = ' ' || c = '#' || (c = '\t' && (inFlow || !keyAllowed))
        || (c = byteOrderMark && column = 0) then
      nextToken inFlow keyAllowed (inComment || c = '#') line (column + 1) rest
    else (keyAllowed, { rest := c :: rest, line, column })

end IntentGate.Yaml
