import IntentGate.Text

set_option autoImplicit false

namespace IntentGate.Toml

abbrev Scan := StateT (List Char) Option

def isSpace (c : Char) : Bool := c = ' ' || c = '\t'

def isPrintable (c : Char) : Bool := c = '\t' || (0x20 ≤ c.toNat && c.toNat ≠ 0x7F)

def spaces : Scan Unit := modify fun cs => cs.dropWhile isSpace

def next? : Scan (Option Char) := return (← get).head?

def drop (n : Nat) : Scan Unit := modify fun cs => cs.drop n

def expect (c : Char) : Scan Unit := do
  if (← next?) = some c then drop 1 else failure

def takeWhile (p : Char → Bool) : Scan (List Char) := do
  let (taken, rest) := (← get).span p
  set rest
  return taken

def lineEnd? : List Char → Option (List Char)
  | '\n' :: rest => some rest
  | '\r' :: '\n' :: rest => some rest
  | _ => none

def comment : Scan Unit := do
  if (← next?) = some '#' then
    let _ ← takeWhile isPrintable

def finishLine : Scan Unit := do
  spaces
  comment
  match ← get with
  | [] => return ()
  | cs =>
    match lineEnd? cs with
    | some rest => set rest
    | none => failure

def gapFrom : Nat → Scan Unit
  | 0 => return ()
  | fuel + 1 => do
    spaces
    comment
    match lineEnd? (← get) with
    | some rest =>
      set rest
      gapFrom fuel
    | none => return ()

def gap : Scan Unit := do gapFrom ((← get).length + 1)

def coded? (digits : List Char) : Option Char :=
  match Text.natural? 16 digits with
  | some n => if Nat.isValidChar n then some (Char.ofNat n) else none
  | none => none

def shortEscapes : List (Char × Nat) :=
  [('b', 8), ('t', 9), ('n', 10), ('f', 12), ('r', 13), ('\x22', 34), ('\\', 92)]

def basicFrom (done : List Char) : List Char → Option (String × List Char)
  | '\\' :: 'u' :: a :: b :: c :: d :: rest => do basicFrom ((← coded? [a, b, c, d]) :: done) rest
  | '\\' :: 'U' :: a :: b :: c :: d :: e :: f :: g :: h :: rest => do
    basicFrom ((← coded? [a, b, c, d, e, f, g, h]) :: done) rest
  | '\\' :: e :: rest => do basicFrom (Char.ofNat (← shortEscapes.lookup e) :: done) rest
  | c :: rest =>
    if c = '\x22' then some (String.ofList done.reverse, rest)
    else if isPrintable c then basicFrom (c :: done) rest
    else none
  | [] => none

def literalFrom (done : List Char) : List Char → Option (String × List Char)
  | c :: rest =>
    if c = '\x27' then some (String.ofList done.reverse, rest)
    else if isPrintable c then literalFrom (c :: done) rest
    else none
  | [] => none

def joinsLines (rest : List Char) : Bool := (lineEnd? (rest.dropWhile isSpace)).isSome

-- A string of several lines. Up to two quotes may stand before the closing three. `trim` tells that
-- the place follows a joined line, where white space does not count.
def basicLines (trim : Bool) (done : List Char) : List Char → Option (String × List Char)
  | '\x22' :: '\x22' :: '\x22' :: '\x22' :: '\x22' :: rest =>
    some (String.ofList (done.reverse ++ ['\x22', '\x22']), rest)
  | '\x22' :: '\x22' :: '\x22' :: '\x22' :: rest =>
    some (String.ofList (done.reverse ++ ['\x22']), rest)
  | '\x22' :: '\x22' :: '\x22' :: rest => some (String.ofList done.reverse, rest)
  | '\r' :: '\n' :: rest => basicLines trim (if trim then done else '\n' :: done) rest
  | '\n' :: rest => basicLines trim (if trim then done else '\n' :: done) rest
  | '\\' :: 'u' :: a :: b :: c :: d :: rest => do
    basicLines false ((← coded? [a, b, c, d]) :: done) rest
  | '\\' :: 'U' :: a :: b :: c :: d :: e :: f :: g :: h :: rest => do
    basicLines false ((← coded? [a, b, c, d, e, f, g, h]) :: done) rest
  | '\\' :: '\r' :: '\n' :: rest => basicLines true done rest
  | '\\' :: '\n' :: rest => basicLines true done rest
  | '\\' :: e :: rest => do
    if isSpace e && joinsLines rest then basicLines true done rest
    else basicLines false (Char.ofNat (← shortEscapes.lookup e) :: done) rest
  | c :: rest =>
    if trim && isSpace c then basicLines true done rest
    else if isPrintable c then basicLines false (c :: done) rest
    else none
  | [] => none

def literalLines (done : List Char) : List Char → Option (String × List Char)
  | '\x27' :: '\x27' :: '\x27' :: '\x27' :: '\x27' :: rest =>
    some (String.ofList (done.reverse ++ ['\x27', '\x27']), rest)
  | '\x27' :: '\x27' :: '\x27' :: '\x27' :: rest =>
    some (String.ofList (done.reverse ++ ['\x27']), rest)
  | '\x27' :: '\x27' :: '\x27' :: rest => some (String.ofList done.reverse, rest)
  | '\r' :: '\n' :: rest => literalLines ('\n' :: done) rest
  | c :: rest => if c = '\n' || isPrintable c then literalLines (c :: done) rest else none
  | [] => none

def opened (cs : List Char) : List Char := (lineEnd? cs).getD cs

def string? : List Char → Option (String × List Char)
  | '\x22' :: '\x22' :: '\x22' :: rest => basicLines false [] (opened rest)
  | '\x27' :: '\x27' :: '\x27' :: rest => literalLines [] (opened rest)
  | '\x22' :: rest => basicFrom [] rest
  | '\x27' :: rest => literalFrom [] rest
  | _ => none

def quotedName? : List Char → Option (String × List Char)
  | '\x22' :: rest => basicFrom [] rest
  | '\x27' :: rest => literalFrom [] rest
  | _ => none

end IntentGate.Toml
