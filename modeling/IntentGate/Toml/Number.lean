import IntentGate.Decimal.Reading

set_option autoImplicit false

namespace IntentGate.Toml

def plainDigits? (p : Char → Bool) : List Char → Option (List Char)
  | [] => none
  | [c] => if p c then some [c] else none
  | c :: '_' :: d :: rest => if p c && p d then (plainDigits? p (d :: rest)).map (c :: ·) else none
  | c :: rest => if p c then (plainDigits? p rest).map (c :: ·) else none

def inBase (base : Nat) (c : Char) : Bool := (Text.digitIn? base c).isSome

def based? (base : Nat) (cs : List Char) : Option Nat := do
  Text.natural? base (← plainDigits? (inBase base) cs)

def whole? (cs : List Char) : Option (List Char) :=
  match cs with
  | '0' :: _ :: _ => none
  | cs => plainDigits? Text.isDigit cs

def integer? (cs : List Char) : Option Int := do
  match cs with
  | '0' :: 'x' :: digits => Decimal.inWord? (← based? 16 digits)
  | '0' :: 'o' :: digits => Decimal.inWord? (← based? 8 digits)
  | '0' :: 'b' :: digits => Decimal.inWord? (← based? 2 digits)
  | cs =>
    let (negative, digits) := Decimal.splitSign cs
    let n ← Text.natural? 10 (← whole? digits)
    Decimal.inWord? (if negative then -n else n)

def isExponentMark (c : Char) : Bool := c = 'e' || c = 'E'

def exponent? : List Char → Option (List Char)
  | [] => some []
  | c :: '-' :: digits => if isExponentMark c then marked ['e', '-'] digits else none
  | c :: '+' :: digits => if isExponentMark c then marked ['e'] digits else none
  | c :: digits => if isExponentMark c then marked ['e'] digits else none
where
  marked (mark digits : List Char) : Option (List Char) :=
    (plainDigits? Text.isDigit digits).map (mark ++ ·)

def floatDigits? (cs : List Char) : Option (List Char) := do
  let (digits, rest) := cs.span fun c => c ≠ '.' && !isExponentMark c
  let digits ← whole? digits
  match rest with
  | [] => none
  | '.' :: rest =>
    let (fraction, rest) := rest.span fun c => !isExponentMark c
    return digits ++ '.' :: (← plainDigits? Text.isDigit fraction) ++ (← exponent? rest)
  | rest => return digits ++ (← exponent? rest)

-- A float. One that is too large is none, unless it is negative.
def float? (cs : List Char) : Option Float := do
  let (negative, digits) := Decimal.splitSign cs
  match String.ofList digits with
  | "inf" => return Decimal.signed negative (1 / 0)
  | "nan" => return Decimal.signed negative (0 / 0)
  | _ =>
    let n ← Decimal.Unsigned.read? (← floatDigits? digits)
    let x := Decimal.signed negative n.value
    if x.isInf && !negative then none else some x

end IntentGate.Toml
