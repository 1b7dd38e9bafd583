import IntentGate.Text

set_option autoImplicit false

namespace IntentGate.Decimal

open Text

-- The value nearest to `m * 10^e`. Exponents far outside the range are decided without computing
-- the power: `m` has fewer digits than its binary length.
def nearest (m : Nat) (e : Int) : Float :=
  if m = 0 then 0
  else if 400 < e then Float.ofScientific 1 false 400
  else if e + m.log2 < -400 then 0
  else Float.ofScientific m (e < 0) e.natAbs

structure Unsigned where
  mantissa : Nat
  exp : Int

def signed (negative : Bool) (x : Float) : Float := if negative then -x else x

def splitSign : List Char → Bool × List Char
  | '-' :: rest => (true, rest)
  | '+' :: rest => (false, rest)
  | cs => (false, cs)

def exponent? : List Char → Option Int
  | [] => some 0
  | c :: rest =>
    let (negative, digits) := splitSign rest
    if c ≠ 'e' ∧ c ≠ 'E' then none
    else (natural? 10 digits).map fun n => if negative then -(n : Int) else n

def Unsigned.read? (cs : List Char) : Option Unsigned := do
  let (whole, rest) := cs.span isDigit
  let (fraction, rest) := match rest with
    | '.' :: rest => rest.span isDigit
    | rest => ([], rest)
  let mantissa ← natural? 10 (whole ++ fraction)
  let exp ← exponent? rest
  return { mantissa, exp := exp - fraction.length }

def Unsigned.value (n : Unsigned) : Float := nearest n.mantissa n.exp

def special? (name : String) : Option Float :=
  if name = "inf" ∨ name = "infinity" then some (1 / 0)
  else if name = "nan" then some (0 / 0)
  else none

def read? (s : String) : Option Float :=
  let (negative, cs) := splitSign s.toList
  match Unsigned.read? cs with
  | some n => some (signed negative n.value)
  | none => (special? (lower (String.ofList cs))).map (signed negative)

def wordBound (bits : Nat) : Int := (Nat.pow 2 bits : Nat)

def inWord? (n : Int) : Option Int := if -wordBound 63 ≤ n ∧ n < wordBound 63 then some n else none

def word? (base : Nat) (cs : List Char) : Option Int := do
  let (negative, digits) := splitSign cs
  let n ← Text.natural? base digits
  inWord? (if negative then -n else n)

end IntentGate.Decimal
