import IntentGate.Json.Fault

set_option autoImplicit false

namespace IntentGate.Json

def wordLimit : Nat := Nat.pow 2 64

def digitValue (c : Char) : Nat := c.toNat - 48

structure Numeral where
  negative : Bool
  whole : List Char
  fraction : Option (List Char)
  exponent : Option (Bool × List Char)

def absorb (n taken : Nat) : List Char → Nat × Nat
  | [] => (n, taken)
  | d :: rest =>
    let next := n * 10 + digitValue d
    if next < wordLimit then absorb next (taken + 1) rest else (n, taken)

def powerOfTen (e : Nat) : Float := Float.ofScientific 1 false e

-- `x * 10^e`, or nothing if that is too large. One step of the exponent is at most 308.
def scaled (x : Float) (e : Int) : Option Float :=
  if h : e < -308 then
    if x == 0 then some x else scaled (x / powerOfTen 308) (e + 308)
  else if 308 < e then
    if x == 0 then some x else none
  else if 0 ≤ e then
    let y := x * powerOfTen e.toNat
    if y.isFinite then some y else none
  else some (x / powerOfTen e.natAbs)
termination_by e.natAbs
decreasing_by omega

-- The exponent as read: it stops growing at 31 bits.
def exponentValue (digits : List Char) : Nat :=
  min (digits.foldl (fun n d => n * 10 + digitValue d) 0) (Nat.pow 2 31)

def Numeral.float? (n : Numeral) : Option Float :=
  let (start, whole) := absorb 0 0 n.whole
  let dropped := n.whole.length - whole
  let (significand, places) := absorb start 0 (n.fraction.getD [])
  let shift : Int := match n.exponent with
    | none => 0
    | some (negative, digits) =>
      if negative then -(exponentValue digits : Int) else exponentValue digits
  let x := scaled (Float.ofNat significand) ((dropped : Int) - places + shift)
  x.map fun x => if n.negative then -x else x

-- An integer that fits is one; `-0` and everything else is a float.
def Numeral.value? (n : Numeral) : Option Number :=
  let whole := n.whole.foldl (fun m d => m * 10 + digitValue d) 0
  let integral := n.fraction.isNone && n.exponent.isNone
  if integral && !n.negative && whole < wordLimit then some (.int whole)
  else if integral && n.negative && 0 < whole && whole ≤ Nat.pow 2 63 then some (.int (-whole))
  else n.float?.map .float

def endOf (rest : List Char) : Trouble := if rest.isEmpty then .eof else .malformed

def takeDigits (cs : List Char) : Except Trouble (List Char × List Char) :=
  match cs.takeWhile Char.isDigit with
  | [] => .error (endOf cs)
  | digits => .ok (digits, cs.dropWhile Char.isDigit)

def takeWhole : List Char → Except Trouble (List Char × List Char)
  | '0' :: rest =>
    if (rest.head?.any Char.isDigit) then .error .malformed else .ok (['0'], rest)
  | cs => takeDigits cs

def takeFraction : List Char → Except Trouble (Option (List Char) × List Char)
  | '.' :: rest => (takeDigits rest).map fun (digits, rest) => (some digits, rest)
  | cs => .ok (none, cs)

def takeSign : List Char → Bool × List Char
  | '+' :: rest => (false, rest)
  | '-' :: rest => (true, rest)
  | cs => (false, cs)

def takeExponent : List Char → Except Trouble (Option (Bool × List Char) × List Char)
  | c :: rest =>
    if c = 'e' ∨ c = 'E' then
      let (negative, rest) := takeSign rest
      (takeDigits rest).map fun (digits, rest) => (some (negative, digits), rest)
    else .ok (none, c :: rest)
  | [] => .ok (none, [])

def takeNumeral (negative : Bool) (cs : List Char) : Except Trouble (Numeral × List Char) := do
  let (whole, rest) ← takeWhole cs
  let (fraction, rest) ← takeFraction rest
  let (exponent, rest) ← takeExponent rest
  return ({ negative, whole, fraction, exponent }, rest)

end IntentGate.Json
