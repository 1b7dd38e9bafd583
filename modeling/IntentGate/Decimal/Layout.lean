import IntentGate.Decimal.Shortest

set_option autoImplicit false

namespace IntentGate.Decimal

def decimal (n : Nat) : List Char := (toString n).toList

-- The decisions of a written form: which exponents of the leading digit are written positionally,
-- whether an integral value keeps `.0`, whether an exponent that is not negative has a sign, and where
-- a tie between two shortest decimals goes.
structure Layout where
  positional : Int → Bool
  pointZero : Bool
  plus : Bool := true
  tie : Tie

def zeros (n : Nat) : List Char := List.replicate n '0'

def positionalForm (layout : Layout) (digits : List Char) (exp : Int) : List Char :=
  let point := (digits.length : Int) + exp
  if 0 ≤ exp then digits ++ zeros exp.toNat ++ (if layout.pointZero then ['.', '0'] else [])
  else if 0 < point then digits.take point.toNat ++ '.' :: digits.drop point.toNat
  else '0' :: '.' :: zeros (-point).toNat ++ digits

def exponentForm (layout : Layout) (digits : List Char) (leading : Int) : List Char :=
  let mantissa := match digits with
    | d :: [] => [d]
    | d :: rest => d :: '.' :: rest
    | [] => []
  let sign := if leading < 0 then ['-'] else if layout.plus then ['+'] else []
  mantissa ++ 'e' :: (sign ++ decimal leading.natAbs)

def finiteForm (layout : Layout) (x : Float) : List Char :=
  let d := (Magnitude.ofBits x.toBits).shortest layout.tie
  let digits := decimal d.digits
  let leading := (digits.length : Int) + d.exp - 1
  let body := if layout.positional leading then positionalForm layout digits d.exp
    else exponentForm layout digits leading
  if x.toBits >>> 63 = 1 then '-' :: body else body

def document : Layout where
  positional e := -5 ≤ e && e < 16
  pointZero := true
  tie := .toEven

def sentence : Layout where
  positional _ := true
  pointZero := false
  tie := .upward

def entry : Layout where
  positional e := -4 ≤ e && e < 16
  pointZero := true
  plus := false
  tie := .upward

def anyForm (layout : Layout) (x : Float) : String :=
  if x.isNaN then "NaN"
  else if x.isFinite then String.ofList (finiteForm layout x)
  else if x < 0 then "-inf" else "inf"

def phrase (x : Float) : String := anyForm sentence x

def logged (x : Float) : String := anyForm entry x

end IntentGate.Decimal
