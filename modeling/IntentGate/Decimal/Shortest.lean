/-! The shortest decimal that reads back as a given binary64 value. A finite value is `m * 2^e`, and the
numbers that round to it form an interval whose ends belong to it exactly when `m` is even. -/

set_option autoImplicit false

namespace IntentGate.Decimal

-- The size of a finite value, `m * 2^e`. `narrow` tells that the value below is half as far away as
-- the value above.
structure Magnitude where
  m : Nat
  e : Int
  narrow : Bool

def Magnitude.ofBits (bits : UInt64) : Magnitude :=
  let exponent := ((bits >>> 52) &&& 0x7FF).toNat
  let fraction := (bits &&& 0xFFFFFFFFFFFFF).toNat
  if exponent = 0 then ⟨fraction, -1074, false⟩
  else ⟨Nat.pow 2 52 + fraction, (exponent : Int) - 1075, fraction == 0 && exponent > 1⟩

structure Digits where
  digits : Nat
  exp : Int
deriving DecidableEq, Repr

inductive Tie where
  | toEven
  | upward
deriving DecidableEq, Repr

def compareScaled (a : Nat) (i : Int) (b : Nat) (j : Int) : Ordering :=
  compare (a * Nat.pow 10 i.toNat * Nat.pow 2 (-j).toNat)
    (b * Nat.pow 2 j.toNat * Nat.pow 10 (-i).toNat)

def Magnitude.covers (x : Magnitude) (d : Digits) : Bool :=
  let low := if x.narrow then 4 * x.m - 1 else 4 * x.m - 2
  let closed := x.m % 2 == 0
  let below := compareScaled d.digits d.exp low (x.e - 2)
  let above := compareScaled d.digits d.exp (4 * x.m + 2) (x.e - 2)
  (below == .gt || closed && below == .eq) && (above == .lt || closed && above == .eq)

def Magnitude.under (x : Magnitude) (k : Int) : Bool := compareScaled 1 k x.m x.e == .gt

-- An exponent at most two steps off the least `k` with `x < 10^k`.
def Magnitude.scaleGuess (x : Magnitude) : Int := (x.e + x.m.log2) * 30103 / 100000

def Magnitude.scale (x : Magnitude) : Int :=
  let guess := x.scaleGuess
  ((List.range 5).map fun step : Nat => guess - 1 + (step : Int)).find? x.under |>.getD (guess + 4)

-- The decimal on the grid `10^exp` that covers `x` and lies nearest to it, if either neighbour does.
def Magnitude.onGrid? (x : Magnitude) (tie : Tie) (exp : Int) : Option Digits :=
  let num := x.m * Nat.pow 2 x.e.toNat * Nat.pow 10 (-exp).toNat
  let den := Nat.pow 2 (-x.e).toNat * Nat.pow 10 exp.toNat
  let below := num / den
  let nearer := match compare (2 * num) ((2 * below + 1) * den), tie with
    | .lt, _ => below
    | .gt, _ => below + 1
    | .eq, .upward => below + 1
    | .eq, .toEven => if below % 2 = 0 then below else below + 1
  let farther := if nearer = below then below + 1 else below
  if x.covers ⟨nearer, exp⟩ then some ⟨nearer, exp⟩
  else if x.covers ⟨farther, exp⟩ then some ⟨farther, exp⟩
  else none

def Magnitude.exact (x : Magnitude) : Digits :=
  ⟨x.m * Nat.pow 2 x.e.toNat * Nat.pow 5 (-x.e).toNat, min x.e 0⟩

def Digits.strip (d : Digits) : Digits :=
  if h : d.digits ≠ 0 ∧ d.digits % 10 = 0 then
    Digits.strip ⟨d.digits / 10, d.exp + 1⟩
  else d
termination_by d.digits
decreasing_by exact Nat.div_lt_self (by omega) (by omega)

def Magnitude.shortest (x : Magnitude) (tie : Tie) : Digits :=
  if x.m = 0 then ⟨0, 0⟩
  else
    let k := x.scale
    let found := ((List.range 17).map fun n : Nat => k - 1 - (n : Int)).findSome? (x.onGrid? tie)
    (found.getD x.exact).strip

end IntentGate.Decimal
