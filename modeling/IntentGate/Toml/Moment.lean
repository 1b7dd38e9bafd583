import IntentGate.Text

set_option autoImplicit false

namespace IntentGate.Toml

def fixed? (count low high : Nat) (cs : List Char) : Option (List Char × Nat × List Char) := do
  let digits := cs.take count
  let n ← Text.natural? 10 digits
  if digits.length = count ∧ low ≤ n ∧ n ≤ high then some (digits, n, cs.drop count) else none

def isLeap (year : Nat) : Bool := year % 4 = 0 && (year % 100 ≠ 0 || year % 400 = 0)

def daysIn (year month : Nat) : Nat :=
  if month = 2 then if isLeap year then 29 else 28
  else if month ∈ [4, 6, 9, 11] then 30
  else 31

def after? (c : Char) : List Char → Option (List Char)
  | d :: rest => if d = c then some rest else none
  | [] => none

def date? (cs : List Char) : Option (List Char × List Char) := do
  let (y, year, rest) ← fixed? 4 0 9999 cs
  let (m, month, rest) ← fixed? 2 1 12 (← after? '-' rest)
  let (d, _, rest) ← fixed? 2 1 (daysIn year month) (← after? '-' rest)
  return (y ++ '-' :: m ++ '-' :: d, rest)

def fraction (digits : List Char) : List Char :=
  match ((digits.take 9).reverse.dropWhile (· = '0')).reverse with
  | [] => []
  | digits => '.' :: digits

def time? (cs : List Char) : Option (List Char × List Char) := do
  let (h, _, rest) ← fixed? 2 0 23 cs
  let (m, _, rest) ← fixed? 2 0 59 (← after? ':' rest)
  let (s, _, rest) ← fixed? 2 0 60 (← after? ':' rest)
  let whole := h ++ ':' :: m ++ ':' :: s
  match rest with
  | '.' :: rest =>
    let (digits, rest) := rest.span Text.isDigit
    if digits.isEmpty then none else some (whole ++ fraction digits, rest)
  | rest => return (whole, rest)

def offset? : List Char → Option (List Char)
  | [] => some []
  | [c] => if c = 'Z' || c = 'z' then some ['Z'] else none
  | sign :: rest => do
    if sign ≠ '+' && sign ≠ '-' then none
    else
      let (h, hours, rest) ← fixed? 2 0 23 rest
      let (m, minutes, rest) ← fixed? 2 0 59 (← after? ':' rest)
      let sign := if hours = 0 && minutes = 0 then '+' else sign
      if rest.isEmpty then some (sign :: h ++ ':' :: m) else none

def moment? (cs : List Char) : Option String := do
  match date? cs with
  | some (date, []) => return String.ofList date
  | some (date, mark :: rest) =>
    if mark ≠ 'T' && mark ≠ 't' && mark ≠ ' ' then none
    else
      let (time, rest) ← time? rest
      return String.ofList (date ++ 'T' :: time ++ (← offset? rest))
  | none =>
    match ← time? cs with
    | (time, []) => return String.ofList time
    | _ => none

end IntentGate.Toml
