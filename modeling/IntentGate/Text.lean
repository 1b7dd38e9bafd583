set_option autoImplicit false

namespace IntentGate.Text

-- White space is the Unicode property of that name.
def blankRanges : List (Nat × Nat) :=
  [(0x09, 0x0D), (0x20, 0x20), (0x85, 0x85), (0xA0, 0xA0), (0x1680, 0x1680), (0x2000, 0x200A),
   (0x2028, 0x2029), (0x202F, 0x202F), (0x205F, 0x205F), (0x3000, 0x3000)]

def isBlankChar (c : Char) : Bool :=
  blankRanges.any fun r => r.1 ≤ c.toNat && c.toNat ≤ r.2

def isBlank (s : String) : Bool := s.toList.all isBlankChar

def trim (cs : List Char) : List Char :=
  ((cs.dropWhile isBlankChar).reverse.dropWhile isBlankChar).reverse

def isDigit (c : Char) : Bool := '0' ≤ c && c ≤ '9'

def digit? (c : Char) : Option Nat :=
  if isDigit c then some (c.toNat - 48)
  else if 'a' ≤ c && c ≤ 'z' then some (c.toNat - 87)
  else if 'A' ≤ c && c ≤ 'Z' then some (c.toNat - 55)
  else none

def digitIn? (base : Nat) (c : Char) : Option Nat := (digit? c).filter (· < base)

def natural? (base : Nat) (cs : List Char) : Option Nat :=
  if cs.isEmpty then none
  else cs.foldlM (fun n c => (digitIn? base c).map (n * base + ·)) 0

def lower (s : String) : String := String.ofList (s.toList.map Char.toLower)

abbrev Octets := List UInt8

def lineFeed : UInt8 := 10

def carriageReturn : UInt8 := 13

def decode? (octets : Octets) : Option String := String.fromUTF8? (ByteArray.mk octets.toArray)

def encode (s : String) : Octets := s.toUTF8.data.toList

def withoutReturn (reversed : Octets) : Octets :=
  match reversed with
  | c :: rest => (if c = carriageReturn then rest else c :: rest).reverse
  | [] => []

-- Cuts octets into lines; `reversed` is the line so far. What follows the last line feed is a line if
-- there is any of it.
def linesFrom (reversed : Octets) : Octets → List Octets
  | [] => if reversed.isEmpty then [] else [reversed.reverse]
  | c :: rest =>
    if c = lineFeed then withoutReturn reversed :: linesFrom [] rest
    else linesFrom (c :: reversed) rest

def lines (octets : Octets) : List Octets := linesFrom [] octets

end IntentGate.Text
