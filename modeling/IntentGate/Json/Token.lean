import IntentGate.Json.Numeral

/-! The tokens of a JSON text. A token that is spelled wrongly is kept as a faulty one, with the trouble
met when it is read and the trouble met when it is only skipped: a number out of range and an unpaired
surrogate trouble the reader alone. After a token that cannot even be skipped there are no others. -/

set_option autoImplicit false

namespace IntentGate.Json

inductive Token where
  | openList
  | closeList
  | openObject
  | closeObject
  | colon
  | comma
  | null
  | bool (b : Bool)
  | number (n : Number)
  | text (s : String)
  | faulty (isText : Bool) (read : Trouble) (skip : Option Trouble)
  | junk

def hexValue (c : Char) : Option Nat :=
  if c.isDigit then some (c.toNat - 48)
  else if 'a' ≤ c ∧ c ≤ 'f' then some (c.toNat - 87)
  else if 'A' ≤ c ∧ c ≤ 'F' then some (c.toNat - 55)
  else none

def hexQuad (a b c d : Char) : Option Nat := do
  return (((← hexValue a) * 16 + (← hexValue b)) * 16 + (← hexValue c)) * 16 + (← hexValue d)

def unescape : Char → Option Char
  | '"' => some '"'
  | '\\' => some '\\'
  | '/' => some '/'
  | 'b' => some '\x08'
  | 'f' => some '\x0c'
  | 'n' => some '\n'
  | 'r' => some '\r'
  | 't' => some '\t'
  | _ => none

-- What has been read of a text: its characters in reverse, an unpaired leading surrogate at the end,
-- and whether something in it has no character.
structure Spelled where
  chars : List Char := []
  high : Option Nat := none
  damaged : Bool := false

def Spelled.push (s : Spelled) (c : Char) : Spelled :=
  { chars := c :: s.chars, high := none, damaged := s.damaged || s.high.isSome }

def Spelled.unit (s : Spelled) (n : Nat) : Spelled :=
  if 0xDC00 ≤ n ∧ n ≤ 0xDFFF then
    match s.high with
    | some high =>
      { s with chars := Char.ofNat ((high - 0xD800) * 0x400 + (n - 0xDC00) + 0x10000) :: s.chars,
               high := none }
    | none => { s with damaged := true }
  else if 0xD800 ≤ n ∧ n ≤ 0xDBFF then
    { s with high := some n, damaged := s.damaged || s.high.isSome }
  else s.push (Char.ofNat n)

def Spelled.isDamaged (s : Spelled) : Bool := s.damaged || s.high.isSome

def Spelled.token (s : Spelled) : Token :=
  if s.isDamaged then .faulty true .malformed none else .text (String.ofList s.chars.reverse)

def Spelled.broken (s : Spelled) (t : Trouble) : Token :=
  .faulty true (if s.damaged then .malformed else t) (some t)

def utf8Length (cs : List Char) : Nat := (String.ofList cs).utf8ByteSize

-- Reads a text after its opening quote. An escaped unit is four hexadecimal digits, and the text is
-- too short for one when fewer than four bytes are left.
def takeText (s : Spelled) : List Char → Token × List Char
  | [] => (s.broken .eof, [])
  | '"' :: rest => (s.token, rest)
  | '\\' :: 'u' :: a :: b :: c :: d :: rest =>
    match hexQuad a b c d with
    | some n => takeText (s.unit n) rest
    | none => (s.broken .malformed, [])
  | '\\' :: 'u' :: rest => (s.broken (if utf8Length rest < 4 then .eof else .malformed), [])
  | '\\' :: c :: rest =>
    match unescape c with
    | some e => takeText (s.push e) rest
    | none => ((if s.high.isSome then { s with damaged := true } else s).broken .malformed, [])
  | ['\\'] => (s.broken .eof, [])
  | c :: rest =>
    if c.toNat < 0x20 then (s.broken .malformed, []) else takeText (s.push c) rest

theorem take_text_length (s : Spelled) (cs : List Char) : (takeText s cs).2.length ≤ cs.length := by
  fun_induction takeText s cs <;> simp_all <;> omega

def takeWord (word : List Char) (token : Token) : List Char → Token × List Char
  | cs =>
    match word, cs with
    | [], cs => (token, cs)
    | _ :: _, [] => (.faulty false .eof (some .eof), [])
    | w :: word, c :: cs =>
      if w = c then takeWord word token cs else (.faulty false .malformed (some .malformed), [])

theorem take_word_length (word : List Char) (token : Token) (cs : List Char) :
    (takeWord word token cs).2.length ≤ cs.length := by
  induction word generalizing cs with
  | nil => simp [takeWord]
  | cons w word ih =>
    cases cs with
    | nil => simp [takeWord]
    | cons c cs =>
      rw [takeWord]
      split
      · exact Nat.le_succ_of_le (ih cs)
      · simp

def takeNumber (negative : Bool) (cs : List Char) : Token × List Char :=
  match takeNumeral negative cs with
  | .error t => (.faulty false t (some t), [])
  | .ok (numeral, rest) =>
    match numeral.value? with
    | some n => (.number n, rest)
    | none => (.faulty false .malformed none, rest)

theorem take_digits_length {cs digits rest : List Char} (h : takeDigits cs = .ok (digits, rest)) :
    rest.length < cs.length := by
  unfold takeDigits at h
  split at h
  · cases h
  · next some =>
    cases h
    cases cs with
    | nil => simp at some
    | cons c cs =>
      by_cases digit : c.isDigit = true
      · simpa [digit] using Nat.lt_succ_of_le (List.dropWhile_sublist _).length_le
      · simp [digit] at some

theorem take_whole_length {cs digits rest : List Char} (h : takeWhole cs = .ok (digits, rest)) :
    rest.length < cs.length := by
  unfold takeWhole at h
  split at h
  · split at h
    · cases h
    · cases h; simp
  · exact take_digits_length h

theorem take_fraction_length {cs rest : List Char} {fraction : Option (List Char)}
    (h : takeFraction cs = .ok (fraction, rest)) : rest.length ≤ cs.length := by
  unfold takeFraction at h
  split at h
  · next tail =>
    cases hd : takeDigits tail with
    | error t => rw [hd] at h; cases h
    | ok p =>
      rw [hd] at h
      cases h
      exact Nat.le_of_lt (Nat.lt_succ_of_lt (take_digits_length hd))
  · cases h; exact Nat.le_refl _

theorem take_sign_length (cs : List Char) : (takeSign cs).2.length ≤ cs.length := by
  unfold takeSign
  split <;> simp

theorem take_exponent_length {cs rest : List Char} {exponent : Option (Bool × List Char)}
    (h : takeExponent cs = .ok (exponent, rest)) : rest.length ≤ cs.length := by
  unfold takeExponent at h
  split at h
  · next c tail =>
    split at h
    · cases hd : takeDigits (takeSign tail).2 with
      | error t => simp only [hd] at h; cases h
      | ok p =>
        simp only [hd] at h
        cases h
        exact Nat.le_succ_of_le (Nat.le_trans (Nat.le_of_lt (take_digits_length hd)) (take_sign_length tail))
    · cases h; exact Nat.le_refl _
  · cases h; exact Nat.le_refl _

theorem take_numeral_length {negative : Bool} {cs rest : List Char} {numeral : Numeral}
    (h : takeNumeral negative cs = .ok (numeral, rest)) : rest.length < cs.length := by
  simp only [takeNumeral, bind, Except.bind] at h
  split at h
  · cases h
  · next whole =>
    split at h
    · cases h
    · next fraction =>
      split at h
      · cases h
      · next exponent =>
        cases h
        exact Nat.lt_of_le_of_lt (Nat.le_trans (take_exponent_length exponent)
          (take_fraction_length fraction)) (take_whole_length whole)

theorem take_number_length (negative : Bool) (c : Char) (cs : List Char) :
    (takeNumber negative (c :: cs)).2.length ≤ cs.length := by
  unfold takeNumber
  split
  · simp
  · next h =>
    have := take_numeral_length h
    split <;> simpa using Nat.le_of_lt_succ this

def takeToken (c : Char) (rest : List Char) : Token × List Char :=
  match c with
  | '[' => (.openList, rest)
  | ']' => (.closeList, rest)
  | '\x7b' => (.openObject, rest)
  | '\x7d' => (.closeObject, rest)
  | ':' => (.colon, rest)
  | ',' => (.comma, rest)
  | '"' => takeText {} rest
  | 'n' => takeWord ['u', 'l', 'l'] .null rest
  | 't' => takeWord ['r', 'u', 'e'] (.bool true) rest
  | 'f' => takeWord ['a', 'l', 's', 'e'] (.bool false) rest
  | '-' => takeSigned rest
  | c => if c.isDigit then takeNumber false (c :: rest) else (.junk, [])
where
  takeSigned : List Char → Token × List Char
    | [] => (.faulty false .eof (some .eof), [])
    | c :: rest => takeNumber true (c :: rest)

theorem take_signed_length (cs : List Char) : (takeToken.takeSigned cs).2.length ≤ cs.length := by
  cases cs with
  | nil => simp [takeToken.takeSigned]
  | cons c cs => exact Nat.le_succ_of_le (take_number_length true c cs)

theorem take_token_length (c : Char) (rest : List Char) :
    (takeToken c rest).2.length ≤ rest.length := by
  unfold takeToken
  split
  case h_7 => exact take_text_length _ _
  case h_8 => exact take_word_length _ _ _
  case h_9 => exact take_word_length _ _ _
  case h_10 => exact take_word_length _ _ _
  case h_11 => exact take_signed_length _
  case h_12 =>
    split
    · exact take_number_length _ _ _
    · simp
  all_goals exact Nat.le_refl _

def isSpace (c : Char) : Bool := c = ' ' || c = '\n' || c = '\r' || c = '\t'

def tokens : List Char → List Token
  | [] => []
  | c :: rest =>
    if isSpace c then tokens rest
    else (takeToken c rest).1 :: tokens (takeToken c rest).2
termination_by cs => cs.length
decreasing_by
  · simp
  · exact Nat.lt_succ_of_le (take_token_length c rest)

end IntentGate.Json
