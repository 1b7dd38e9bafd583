import IntentGate.Json.Token

/-! A JSON text as far as it can be read: fields in their order and with their repetitions, up to the
place where the text stops being JSON. Readers of a draft meet that place, or a wrong shape, in the
order of the text. A faulty place may start like a word or a number. -/

set_option autoImplicit false

namespace IntentGate.Json

-- How a list or an object ends: closed, or broken off where a comma or the closing bracket should
-- stand, or where a key should stand. There a key of another kind is remembered.
inductive Stop where
  | closed
  | separator (t : Trouble)
  | key (t : Trouble) (found : Except Trouble Found)

inductive Draft where
  | null
  | bool (b : Bool)
  | number (n : Number)
  | text (s : String)
  | list (items : List Draft) (stop : Stop)
  | object (members : List (String × Draft)) (stop : Stop)
  | faulty (isWord : Bool) (read : Trouble) (skip : Option Trouble)

inductive Frame where
  | list (items : List Draft)
  | object (members : List (String × Draft)) (key : String)

-- What is expected next. `first` and `firstKey` also allow the closing bracket.
inductive Place where
  | value
  | first
  | comma
  | firstKey
  | key
  | colon

inductive Progress where
  | inside (frames : List Frame) (place : Place)
  | complete (root : Draft)
  | followed (root : Draft)
  | stopped (root : Draft)

-- Containers nested deeper than this can be skipped and not read.
def depthLimit : Nat := 127

def limited (depth : Nat) (skip : Option Trouble) (d : Draft) : Draft :=
  if depthLimit ≤ depth then .faulty false .malformed skip else d

def breakOff (t : Trouble) (d : Draft) : List Frame → Draft
  | [] => d
  | .list items :: outer =>
    breakOff t (limited outer.length (some t) (.list (d :: items).reverse (.separator t))) outer
  | .object members key :: outer =>
    breakOff t
      (limited outer.length (some t) (.object ((key, d) :: members).reverse (.separator t))) outer

def stopValue (t : Trouble) (frames : List Frame) : Progress :=
  .stopped (breakOff t (.faulty false t (some t)) frames)

def stopInside (t : Trouble) (stop : Stop) : List Frame → Progress
  | [] => .stopped (.faulty false t (some t))
  | .list items :: outer =>
    .stopped (breakOff t (limited outer.length (some t) (.list items.reverse stop)) outer)
  | .object members _ :: outer =>
    .stopped (breakOff t (limited outer.length (some t) (.object members.reverse stop)) outer)

def place (d : Draft) : List Frame → Progress
  | [] => .complete d
  | .list items :: outer => .inside (.list (d :: items) :: outer) .comma
  | .object members key :: outer => .inside (.object ((key, d) :: members) key :: outer) .comma

def closeFrame : List Frame → Progress
  | [] => stopValue .malformed []
  | .list items :: outer => place (limited outer.length none (.list items.reverse .closed)) outer
  | .object members _ :: outer =>
    place (limited outer.length none (.object members.reverse .closed)) outer

def valueStep (frames : List Frame) : Token → Progress
  | .openList => .inside (.list [] :: frames) .first
  | .openObject => .inside (.object [] "" :: frames) .firstKey
  | .null => place .null frames
  | .bool b => place (.bool b) frames
  | .number n => place (.number n) frames
  | .text s => place (.text s) frames
  | .faulty isText read skip => place (.faulty (!isText) read skip) frames
  | _ => stopValue .malformed frames

def Token.found : Token → Except Trouble Found
  | .null => .ok .null
  | .bool b => .ok (.bool b)
  | .number n => .ok (.number n)
  | .text s => .ok (.text s)
  | .openList => .ok .list
  | .openObject => .ok .object
  | .faulty _ read _ => .error read
  | _ => .error .malformed

def keyStep (frames : List Frame) (token : Token) : Progress :=
  match token, frames with
  | .text key, .object members _ :: outer => .inside (.object members key :: outer) .colon
  | .faulty true read _, frames => stopInside read (.key read (.error read)) frames
  | token, frames => stopInside .malformed (.key .malformed token.found) frames

def step : Progress → Token → Progress
  | .inside frames .value, token => valueStep frames token
  | .inside frames .first, .closeList => closeFrame frames
  | .inside frames .first, token => valueStep frames token
  | .inside (.list items :: outer) .comma, .comma => .inside (.list items :: outer) .value
  | .inside (.list items :: outer) .comma, .closeList => closeFrame (.list items :: outer)
  | .inside (.object members key :: outer) .comma, .comma =>
    .inside (.object members key :: outer) .key
  | .inside (.object members key :: outer) .comma, .closeObject =>
    closeFrame (.object members key :: outer)
  | .inside frames .comma, _ => stopInside .malformed (.separator .malformed) frames
  | .inside frames .firstKey, .closeObject => closeFrame frames
  | .inside frames .firstKey, token => keyStep frames token
  | .inside frames .key, token => keyStep frames token
  | .inside frames .colon, .colon => .inside frames .value
  | .inside frames .colon, _ => stopValue .malformed frames
  | .complete root, _ => .followed root
  | .followed root, _ => .followed root
  | .stopped root, _ => .stopped root

def finish : Progress → Draft × Bool
  | .complete root => (root, false)
  | .followed root => (root, true)
  | .stopped root => (root, false)
  | .inside frames .key => ended (stopInside .eof (.key .eof (.error .eof)) frames)
  | .inside frames .firstKey => ended (stopInside .eof (.key .eof (.error .eof)) frames)
  | .inside frames .first => ended (stopInside .eof (.separator .eof) frames)
  | .inside frames .comma => ended (stopInside .eof (.separator .eof) frames)
  | .inside frames .value => ended (stopValue .eof frames)
  | .inside frames .colon => ended (stopValue .eof frames)
where
  ended : Progress → Draft × Bool
    | .stopped root => (root, false)
    | _ => (.faulty false .eof (some .eof), false)

structure Document where
  root : Draft
  followed : Bool

def Document.ofText (s : String) : Document :=
  let (root, followed) := finish ((tokens s.toList).foldl step (.inside [] .value))
  { root, followed }

end IntentGate.Json
