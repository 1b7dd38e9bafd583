import IntentGate.Decimal.Layout
import IntentGate.Decimal.Reading
import IntentGate.Settings.Setting
import IntentGate.Shape.Source

set_option autoImplicit false

namespace IntentGate

open Json Shape

namespace Setting

def found : Setting → Found
  | .nothing => .null
  | .bool b => .bool b
  | .int n => .number (.int n)
  | .float x => .number (.float x)
  | .text s => .text s
  | .list _ => .list
  | .table _ => .object

def wrong {α : Type} (s : Setting) (expected : String) : Except Fault α := wrongKind s.found expected

def yes : List String := ["true", "on", "yes"]

def no : List String := ["false", "off", "no"]

def toBool (setting : Setting) : Except Fault Bool :=
  match setting with
  | .bool b => .ok b
  | .int n => .ok (n ≠ 0)
  | .float x => .ok (x != 0)
  | .text s =>
    let word := Text.lower s
    if word ∈ "1" :: yes then .ok true
    else if word ∈ "0" :: no then .ok false
    else setting.wrong "a boolean"
  | _ => setting.wrong "a boolean"

def toFloat (setting : Setting) : Except Fault Float :=
  match setting with
  | .bool b => .ok (if b then 1 else 0)
  | .int n => .ok (Float.ofInt n)
  | .float x => .ok x
  | .text s =>
    if Text.lower s ∈ yes then .ok 1
    else if Text.lower s ∈ no then .ok 0
    else
      match Decimal.read? s with
      | some x => .ok x
      | none => setting.wrong "a floating point"
  | _ => setting.wrong "a floating point"

def toText (setting : Setting) (expected : String) : Except Fault String :=
  match setting with
  | .bool b => .ok (if b then "true" else "false")
  | .int n => .ok (toString n)
  | .float x => .ok (Decimal.phrase x)
  | .text s => .ok s
  | _ => setting.wrong expected

end Setting

instance : Source Setting where
  bool := Setting.toBool
  text expected s := s.toText expected
  float := Setting.toFloat
  option
    | .nothing => .ok none
    | s => .ok (some s)
  list
    | .list items => .ok { items }
    | s => s.wrong "a sequence"
  object expected
    | .table entries => .ok { items := entries }
    | s => s.wrong expected
  record expected
    | .table entries => .ok (.members { items := entries })
    | .list items => .ok (.items { items })
    | s => s.wrong expected
  skip _ := .ok ()
  surplus _ := none

end IntentGate
