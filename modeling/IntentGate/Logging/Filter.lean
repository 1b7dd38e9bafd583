import IntentGate.Event
import IntentGate.Text

set_option autoImplicit false

namespace IntentGate

abbrev Threshold := Option Level

def Threshold.admits (t : Threshold) (level : Level) : Bool := t.any fun low => low.rank ≤ level.rank

def thresholdNames : List (String × Threshold) :=
  [("off", none), ("error", some .error), ("warn", some .warn), ("info", some .info),
    ("debug", some .debug), ("trace", some .trace), ("0", none), ("1", some .error),
    ("2", some .warn), ("3", some .info), ("4", some .debug), ("5", some .trace)]

def Threshold.ofText? (s : String) : Option Threshold := thresholdNames.lookup (Text.lower s)

-- What holds in a span only concerns no event, as no event has a span.
structure Directive where
  threshold : Threshold
  target : Option String := none
  inSpan : Bool := false

namespace Directive

def isTargetChar (c : Char) : Bool := c.isAlphanum || 0x80 ≤ c.toNat || c = '_' || c = ':' || c = '-'

inductive Part where
  | target (name : List Char)
  | span (inside : List Char)

def part? : List Char → Option (Part × List Char)
  | '[' :: rest =>
    match rest.span (· ≠ ']') with
    | (inside, _ :: rest) => some (.span inside, rest)
    | _ => none
  | cs =>
    match cs.span isTargetChar with
    | ([], _) => none
    | (name, rest) => some (.target name, rest)

def withPart (d : Directive) : Part → Directive
  | .target name =>
    let name := String.ofList name
    { d with target := if (Threshold.ofText? name).isSome then none else some name }
  | .span inside => { d with inSpan := inside.any fun c => c ∉ ['[', '\x7b', '\x7d'] }

def threshold? : List Char → Option Threshold
  | [] => some (some .trace)
  | ['='] => some (some .trace)
  | '=' :: word => Threshold.ofText? (String.ofList word)
  | _ => none

def ofText? (s : String) : Option Directive :=
  match Threshold.ofText? s with
  | some threshold => some { threshold }
  | none => do
    let (first, rest) ← part? s.toList
    let d := withPart { threshold := none } first
    let (d, rest) := match part? rest with
      | some (second, rest) => (d.withPart second, rest)
      | none => (d, rest)
    return { d with threshold := ← threshold? rest }

def covers (d : Directive) (target : String) : Bool :=
  !d.inSpan && d.target.all fun start => start.toList.isPrefixOf target.toList

def weight (d : Directive) : Nat := d.target.elim 0 fun target => target.length + 1

-- The more telling one of two directives; of equal ones the second.
def stronger (old : Option Directive) (d : Directive) : Option Directive :=
  match old with
  | some o => if d.weight < o.weight then some o else some d
  | none => some d

end Directive

abbrev LogFilter := List Directive

namespace LogFilter

def ofText? (s : String) : Option LogFilter := do
  let directives ← ((s.splitOn ",").filter (· ≠ "")).mapM Directive.ofText?
  return if directives.isEmpty then [{ threshold := some .error }] else directives

def deciding? (filter : LogFilter) (target : String) : Option Directive :=
  (filter.filter (·.covers target)).foldl Directive.stronger none

def admits (filter : LogFilter) (e : Event) : Bool :=
  (filter.deciding? e.target).any (·.threshold.admits e.level)

end LogFilter

end IntentGate
