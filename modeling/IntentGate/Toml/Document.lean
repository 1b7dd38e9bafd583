import IntentGate.Settings.Setting
import IntentGate.Toml.Moment
import IntentGate.Toml.Number
import IntentGate.Toml.Text

set_option autoImplicit false

namespace IntentGate.Toml

-- How a table came about: on the way to another one, by a dotted key, or by a header of its own.
inductive Made where
  | onTheWay
  | dotted
  | header
deriving DecidableEq

-- What a key stands for. Of the tables of an array the last comes first.
inductive Item where
  | value (s : Setting)
  | table (made : Made) (entries : List (String × Item))
  | tables (elements : List (List (String × Item)))

abbrev Entries := List (String × Item)

def Entries.put (key : String) (item : Item) : Entries → Entries
  | [] => [(key, item)]
  | (k, old) :: rest => if k = key then (key, item) :: rest else (k, old) :: Entries.put key item rest

def atHeader (f : Entries → Option Entries) : List String → Entries → Option Entries
  | [], entries => f entries
  | key :: path, entries => do
    match List.lookup key entries with
    | none => return entries.put key (.table .onTheWay (← atHeader f path []))
    | some (.table made inner) => return entries.put key (.table made (← atHeader f path inner))
    | some (.tables (last :: more)) =>
      return entries.put key (.tables ((← atHeader f path last) :: more))
    | _ => none

def atDotted (f : Entries → Option Entries) : List String → Entries → Option Entries
  | [], entries => f entries
  | key :: path, entries => do
    match List.lookup key entries with
    | none => return entries.put key (.table .dotted (← atDotted f path []))
    | some (.table made inner) =>
      if made = .header || (path.isEmpty && made ≠ .dotted) then none
      else return entries.put key (.table made (← atDotted f path inner))
    | some (.tables (last :: more)) =>
      if path.isEmpty then none
      else return entries.put key (.tables ((← atDotted f path last) :: more))
    | _ => none

def addEntry (entries : Entries) (entry : List String × Setting) : Option Entries := do
  let key ← entry.1.getLast?
  let add (entries : Entries) : Option Entries :=
    match List.lookup key entries with
    | some _ => none
    | none => some (entries.put key (.value entry.2))
  atDotted add entry.1.dropLast entries

mutual
def Item.setting : Item → Setting
  | .value s => s
  | .table _ entries => .table (Keyed.ofList (settingEntries entries))
  | .tables elements => .list (settingElements elements).reverse

def settingEntries : Entries → List (String × Setting)
  | [] => []
  | (key, item) :: rest => (key, item.setting) :: settingEntries rest

def settingElements : List Entries → List Setting
  | [] => []
  | entries :: rest => .table (Keyed.ofList (settingEntries entries)) :: settingElements rest
end

def nestingLimit : Nat := 79

def isBareChar (c : Char) : Bool := c.isAlphanum || c = '_' || c = '-'

def name : Scan String := do
  match quotedName? (← get) with
  | some (s, rest) =>
    set rest
    return s
  | none =>
    let cs ← takeWhile isBareChar
    if cs.isEmpty then failure else return String.ofList cs

def namesFrom : Nat → Scan (List String)
  | 0 => failure
  | fuel + 1 => do
    spaces
    let first ← name
    spaces
    if (← next?) = some '.' then
      drop 1
      return first :: (← namesFrom fuel)
    else return [first]

def key : Scan (List String) := do
  let names ← namesFrom ((← get).length + 1)
  if names.length ≤ nestingLimit then return names else failure

def isBareValue (c : Char) : Bool := c.isAlphanum || c = '_' || c = '+' || c = '-' || c = '.' || c = ':'

def bareSetting? (cs : List Char) : Option Setting :=
  match String.ofList cs with
  | "true" => some (.bool true)
  | "false" => some (.bool false)
  | _ =>
    match integer? cs, float? cs with
    | some n, _ => some (.int n)
    | none, some x => some (.float x)
    | none, none => (moment? cs).map .text

def continuesDate (date rest : List Char) : Bool :=
  (date? date).any (·.2.isEmpty) && (fixed? 2 0 23 (rest.drop 1)).isSome && rest.head? = some ' '

def bare : Scan Setting := do
  let cs ← takeWhile isBareValue
  let cs ← if continuesDate cs (← get) then do
      drop 1
      pure (cs ++ ' ' :: (← takeWhile isBareValue))
    else pure cs
  bareSetting? cs

def itemsFrom (item : Scan Setting) : Nat → List Setting → Scan (List Setting)
  | 0, _ => failure
  | fuel + 1, done => do
    gap
    if (← next?) = some ']' then
      drop 1
      return done.reverse
    else
      let s ← item
      gap
      if (← next?) = some ',' then
        drop 1
        itemsFrom item fuel (s :: done)
      else
        expect ']'
        return (s :: done).reverse

def field (item : Scan Setting) : Scan (List String × Setting) := do
  let path ← key
  expect '='
  spaces
  let s ← item
  spaces
  return (path, s)

def fieldsFrom (item : Scan Setting) : Nat → Entries → Scan Entries
  | 0, _ => failure
  | fuel + 1, done => do
    let entries ← addEntry done (← field item)
    if (← next?) = some ',' then
      drop 1
      fieldsFrom item fuel entries
    else
      expect '\x7d'
      return entries

def scalar : Scan Setting := do
  match string? (← get) with
  | some (s, rest) =>
    set rest
    return .text s
  | none => bare

def value : (depth : Nat) → Scan Setting
  | 0 => scalar
  | depth + 1 => do
    match ← get with
    | '[' :: rest =>
      set rest
      return .list (← itemsFrom (value depth) (rest.length + 1) [])
    | '\x7b' :: rest =>
      set rest
      spaces
      if (← next?) = some '\x7d' then
        drop 1
        return .table []
      else return (Item.table .header (← fieldsFrom (value depth) (rest.length + 1) [])).setting
    | _ => scalar

inductive Header where
  | table (path : List String)
  | element (path : List String)

def header : Scan Header := do
  match ← get with
  | '[' :: '[' :: rest =>
    set rest
    let path ← key
    expect ']'
    expect ']'
    return .element path
  | _ =>
    expect '['
    let path ← key
    expect ']'
    return .table path

structure Section where
  header : Option Header
  fields : List (List String × Setting)

def addFields (fields : List (List String × Setting)) (entries : Entries) : Option Entries :=
  fields.foldlM addEntry entries

def openTable (fields : List (List String × Setting)) (key : String) (entries : Entries) :
    Option Entries := do
  match List.lookup key entries with
  | none => return entries.put key (.table .header (← addFields fields []))
  | some (.table .onTheWay inner) =>
    return entries.put key (.table .header (← addFields fields inner))
  | _ => none

def openElement (fields : List (List String × Setting)) (key : String) (entries : Entries) :
    Option Entries := do
  match List.lookup key entries with
  | none => return entries.put key (.tables [← addFields fields []])
  | some (.tables elements) => return entries.put key (.tables ((← addFields fields []) :: elements))
  | _ => none

def addSection (entries : Entries) (part : Section) : Option Entries := do
  match part.header with
  | none => addFields part.fields entries
  | some (.table path) => atHeader (openTable part.fields (← path.getLast?)) path.dropLast entries
  | some (.element path) => atHeader (openElement part.fields (← path.getLast?)) path.dropLast entries

def sectionsFrom : Nat → Section → Scan (List Section)
  | 0, _ => failure
  | fuel + 1, part => do
    spaces
    match ← get with
    | [] => return [closed part]
    | '[' :: _ =>
      let header ← header
      finishLine
      return closed part :: (← sectionsFrom fuel { header := some header, fields := [] })
    | c :: rest =>
      if c = '#' || (lineEnd? (c :: rest)).isSome then
        finishLine
        sectionsFrom fuel part
      else
        let entry ← field (value nestingLimit)
        finishLine
        sectionsFrom fuel { part with fields := entry :: part.fields }
where
  closed (part : Section) : Section := { part with fields := part.fields.reverse }

def withoutMark : List Char → List Char
  | c :: cs => if c.toNat = 0xFEFF then cs else c :: cs
  | [] => []

def settings? (s : String) : Option (Keyed Setting) := do
  let cs := withoutMark s.toList
  let (sections, _) ← (sectionsFrom (cs.length + 2) { header := none, fields := [] }).run cs
  return Keyed.ofList (settingEntries (← sections.foldlM addSection []))

end IntentGate.Toml
