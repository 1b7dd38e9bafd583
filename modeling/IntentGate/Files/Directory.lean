import IntentGate.Files

set_option autoImplicit false

namespace IntentGate

open Text

inductive Entry where
  | file (content : Octets)
  | directory

-- Files and directories by the names that lead to them, the last first. A later entry hides an
-- earlier one.
structure Directory where
  entries : List (List String × Entry) := []

namespace Directory

def entry? (dir : Directory) (place : List String) : Option Entry :=
  match dir.entries.lookup place with
  | some e => some e
  | none =>
    if place.isEmpty || dir.entries.any fun e => place.isSuffixOf e.1 then some .directory else none

def names (path : String) : List String :=
  (path.splitOn "/").filter fun name => name ≠ "" && name ≠ "."

def nameLimit : Nat := 255

def pathLimit : Nat := 4095

-- What is above and beside the working directory is not known, but that there are directories.
def outside (names : List String) : FileFault :=
  if names.all (· = "..") then .isDirectory else .notFound

def walk (dir : Directory) (place : List String) : List String → Except FileFault (List String)
  | [] => .ok place
  | name :: rest =>
    match dir.entry? place with
    | some .directory =>
      if name = ".." then if place.isEmpty then .error (outside rest) else walk dir place.tail rest
      else if nameLimit < name.utf8ByteSize then .error .nameTooLong
      else walk dir (name :: place) rest
    | some (.file _) => .error .notDirectory
    | none => .error .notFound

def read (dir : Directory) (path : String) : FileContent := do
  if path.toList.contains '\x00' then throw .nulInName
  if path.isEmpty then throw .notFound
  if pathLimit < path.utf8ByteSize then throw .nameTooLong
  if path.startsWith "/" then throw (outside (names path))
  match dir.entry? (← dir.walk [] (names path)) with
  | some (.file content) =>
    if path.endsWith "/" || path.endsWith "/." then throw .notDirectory else return content
  | some .directory => throw .isDirectory
  | none => throw .notFound

def isFile (dir : Directory) (path : String) : Bool := (dir.read path).isOk

def write (path : String) (e : Entry) (dir : Directory) : Directory :=
  { entries := ((names path).reverse, e) :: dir.entries }

def remove (path : String) (dir : Directory) : Directory :=
  { entries := dir.entries.filter fun e => e.1 ≠ (names path).reverse }

end Directory

end IntentGate
