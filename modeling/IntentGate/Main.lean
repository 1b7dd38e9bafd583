import IntentGate.Event
import IntentGate.Run

set_option autoImplicit false

namespace IntentGate.Program

def faultOf : IO.Error → FileFault
  | .noFileOrDirectory _ _ _ => .notFound
  | .inappropriateType _ 21 _ => .isDirectory
  | .inappropriateType _ _ _ => .notDirectory
  | e => .other e.toString

def contentOf (path : String) : IO FileContent := do
  try
    return .ok (← IO.FS.readBinFile path).data.toList
  catch e =>
    return .error (faultOf e)

partial def readAll (stream : IO.FS.Stream) (done : ByteArray) : IO ByteArray := do
  let piece ← stream.read 65536
  if piece.isEmpty then return done else readAll stream (done ++ piece)

def environment : IO Environment := do
  let content ← IO.FS.readBinFile "/proc/self/environ"
  let entries := ((Text.decode? content.data.toList).getD "").splitOn "\x00"
  return entries.filterMap fun entry =>
    match entry.splitOn "=" with
    | name :: value => if value.isEmpty then none else some (name, "=".intercalate value)
    | [] => none

def contents (paths : List String) : IO (List (String × FileContent)) :=
  paths.mapM fun path => return (path, ← contentOf path)

def reader (files : List (String × FileContent)) : FileReader :=
  fun path => (files.lookup path).getD (.error .notFound)

def tell (report : Report) : IO UInt32 := do
  for e in report.logged do
    IO.eprintln (if report.jsonLog then e.jsonLine else e.line)
  for complaint in report.complaint? do
    IO.eprintln complaint
  (← IO.getStdout).write (ByteArray.mk report.output.toArray)
  return report.exitCode

def run : IO UInt32 := do
  let env ← environment
  let input := (← readAll (← IO.getStdin) ByteArray.empty).data.toList
  let files ← contents Settings.paths
  let call : Call := { env, read := reader files, input }
  let domain ← contents call.domainPath?.toList
  tell { call with read := reader (files ++ domain) }.run

end IntentGate.Program

def main : IO UInt32 := IntentGate.Program.run
