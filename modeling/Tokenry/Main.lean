import Tokenry.Command

namespace Tokenry.Command

def usage : String :=
  "usage: lexkit [-h] [-v] kinds GRAMMAR\n       lexkit [-h] [-v] scan GRAMMAR [TEXT|@FILE|-]\n"

def fileBytes (path : Path) : IO (Option (List UInt8)) := do
  try return some (← IO.FS.readBinFile path.render).toList
  catch _ => return none

partial def streamBytes (stream : IO.FS.Stream) (sofar : List UInt8) : IO (List UInt8) := do
  let bytes ← stream.read 65536
  if bytes.isEmpty then return sofar else streamBytes stream (sofar ++ bytes.toList)

def surroundings (r : Request) : IO Surroundings := do
  let files ← r.paths.mapM fun path ↦ return (path, ← fileBytes path)
  let fed ← if r.needsInput then streamBytes (← IO.getStdin) [] else pure []
  return { read? := fun path ↦ (files.lookup path).join
           input := (Text.Utf8.decode fed).map String.ofList }

-- No table of character names is built in: here a pattern that names a character is refused.
def runRequest (r : Request) : IO UInt32 := do
  match answer (← surroundings r) r with
  | .ok outcome =>
    IO.print outcome.output
    IO.eprint outcome.complaint
    return outcome.exit.toUInt32
  | .error e =>
    IO.eprintln e.message
    return 1

def runInvocation : Invocation → IO UInt32
  | .run r => runRequest r
  | .inform .help => do
    IO.print usage
    return 0
  | .inform .version => do
    IO.println banner
    return 0
  | .misuse => do
    IO.eprint usage
    return 2

end Tokenry.Command

def main (words : List String) : IO UInt32 :=
  Tokenry.Command.runInvocation (Tokenry.Command.Invocation.ofWords words)
