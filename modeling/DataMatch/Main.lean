import DataMatch.Command.Program

/-! The command line program: it opens the files and standard input that the arguments name, and
writes what the run gives. -/
namespace DataMatch.Command

/-- The system's number of the error that a path is a directory. -/
def directoryCode : UInt32 := 21

def openResult (e : IO.Error) : Except OpenError FileEntry :=
  match e with
  | .noFileOrDirectory .. => .error .notFound
  | .permissionDenied .. => .error .denied
  | .inappropriateType _ code _ =>
    if code = directoryCode then .ok .directory else .error .notDirectory
  | other => .error (.other (toString other))

def openPath (path : String) : IO (String × Except OpenError FileEntry) := do
  try
    let bytes ← IO.FS.readBinFile path
    return (path, .ok (.file bytes.toList))
  catch e => return (path, openResult e)

def openedFiles (entries : List (String × Except OpenError FileEntry)) : Files := fun path =>
  (entries.lookup path).getD (.error .notFound)

/-- Reads a stream to its end. The chunks read so far are in reverse. -/
partial def readStream (stream : IO.FS.Stream) (chunks : List Bytes) : IO Bytes := do
  let chunk ← stream.read 65536
  if chunk.isEmpty then return chunks.reverse.flatten
  else readStream stream (chunk.toList :: chunks)

def levelTag : Level → String
  | .debug => "DEBUG"
  | .warn => "WARN"
  | .error => "ERROR"

def gather (r : Request) : IO (Files × Bytes) := do
  let entries ← (r.expect :: (r.required.toList ++ r.input.toList)).mapM openPath
  let stdin ← if r.input.isNone then readStream (← IO.getStdin) [] else pure []
  return (openedFiles entries, stdin)

def write (o : Output) : IO Unit := do
  for e in o.log do
    IO.eprintln s!"{levelTag e.level} {e.message}"
  IO.print o.stdout
  match o.stderr with
  | some payload => IO.eprintln payload.text
  | none => pure ()

end DataMatch.Command

def main (arguments : List String) : IO UInt32 := do
  let (files, stdin) ←
    match DataMatch.Command.readArguments 0 arguments with
    | .ok (.check _ request) => DataMatch.Command.gather request
    | _ => pure (fun _ => .error .notFound, [])
  let output := DataMatch.Command.runProgram files stdin arguments
  DataMatch.Command.write output
  return output.exitCode.toUInt32
