import CycleTable.Cli

/-! # Running the command

This module talks to the system: arguments, files, standard input and output, and the variable
that sets the log. Only the page that a command line asks for is read.
-/
namespace CycleTable.Cli

def failureOfSystem (e : IO.Error) : ReadFailure :=
  match e with
  | .noFileOrDirectory .. => .notFound
  | .inappropriateType _ code _ => if code = 21 then .isDirectory else .notDirectory
  | e => .other (toString e)

def readFile (path : PagePath) : IO (Except ReadFailure ByteArray) := do
  match String.fromUTF8? ⟨path.toArray⟩ with
  | none => return .error .notFound
  | some name =>
    try
      return .ok (← IO.FS.readBinFile name)
    catch e =>
      return .error (failureOfSystem e)

/-- What a request has to be given: the file it names, and the standard input if it asks for it. -/
def gather : Except Refusal Request → IO (Except ReadFailure ByteArray × ByteArray)
  | .ok (.extract ⟨some path, _⟩) => do
    if path.isDash then return (.error .notFound, ← (← IO.getStdin).readBinToEnd)
    else return (← readFile path, ByteArray.empty)
  | .ok (.extract ⟨none, _⟩) => do
    return (.error .notFound, ← (← IO.getStdin).readBinToEnd)
  | .ok .help => return (.error .notFound, ByteArray.empty)
  | .error refusal => do
    IO.eprintln ("error: " ++ refusal.message)
    return (.error .notFound, ByteArray.empty)

end CycleTable.Cli

open CycleTable CycleTable.Cli in
def main (arguments : List String) : IO UInt32 := do
  let (file, input) ← gather (Request.parse arguments)
  let outcome := extractor.execute (← IO.getEnv "RUST_LOG") (fun _ => file) input arguments
  for event in outcome.shown do
    IO.eprintln ("[" ++ event.level.name ++ " " ++ event.source ++ "] " ++ event.message)
  IO.print outcome.output
  return UInt32.ofNat outcome.exit
