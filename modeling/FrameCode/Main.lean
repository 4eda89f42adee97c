import FrameCode.CommandLine

/-!
# The interpreter

Reads the command line, the document and the standard input, and writes what the program writes as
soon as it is written.
-/

namespace FrameCode
namespace Main

/-- Reads everything from a stream. -/
partial def readAll (stream : IO.FS.Stream) (before : ByteArray) : IO ByteArray := do
  let bytes ← stream.read 65536
  if bytes.isEmpty then return before else readAll stream (before ++ bytes)

/-- The number of a system error, which may come negated. -/
def systemCode (code : UInt32) : Nat :=
  if code.toNat < 0x80000000 then code.toNat else 0x100000000 - code.toNat

/-- Why a file cannot be read. -/
def reason : IO.Error → String
  | .noFileOrDirectory _ code _ => s!"No such file or directory (os error {systemCode code})"
  | .inappropriateType _ code _ =>
    let kind := if systemCode code = 20 then "Not a directory" else "Is a directory"
    s!"{kind} (os error {systemCode code})"
  | .permissionDenied _ code _ => s!"Permission denied (os error {systemCode code})"
  | other => toString other

/-- The bytes of a file, or why it cannot be read. -/
def readFile (path : String) : IO (Except String ByteArray) :=
  try
    return .ok (← IO.FS.readBinFile path)
  catch e =>
    return .error (reason e)

/-- Writes what a machine has written, and empties its channels. -/
def flush (m : Machine) : IO Machine := do
  let output ← IO.getStdout
  let diagnostics ← IO.getStderr
  unless m.output.written.isEmpty do
    output.write m.output.written
    output.flush
  unless m.diagnostics.written.isEmpty do
    diagnostics.write m.diagnostics.written
    diagnostics.flush
  return { m with output := .ofRoom none, diagnostics := .ofRoom none }

/-- Runs a program to its end. -/
partial def drive (program : Program) (m : Machine) : IO CommandLine.Response := do
  match m.dispatch program with
  | none => return CommandLine.Session.finish none m
  | some (_, .done after) => drive program (← flush after)
  | some (i, .failed fault after) =>
    return CommandLine.Session.finish (some ⟨fault, i.order⟩) (← flush after)

/-- Writes a response and gives its exit code. -/
def conclude (response : CommandLine.Response) : IO UInt32 := do
  (← IO.getStdout).write response.output
  (← IO.getStderr).write response.diagnostics
  return response.code.toUInt32

/-- Answers a command line. -/
def answer (arguments : List String) : IO UInt32 := do
  let contents ←
    match CommandLine.Request.parse? arguments with
    | some (.interpret path _) => readFile path
    | _ => pure (.ok .empty)
  let input ←
    match contents with
    | .ok _ => readAll (← IO.getStdin) .empty
    | .error _ => pure .empty
  match CommandLine.Session.start (fun _ => contents) input.toList arguments with
  | .stop response => conclude response
  | .run program machine => conclude (← drive program machine)

end Main
end FrameCode

def main (arguments : List String) : IO UInt32 :=
  FrameCode.Main.answer arguments
