import FrameCode.Machine.Run
import FrameCode.Program.Document

/-!
# The command line

The interpreter is told which document to run, or asked for help.

- `Flag`, `Flag.all?`: the flags of a command line
- `Request.parse?`: what a command line asks for
- `Session.start`, `Session.finish`: how a run begins and what it reports at the end
- `respond`: the whole answer to a command line
-/

namespace FrameCode
namespace CommandLine

/-! ## Flags -/

/-- A flag of the command line. -/
inductive Flag where
  /-- The flag `-f` or `--source` with a path. -/
  | source (path : String)
  /-- The flag `-d` or `--debug`. -/
  | debug
  /-- The flag `-h` or `--help`. -/
  | help
  deriving DecidableEq, Repr

namespace Flag

/-- The path that a flag gives. -/
def path? : Flag → Option String
  | source path => some path
  | debug => none
  | help => none

/-- A path that is given in the same argument as its flag; it is not empty. -/
def ofPath? (path : List Char) : Option (List Flag × Bool) :=
  if path.isEmpty then none else some ([source (.ofList path)], false)

/-- The flags of an argument of single letters.  The letter `f` takes the rest of the argument as
its path, after an equals sign or directly; with nothing left, its path is the next argument, which
the second component tells. -/
def ofLetters? : List Char → Option (List Flag × Bool)
  | [] => some ([], false)
  | 'd' :: rest => (ofLetters? rest).map fun (flags, pathFollows) => (debug :: flags, pathFollows)
  | 'h' :: rest => (ofLetters? rest).map fun (flags, pathFollows) => (help :: flags, pathFollows)
  | 'f' :: [] => some ([], true)
  | 'f' :: '=' :: path => ofPath? path
  | 'f' :: path => ofPath? path
  | _ => none

/-- The flag of an argument with a full name, which may have its path after an equals sign. -/
def ofName? (text : List Char) : Option (List Flag × Bool) :=
  match text.span (· ≠ '=') with
  | (name, []) =>
    if name = "debug".toList then some ([debug], false)
    else if name = "help".toList then some ([help], false)
    else if name = "source".toList then some ([], true)
    else none
  | (name, _ :: path) => if name = "source".toList then ofPath? path else none

/-- The flags of one argument. -/
def ofArgument? (argument : String) : Option (List Flag × Bool) :=
  match argument.toList with
  | '-' :: '-' :: name => ofName? name
  | '-' :: letter :: letters => ofLetters? (letter :: letters)
  | _ => none

/-- Whether an argument can be the path of the flag before it: it is not empty and does not look
like a flag. -/
def isPath (argument : String) : Bool :=
  !argument.toList.isEmpty && (argument = "-" || argument.toList.head? ≠ some '-')

/-- The flags of a command line.  Nothing may follow the argument `--`. -/
def all? : List String → Option (List Flag)
  | [] => some []
  | argument :: rest =>
    if argument = "--" then
      if rest.isEmpty then some [] else none
    else
      match ofArgument? argument, rest with
      | none, _ => none
      | some (flags, false), rest => (all? rest).map (flags ++ ·)
      | some (_, true), [] => none
      | some (flags, true), path :: later =>
        if isPath path then (all? later).map (flags ++ source path :: ·) else none

end Flag

/-! ## Requests -/

/-- What a command line asks for. -/
inductive Request where
  | help
  /-- Run the document at a path, with or without debug output. -/
  | interpret (path : String) (debug : Bool)
  deriving DecidableEq, Repr

namespace Request

/-- What some flags ask for.  No flag is given twice, and help is asked for alone. -/
def ofFlags? (flags : List Flag) : Option Request :=
  match flags.filterMap Flag.path?, flags.count .debug, flags.count .help with
  | [], 0, 1 => some .help
  | [path], 0, 0 => some (.interpret path false)
  | [path], 1, 0 => some (.interpret path true)
  | _, _, _ => none

/-- What a command line asks for, if it is valid. -/
def parse? (arguments : List String) : Option Request :=
  (Flag.all? arguments).bind ofFlags?

end Request

/-! ## Responses -/

/-- The exit code of the interpreter and the bytes on its two output channels. -/
structure Response where
  code : Nat
  output : ByteArray
  diagnostics : ByteArray

/-- The line that reports an error. -/
def errorLine (message : String) : String :=
  s!"[ ERROR ] {message}\n"

/-- The text that explains the flags. -/
def helpText : String :=
  "Interpret an IPPcode18 program stored as XML\n\n" ++
  "Usage: interpret [OPTIONS]\n\n" ++
  "Options:\n" ++
  "  -f, --source <FILE>  Path to the XML program\n" ++
  "  -d, --debug          Enable debug output on stderr\n" ++
  "  -h, --help           Print help (cannot be combined with other arguments)\n\n"

namespace Response

/-- A response that reports an error and nothing else. -/
def ofError (kind : ErrorClass) (message : String) : Response where
  code := kind.exitCode
  output := .empty
  diagnostics := (errorLine message).toUTF8

def help : Response where
  code := 0
  output := helpText.toUTF8
  diagnostics := .empty

end Response

/-! ## Sessions -/

/-- How the interpreter goes on after its command line has been read. -/
inductive Session where
  /-- There is nothing to run. -/
  | stop (response : Response)
  | run (program : Program) (machine : Machine)

namespace Session

/-- Loads a document, given as its bytes or as the reason why it cannot be read. -/
def load (path : String) : Except String ByteArray → Except LoadError Program
  | .error reason => .error (.unreadable path reason)
  | .ok bytes => Program.ofBytes bytes

/-- The start of a session: `files` gives the bytes of a file. -/
def start (files : String → Except String ByteArray) (input : List UInt8)
    (arguments : List String) : Session :=
  match Request.parse? arguments with
  | none => .stop (.ofError .invalidArguments "invalid arguments")
  | some .help => .stop .help
  | some (.interpret path _) =>
    match load path (files path) with
    | .error e => .stop (.ofError e.errorClass e.message)
    | .ok program => .run program (.initial input (.ofRoom none) (.ofRoom none))

/-- The response at the end of a run.  What the program wrote comes first. -/
def finish (error : Option RuntimeError) (m : Machine) : Response :=
  match error with
  | none => ⟨0, m.output.written, m.diagnostics.written⟩
  | some e =>
    ⟨e.fault.errorClass.exitCode, m.output.written,
      m.diagnostics.written ++ (errorLine e.message).toUTF8⟩

end Session

/-- The answer to a command line, if the program ends within a given number of instructions. -/
def respond (fuel : Nat) (files : String → Except String ByteArray) (input : List UInt8)
    (arguments : List String) : Option Response :=
  match Session.start files input arguments with
  | .stop response => some response
  | .run program machine =>
    (machine.run program fuel).map fun (error, last) => Session.finish error last

end CommandLine
end FrameCode
