import Aliasing.CommandLine.Program
/-!
# The command line

Runs the program on the files of the operating system.
-/

namespace Aliasing

/-- The fault behind an error of the system. Some of its calls negate the error number. -/
def FileFault.ofError (e : IO.Error) : FileFault :=
  match e with
  | .noFileOrDirectory .. => .missing
  | .inappropriateType _ code _ => if code = 20 ∨ 0 - code = 20 then .notFolder else .isFolder
  | .permissionDenied .. => ⟨"Permission denied", 13⟩
  | e => ⟨e.toString, 5⟩

variable (readArguments : List String → Except Outcome Invocation)
  (traceText : List Event → String)

/-- The files of the operating system, with a reader of arguments and a form of traces. -/
def systemHost : Host IO where
  readArguments
  traceText
  create path := do
    try
      let _ ← IO.FS.Handle.mk path .write
      return .ok ()
    catch e => return .error (.ofError e)
  read path := do
    try
      let bytes ← IO.FS.readBinFile path
      return .ok bytes.toList
    catch e => return .error (.ofError e)

/-- Runs the program, prints what it ends with, and gives its code. -/
def mainWith (args : List String) : IO UInt32 := do
  let outcome ← runProgram (systemHost readArguments traceText) args
  IO.print outcome.stdout
  IO.eprint outcome.stderr
  return outcome.code.toUInt32

end Aliasing
