import Aliasing.Analysis
import Aliasing.Text.Utf8
/-!
# The program

The program reads a dump, prints its alias groups, and ends with a code: 0 if it did what was asked,
1 if a file or, under a strict check, a line was at fault. What is not its own work it leaves to a
host: the files, the form of its arguments, and the form of a printed trace.
-/

namespace Aliasing

inductive Format where
  | text
  | json
deriving DecidableEq

/-- What the program is asked to do (`Args`). -/
structure Invocation where
  /-- The path of the dump. -/
  dump : String
  check : Check
  format : Format
  reduction : Reduction
  /-- Whether the groups are left unprinted. -/
  quiet : Bool
  /-- Whether the counts are printed after the groups, in text format. -/
  stats : Bool
  tracing : Bool
  /-- Where to write the data of a flame graph. -/
  flame : Option String
deriving DecidableEq

@[ext] structure Outcome where
  code : Nat
  stdout : String
  stderr : String
deriving DecidableEq

/-- Why a file cannot be reached, in the words and by the number of the operating system. -/
structure FileFault where
  description : String
  number : Nat
deriving DecidableEq

namespace FileFault

def missing : FileFault := ⟨"No such file or directory", 2⟩

def notFolder : FileFault := ⟨"Not a directory", 20⟩

def isFolder : FileFault := ⟨"Is a directory", 21⟩

def message (f : FileFault) : String := f.description ++ " (os error " ++ f.number.repr ++ ")"

end FileFault

/-- What the program leaves to others. -/
structure Host (m : Type → Type) where
  /-- What arguments ask for. Where they ask for no analysis, or for nothing that there is, this is
  how the program ends on them. -/
  readArguments : List String → Except Outcome Invocation
  /-- The events of a run as they are printed. -/
  traceText : List Event → String
  /-- Makes an empty file at a path, in place of one that is there. -/
  create : String → m (Except FileFault Unit)
  /-- The bytes of the file at a path. -/
  read : String → m (Except FileFault (List UInt8))

/-! ## Texts -/

/-- The report on skipped lines: their number, and then each with the reason (`report_skipped`). -/
def skippedText (skipped : List Skipped) : String :=
  "skipped " ++ skipped.length.repr ++ " malformed line(s)\n" ++
    String.join (skipped.map fun s => "  line " ++ s.line.repr ++ ": " ++ s.why.message ++ "\n")

/-- The notice on lines that were skipped for a node id that is too large. -/
def oversizedText (count : Nat) : String :=
  "dropped " ++ count.repr ++ " line(s) with node ids beyond " ++ NodeId.largest.text ++ "\n"

/-- The block of counts, set off by an empty line. -/
def statsText (s : Stats) : String :=
  "\nstats\n-----\n" ++ String.join (
    [("records", s.records), ("skipped lines", s.skipped), ("oversized node ids", s.oversized),
      ("names", s.names), ("nodes", s.nodes), ("surviving nodes", s.survivingNodes),
      ("passes", s.passes), ("merges", s.merges), ("alias groups", s.groups)].map
    fun e => e.1 ++ ": " ++ e.2.repr ++ "\n")

/-- A fault of a file, with what the program wanted to do and what came in between. -/
def faultText (doing : String) (fault : FileFault) : String :=
  "Error: " ++ doing ++ "\n\nCaused by:\n    " ++ fault.message ++ "\n"

/-- The findings in a format. -/
def Format.render (how : Format) (f : Findings) : String :=
  match how with
  | text => f.text
  | json => f.toJson.indented 0 ++ "\n"

/-! ## Running -/

namespace Invocation

/-- What is told on the error channel about a run that succeeds. -/
def warning (inv : Invocation) (f : Findings) : String :=
  if inv.check = .report ∧ f.skipped ≠ [] then skippedText f.skipped
  else if 0 < f.stats.oversized then oversizedText f.stats.oversized
  else ""

/-- What is printed of the findings. -/
def output (inv : Invocation) (f : Findings) : String :=
  (if inv.quiet then "" else inv.format.render f) ++
    (if inv.stats ∧ inv.format = .text then statsText f.stats else "")

/-- How the program ends on a dump with the given bytes, where a trace is printed in a form. -/
def conclude (inv : Invocation) (traceText : List Event → String) (bytes : List UInt8) : Outcome :=
  let run := analyse (String.ofList (decodeUtf8 bytes)) ⟨inv.check, inv.reduction⟩
  let trace := if inv.tracing then traceText run.events else ""
  match run.value with
  | .ok f => ⟨0, inv.output f, trace ++ inv.warning f⟩
  | .error e =>
    ⟨1, "", trace ++ skippedText e.skipped ++ "Error: " ++ e.message ++ " in " ++ inv.dump ++ "\n"⟩

variable {m : Type → Type} [Monad m]

/-- Makes the file for the flame graph, if one is asked for and the run is traced. -/
def prepare (host : Host m) (inv : Invocation) : m (Except (String × FileFault) Unit) :=
  match inv.tracing, inv.flame with
  | true, some path => do return (← host.create path).mapError fun fault => (path, fault)
  | _, _ => return .ok ()

/-- Runs the program on arguments that are read (`main`). -/
def run (host : Host m) (inv : Invocation) : m Outcome := do
  match ← inv.prepare host with
  | .error (path, fault) =>
    return ⟨1, "", faultText ("Couldn't create flamegraph output at " ++ path) fault⟩
  | .ok () =>
    match ← host.read inv.dump with
    | .error fault =>
      return ⟨1, "", faultText ("Couldn't read points-to dump at " ++ inv.dump) fault⟩
    | .ok bytes => return inv.conclude host.traceText bytes

end Invocation

/-- The program as a whole. -/
def runProgram {m : Type → Type} [Monad m] (host : Host m) (args : List String) : m Outcome :=
  match host.readArguments args with
  | .ok inv => inv.run host
  | .error ending => return ending

end Aliasing
