import Aliasing.Grammar.Record
import Aliasing.Text.Lines
/-!
# Points-to logs

A dump is read line by line. Every line that is not blank gives one entry, a record or the reason
why the line was skipped, and no line has a say in what becomes of another.
-/

namespace Aliasing

/-- A line that holds no record. -/
structure Skipped where
  /-- The number of the line, counted from 1. -/
  line : Nat
  why : Grammar.Rejection
deriving DecidableEq

/-- What became of a line. -/
inductive Entry where
  | record (r : Record)
  | skipped (s : Skipped)
deriving DecidableEq

namespace Entry

def ofLine (l : NumberedLine) : Entry :=
  match Record.ofLine l.text with
  | .ok r => record r
  | .error why => skipped ⟨l.number, why⟩

def record? : Entry → Option Record
  | record r => some r
  | skipped _ => none

def skipped? : Entry → Option Skipped
  | record _ => none
  | skipped s => some s

end Entry

/-- The entries of a dump, in the order of its lines. -/
structure Log where
  entries : List Entry
deriving DecidableEq

namespace Log

/-- Reads a dump (`parse_log`, without its events). -/
def ofText (text : String) : Log := ⟨(writtenLines text).map Entry.ofLine⟩

def records (log : Log) : List Record := log.entries.filterMap Entry.record?

def skipped (log : Log) : List Skipped := log.entries.filterMap Entry.skipped?

/-- The lines that were skipped for a node id that is too large. -/
def oversized (log : Log) : List Skipped := log.skipped.filter (·.why.isOversizedId)

end Log

end Aliasing
