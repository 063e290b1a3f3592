import Aliasing.Record
import Aliasing.Grammar.Progress
/-!
# The grammar of points-to dumps

A dump has one line for each analysed value, such as

    NodeID 7 (val:main::%p) PointsTo: { 3 12 }

with the value's name and the ids of the nodes that it may point to. The number after `NodeID` is
the value's own node; it is read and dropped. Text after the closing brace is not looked at.

Main statement: `ends_record`, reading a line comes to an end, so `Record.ofLine` answers with a
record or with a reason, and with nothing else.
-/

namespace Aliasing.Grammar

open Matcher

/-! ## Names -/

def word : Matcher (List Char) := wordChar.many1

def globalName : Matcher Name := do
  literal Name.sigil
  let w ← word
  return Name.ofGlobal w

def localName : Matcher Name := do
  let function ← word
  literal Name.separator
  let w ← word
  return Name.ofLocal function w

/-- The name of a value (`parse_name`). The global form is tried first. -/
def name : Matcher Name := globalName.orElse localName

/-! ## Node sets -/

/-- White space, at least one character of it. -/
def gap : Matcher Unit := (fun _ => ()) <$> whiteSpaceChar.many1

/-- White space, if there is any. -/
def padding : Matcher Unit := (fun _ => ()) <$> whiteSpaceChar.many

/-- A node id in decimal digits (`parse_node_id`). A number of 2^64 or more is rejected with all its
digits. -/
def nodeId : Matcher NodeId := do
  let digits ← digit.many1
  match NodeId.ofDigits? digits with
  | some n => return n
  | none => reject (.oversizedId (String.ofList digits))

/-- What separates two ids: a gap with a digit after it. White space before anything else belongs to
what follows the list. -/
def idSeparator : Matcher Unit := do
  gap
  let _ ← digit.lookAhead
  return ()

/-- One or more node ids, as a set (`parse_node_set`). -/
def nodeSet : Matcher NodeSet :=
  (fun ids => Std.ExtTreeSet.ofList ids) <$> nodeId.separated idSeparator

/-! ## Lines -/

/-- A line of a dump (`parse_line`). -/
def record : Matcher Record := do
  literal "NodeID"
  gap
  let _ ← digit.many1
  gap
  literal "(val:"
  padding
  let x ← name
  literal ")"
  padding
  literal "PointsTo:"
  padding
  literal "\x7b"
  padding
  let nodes ← nodeSet
  padding
  literal "\x7d"
  return ⟨x, nodes⟩

/-! ## Reading comes to an end -/

theorem ends_word : word.Ends := (ends_satisfying _ _).many1

theorem ends_name : name.Ends :=
  ((ends_literal _).bind fun _ => ends_word.bind fun _ => ends_pure _).orElse
    (ends_word.bind fun _ => (ends_literal _).bind fun _ => ends_word.bind fun _ => ends_pure _)

theorem ends_gap : gap.Ends := (ends_satisfying _ _).many1.map _

theorem ends_padding : padding.Ends := (ends_satisfying _ _).many.map _

theorem ends_nodeId : nodeId.Ends :=
  (ends_satisfying _ _).many1.bind fun digits => by
    cases NodeId.ofDigits? digits
    · exact ends_reject _
    · exact ends_pure _

/-- An id takes at least one digit. -/
theorem consumes_nodeId : nodeId.Consumes := (consumes_satisfying _ _).many1.bind _

theorem ends_idSeparator : idSeparator.Ends :=
  ends_gap.bind fun _ => (ends_satisfying _ _).lookAhead.bind fun _ => ends_pure _

theorem ends_nodeSet : nodeSet.Ends :=
  (ends_separated ends_nodeId ends_idSeparator consumes_nodeId).map _

/-- **Reading a line ends.** -/
theorem ends_record : record.Ends :=
  (ends_literal _).bind fun _ => ends_gap.bind fun _ => (ends_satisfying _ _).many1.bind fun _ =>
  ends_gap.bind fun _ => (ends_literal _).bind fun _ => ends_padding.bind fun _ =>
  ends_name.bind fun _ => (ends_literal _).bind fun _ => ends_padding.bind fun _ =>
  (ends_literal _).bind fun _ => ends_padding.bind fun _ => (ends_literal _).bind fun _ =>
  ends_padding.bind fun _ => ends_nodeSet.bind fun _ => ends_padding.bind fun _ =>
  (ends_literal _).bind fun _ => ends_pure _

end Aliasing.Grammar

namespace Aliasing

/-- The record that a line holds, or the reason why it holds none. -/
def Record.ofLine (line : List Char) : Except Grammar.Rejection Record :=
  ((Grammar.record (.start line)).toExcept (Grammar.ends_record _)).map Prod.fst

end Aliasing
