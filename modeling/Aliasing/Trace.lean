import Aliasing.Log
import Aliasing.Options
/-!
# Traces

What a run tells of itself while it goes: the spans of its work as they begin and end, and notices
in between. A traced value carries the events that led to it, in order.

Main statement: traced values form a lawful monad, and `value_within`, a span changes no value.
-/

namespace Aliasing

inductive Span where
  | analysis
  | reading
  | reduction
  | snapshotPass
  | inPlacePass
deriving DecidableEq

def Span.label : Span → String
  | analysis => "analysis"
  | reading => "parse_log"
  | reduction => "reduce"
  | snapshotPass => "snapshot_pass"
  | inPlacePass => "in_place_pass"

/-- How much a notice matters. -/
inductive Level where
  | debug
  | info
  | warn
deriving DecidableEq

def Level.label : Level → String
  | debug => "DEBUG"
  | info => "INFO"
  | warn => "WARN"

/-- Something worth telling. -/
inductive Notice where
  /-- A line was read that holds no record. -/
  | malformed (s : Skipped)
  /-- The result leaves a line out. -/
  | leftOut (s : Skipped)
  /-- A set is merged into its primary node. -/
  | collapsing (name : Name) (primary : NodeId)
  /-- A pass merged this many sets, and this many nodes have names now. -/
  | passDone (pass merges nodes : Nat)
  /-- The relation is reduced. -/
  | reduced (records skipped passes groups : Nat) (how : Reduction)
deriving DecidableEq

/-- What a field of a notice holds. -/
inductive FieldValue where
  | number (n : Nat)
  | text (s : String)
deriving DecidableEq

namespace Notice

def level : Notice → Level
  | malformed _ => .debug
  | leftOut _ => .warn
  | collapsing _ _ => .debug
  | passDone _ _ _ => .debug
  | reduced _ _ _ _ _ => .info

def message : Notice → String
  | malformed _ => "skipping line"
  | leftOut _ => "skipped line"
  | collapsing _ _ => "collapsing points-to set"
  | passDone _ _ _ => "reduction pass"
  | reduced _ _ _ _ _ => "coalesced points-to sets"

/-- The named values that a notice reports beside its message. -/
def fields : Notice → List (String × FieldValue)
  | malformed s => [("line", .number s.line), ("error", .text s.why.message)]
  | leftOut s => [("line", .number s.line), ("error", .text s.why.message)]
  | collapsing x p => [("name", .text x.text), ("primary", .text p.text)]
  | passDone pass merges nodes =>
    [("pass", .number pass), ("merges", .number merges), ("nodes", .number nodes)]
  | reduced records skipped passes groups how =>
    [("records", .number records), ("skipped", .number skipped), ("passes", .number passes),
      ("groups", .number groups), ("reduction", .text how.label)]

end Notice

inductive Event where
  | enter (s : Span)
  | exit (s : Span)
  | notice (n : Notice)
deriving DecidableEq

/-- A value, and the events on the way to it. -/
@[ext] structure Traced (α : Type) where
  events : List Event
  value : α

namespace Traced

variable {α β : Type}

instance : Monad Traced where
  pure v := ⟨[], v⟩
  bind t f := ⟨t.events ++ (f t.value).events, (f t.value).value⟩

@[simp] theorem events_pure (v : α) : (pure v : Traced α).events = [] := rfl

@[simp] theorem value_pure (v : α) : (pure v : Traced α).value = v := rfl

@[simp] theorem events_bind (t : Traced α) (f : α → Traced β) :
    (t >>= f).events = t.events ++ (f t.value).events := rfl

@[simp] theorem value_bind (t : Traced α) (f : α → Traced β) :
    (t >>= f).value = (f t.value).value := rfl

@[simp] theorem events_map (f : α → β) (t : Traced α) : (f <$> t).events = t.events :=
  List.append_nil _

@[simp] theorem value_map (f : α → β) (t : Traced α) : (f <$> t).value = f t.value := rfl

@[simp] theorem events_seqRight (t : Traced α) (u : Traced β) :
    (t *> u).events = t.events ++ u.events := rfl

instance : LawfulMonad Traced := LawfulMonad.mk' Traced
  (fun t => Traced.ext (by simp) rfl)
  (fun _ _ => Traced.ext (by simp) rfl)
  (fun _ _ _ => Traced.ext (by simp) rfl)

/-- Tells of something, and of nothing else. -/
def tell (notices : List Notice) : Traced Unit := ⟨notices.map .notice, ()⟩

@[simp] theorem events_tell (notices : List Notice) :
    (tell notices).events = notices.map .notice := rfl

/-- Puts the events of a piece of work between its beginning and its end. -/
def within (s : Span) (t : Traced α) : Traced α := ⟨.enter s :: t.events ++ [.exit s], t.value⟩

@[simp] theorem events_within (s : Span) (t : Traced α) :
    (within s t).events = .enter s :: t.events ++ [.exit s] := rfl

@[simp] theorem value_within (s : Span) (t : Traced α) : (within s t).value = t.value := rfl

end Traced

/-- Reads a dump, telling of every line that it skips (`parse_log`). -/
def Log.read (text : String) : Traced Log :=
  Traced.within .reading do
    let log := Log.ofText text
    Traced.tell (log.skipped.map .malformed)
    return log

@[simp] theorem Log.value_read (text : String) : (Log.read text).value = Log.ofText text := rfl

end Aliasing
