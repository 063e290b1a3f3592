/-!
# Options of an analysis

What to do about malformed lines, and how to reduce the points-to relation.
-/

namespace Aliasing

/-- What to do about the lines of a dump that hold no record. -/
inductive Check where
  /-- Skip them. -/
  | lenient
  /-- Skip them and name each one. -/
  | report
  /-- Name each one, and fail. -/
  | strict
deriving DecidableEq

def Check.label : Check → String
  | lenient => "default"
  | report => "report"
  | strict => "strict"

/-- How a pass of the reduction merges nodes. -/
inductive Reduction where
  /-- All sets of the relation as it stands at the start of the pass are merged together, so no name
  is left with a node that is gone. -/
  | snapshot
  /-- The sets are merged one name after the other in the relation itself, and the nodes that are
  merged away go at the end of the pass. A set takes along the names that earlier sets merged into
  its nodes. But a node that an earlier set merged away is still there to be merged into, and what a
  later set merges into it goes with it at the end, unless a set after that takes it along. -/
  | inPlace
deriving DecidableEq

def Reduction.label : Reduction → String
  | snapshot => "snapshot"
  | inPlace => "in-place"

structure Options where
  check : Check
  reduction : Reduction
deriving DecidableEq

end Aliasing
