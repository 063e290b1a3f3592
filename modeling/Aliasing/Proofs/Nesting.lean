import Aliasing.Analysis
/-!
# Nesting of spans

The events of a run are read with a stack of the spans that are open. To leave a span that is not
the innermost one is out of order. A traced value is balanced when its events end with the spans
open that were open before, whichever these were, so that it can be part of any other work.

Main statements: `balanced_bind` and `balanced_within`, the ways of putting traced values together
keep them balanced; `balanced_analyse`, an analysis is balanced, also when it fails.
-/

namespace Aliasing

/-- The spans that are open after some events, the innermost first, when the given ones were open
before. There is no answer if a span is left out of order. -/
def openAfter : List Span → List Event → Option (List Span)
  | inside, [] => some inside
  | inside, .enter s :: es => openAfter (s :: inside) es
  | t :: inside, .exit s :: es => if s = t then openAfter inside es else none
  | [], .exit _ :: _ => none
  | inside, .notice _ :: es => openAfter inside es

/-- The spans that the events enter are left again in order, and no others. -/
def Balanced (es : List Event) : Prop := ∀ inside, openAfter inside es = some inside

/-! ## Events -/

theorem openAfter_append (fs : List Event) : ∀ (es : List Event) (inside : List Span),
    openAfter inside (es ++ fs) = (openAfter inside es).bind (openAfter · fs)
  | [], _ => by simp [openAfter]
  | .enter s :: es, inside => by simp [openAfter, openAfter_append fs es]
  | .notice n :: es, inside => by cases inside <;> simp [openAfter, openAfter_append fs es]
  | .exit s :: es, [] => by simp [openAfter]
  | .exit s :: es, t :: inside => by
    by_cases h : s = t
    · simp [openAfter, h, openAfter_append fs es]
    · simp [openAfter, h]

theorem balanced_nil : Balanced [] := fun _ => by simp [openAfter]

theorem Balanced.append {es fs : List Event} (h : Balanced es) (h' : Balanced fs) :
    Balanced (es ++ fs) := by
  intro inside
  rw [openAfter_append, h inside, Option.bind_some, h' inside]

theorem balanced_notices : ∀ ns : List Notice, Balanced (ns.map .notice)
  | [] => balanced_nil
  | n :: ns => fun inside => by
    have ih := balanced_notices ns inside
    cases inside <;> simpa [openAfter] using ih

theorem Balanced.enclose {es : List Event} (h : Balanced es) (s : Span) :
    Balanced (.enter s :: es ++ [.exit s]) := by
  intro inside
  show openAfter (s :: inside) (es ++ [.exit s]) = some inside
  rw [openAfter_append, h, Option.bind_some]
  simp [openAfter]

/-! ## Traced values -/

namespace Traced

variable {α β : Type}

theorem balanced_tell (notices : List Notice) : Balanced (tell notices).events :=
  balanced_notices notices

theorem balanced_bind {t : Traced α} {f : α → Traced β} (ht : Balanced t.events)
    (hf : ∀ v, Balanced (f v).events) : Balanced (t >>= f).events := ht.append (hf t.value)

theorem balanced_within {t : Traced α} (ht : Balanced t.events) (s : Span) :
    Balanced (within s t).events := ht.enclose s

end Traced

/-! ## The parts of a run -/

theorem Log.balanced_read (text : String) : Balanced (Log.read text).events :=
  Traced.balanced_within (Traced.balanced_bind (Traced.balanced_tell _) fun _ => balanced_nil) _

namespace Relation

theorem balanced_pass (how : Reduction) (r : Relation) : Balanced (r.pass how).events := by
  cases how with
  | snapshot => exact Traced.balanced_within balanced_nil _
  | inPlace =>
    exact Traced.balanced_within
      (Traced.balanced_bind (Traced.balanced_tell _) fun _ => balanced_nil) _

/-- **Passes one after another** are balanced, since each of them is. -/
theorem balanced_reduceFrom (how : Reduction) (sofar : Reduced) (r : Relation) :
    Balanced (r.reduceFrom how sofar).events := by
  fun_induction reduceFrom how sofar r with
  | case1 sofar r pass h =>
    rw [Traced.events_map]
    exact balanced_pass how r
  | case2 sofar r pass h merges done ih =>
    rw [Traced.events_seqRight, Traced.events_seqRight]
    exact ((balanced_pass how r).append (Traced.balanced_tell _)).append ih

end Relation

/-- **An analysis** is balanced, whether it comes to findings or fails. -/
theorem balanced_analyse (text : String) (opts : Options) :
    Balanced (analyse text opts).events := by
  unfold analyse
  refine Traced.balanced_within (Traced.balanced_bind (Log.balanced_read text) fun log => ?_) _
  refine Traced.balanced_bind (Traced.balanced_tell _) fun _ => ?_
  split
  · exact balanced_nil
  · refine Traced.balanced_bind ?_ fun _ => ?_
    · exact Traced.balanced_within (Relation.balanced_reduceFrom _ _ _) _
    · exact Traced.balanced_bind (Traced.balanced_tell _) fun _ => balanced_nil

end Aliasing
