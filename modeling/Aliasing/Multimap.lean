import Std.Data.ExtTreeMap
import Std.Data.ExtTreeSet
/-!
# Multimaps

A multimap gives each of its keys a set. A key may be present with the empty set.

Main statement: `getElem?_add`, adding to a key unites its set with the new one and leaves the other
keys alone.
-/

namespace Aliasing

abbrev Multimap (κ α : Type) [Ord κ] [Ord α] := Std.ExtTreeMap κ (Std.ExtTreeSet α)

namespace Multimap

variable {κ α : Type} [Ord κ] [Std.TransOrd κ] [Ord α] [Std.TransOrd α]

/-- The set at a key, empty if the key is missing. -/
def entry (m : Multimap κ α) (k : κ) : Std.ExtTreeSet α := m[k]?.getD ∅

/-- Adds a set to a key, which is created if it is missing. -/
def add (m : Multimap κ α) (k : κ) (xs : Std.ExtTreeSet α) : Multimap κ α :=
  m.alter k fun old => some (old.getD ∅ ∪ xs)

theorem getElem?_add [DecidableEq κ] [Std.LawfulEqOrd κ] (m : Multimap κ α) (k k' : κ)
    (xs : Std.ExtTreeSet α) :
    (m.add k xs)[k']? = if k = k' then some (m.entry k ∪ xs) else m[k']? := by
  simp [add, entry, Std.ExtTreeMap.getElem?_alter]

end Multimap

end Aliasing
