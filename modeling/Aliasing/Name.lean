import Std.Data.ExtTreeSet
/-!
# Names of values

An analysed value is known by its name: `@` and a word for a global one; for a local one the name of
its function, `::%`, and a word. Names are equal when their texts are, and ordered by the code
points of their texts.
-/

namespace Aliasing

/-- The name of an analysed value (`ValueName`). -/
@[ext] structure Name where
  text : String
deriving DecidableEq

namespace Name

/-- What the name of a global value begins with. -/
def sigil : String := "@"

/-- What stands between function and word in the name of a local value. -/
def separator : String := "::%"

def ofGlobal (word : List Char) : Name := ⟨String.ofList (sigil.toList ++ word)⟩

def ofLocal (function word : List Char) : Name :=
  ⟨String.ofList (function ++ separator.toList ++ word)⟩

/-- Whether a name is that of a global value. -/
def isGlobal (x : Name) : Bool := sigil.toList.isPrefixOf x.text.toList

instance : Ord Name := ⟨fun x y => compare x.text y.text⟩

instance : Std.TransOrd Name :=
  inferInstanceAs (Std.TransCmp (compareOn text))

instance : Std.LawfulEqOrd Name where
  eq_of_compare {a b} h :=
    Name.ext (Std.LawfulEqOrd.eq_of_compare (show compare a.text b.text = .eq from h))

end Name

abbrev NameSet := Std.ExtTreeSet Name

end Aliasing
