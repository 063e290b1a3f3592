import Std.Data.ExtTreeMap
import Aliasing.NodeId
/-!
# Partitions of the nodes

Nodes that have to become one are kept in classes, and every class is represented by its least node,
its root. A node that is not a root has a link to a lesser node of its class; ids that were never
merged are classes of their own. Looking a root up moves the links on the way closer to it.

Main statements: `find_root` and `root_find`, a look-up gives the root and changes no root;
`LooksUp.mapM`, so a loop of look-ups gives the roots; `root_merge`, a merge gives the nodes of
both classes the lesser of the two roots and leaves the others alone.
-/

namespace Aliasing

/-- Classes of nodes, by links that lead to lesser nodes (`NodeClasses`). -/
structure Partition where
  link : Std.ExtTreeMap NodeId NodeId
  link_lt : ∀ a p : NodeId, link[a]? = some p → p < a

namespace Partition

def discrete : Partition := ⟨∅, by simp⟩

/-- The least node of a node's class. -/
def root (c : Partition) (a : NodeId) : NodeId :=
  match h : c.link[a]? with
  | none => a
  | some p =>
    have := NodeId.lt_iff.1 (c.link_lt a p h)
    c.root p
termination_by a.toNat

def relink (c : Partition) (a p : NodeId) (h : p < a) : Partition where
  link := c.link.insert a p
  link_lt b q hb := by
    rw [Std.ExtTreeMap.getElem?_insert] at hb
    split at hb
    · rename_i hab
      obtain rfl := Std.LawfulEqOrd.eq_of_compare hab
      obtain rfl := Option.some.inj hb
      exact h
    · exact c.link_lt b q hb

/-- Looks the root of a node up, and links every node on the way to the one after the next
(`lookup`). -/
def find (c : Partition) (a : NodeId) : NodeId × Partition :=
  match h : c.link[a]? with
  | none => (a, c)
  | some p =>
    match h' : c.link[p]? with
    | none => (p, c)
    | some q =>
      have hp := c.link_lt a p h
      have hq := c.link_lt p q h'
      have := NodeId.lt_iff.1 hp
      (c.relink a q (Nat.lt_trans hq hp)).find p
termination_by a.toNat

/-- A look-up in the course of other work. -/
def lookUp (a : NodeId) : StateM Partition NodeId := modifyGet (·.find a)

/-- Makes the classes of two nodes one, and says whether they were apart (`merge`). A node and
itself need no look-up. -/
def merge (c : Partition) (a b : NodeId) : Bool × Partition :=
  if a = b then (false, c)
  else
    let atA := c.find a
    let atB := atA.2.find b
    if h : atA.1 < atB.1 then (true, atB.2.relink atB.1 atA.1 h)
    else if h : atB.1 < atA.1 then (true, atB.2.relink atA.1 atB.1 h)
    else (false, atB.2)

/-! ## Roots -/

theorem root_of_link_eq_none {c : Partition} {a : NodeId} (h : c.link[a]? = none) :
    c.root a = a := by
  rw [root]
  split
  · rfl
  · rename_i h'
    rw [h] at h'
    cases h'

theorem root_of_link_eq_some {c : Partition} {a p : NodeId} (h : c.link[a]? = some p) :
    c.root a = c.root p := by
  rw [root]
  split
  · rename_i h'
    rw [h] at h'
    cases h'
  · rename_i h'
    rw [h] at h'
    obtain rfl := Option.some.inj h'
    rfl

/-- A root has no link. -/
theorem link_root (c : Partition) (a : NodeId) : c.link[c.root a]? = none := by
  induction hn : a.toNat using Nat.strongRecOn generalizing a with
  | _ n ih =>
  cases h : c.link[a]? with
  | none => rw [root_of_link_eq_none h, h]
  | some p =>
    rw [root_of_link_eq_some h]
    exact ih _ (hn ▸ c.link_lt a p h) p rfl

theorem root_root (c : Partition) (a : NodeId) : c.root (c.root a) = c.root a :=
  root_of_link_eq_none (c.link_root a)

/-- The root is the least node of the way to it. -/
theorem root_le (c : Partition) (a : NodeId) : c.root a ≤ a := by
  induction hn : a.toNat using Nat.strongRecOn generalizing a with
  | _ n ih =>
  cases h : c.link[a]? with
  | none => rw [root_of_link_eq_none h]; exact Nat.le_refl _
  | some p =>
    rw [root_of_link_eq_some h]
    exact Nat.le_trans (ih _ (hn ▸ c.link_lt a p h) p rfl) (Nat.le_of_lt (c.link_lt a p h))

@[simp] theorem root_discrete (a : NodeId) : discrete.root a = a :=
  root_of_link_eq_none (by simp [discrete])

theorem link_relink (c : Partition) (a p x : NodeId) (h : p < a) :
    (c.relink a p h).link[x]? = if a = x then some p else c.link[x]? := by
  simp [relink, Std.ExtTreeMap.getElem?_insert]

/-- A link within a class changes no root. -/
theorem root_relink_of_root_eq {c : Partition} {a q : NodeId} (h : q < a)
    (hq : c.root q = c.root a) (x : NodeId) :
    (c.relink a q h).root x = c.root x := by
  induction hn : x.toNat using Nat.strongRecOn generalizing x with
  | _ n ih =>
  by_cases hax : a = x
  · subst hax
    rw [root_of_link_eq_some (c.link_relink a q a h ▸ if_pos rfl), ih _ (hn ▸ h) q rfl, hq]
  · have hl : (c.relink a q h).link[x]? = c.link[x]? := by rw [link_relink, if_neg hax]
    cases hx : c.link[x]? with
    | none => rw [root_of_link_eq_none hx, root_of_link_eq_none (hl ▸ hx)]
    | some y =>
      rw [root_of_link_eq_some hx, root_of_link_eq_some (hl ▸ hx)]
      exact ih _ (hn ▸ c.link_lt x y hx) y rfl

/-- A link from one root to another moves the class of the first. -/
theorem root_relink_of_root {c : Partition} {a q : NodeId} (h : q < a) (ha : c.link[a]? = none)
    (hq : c.link[q]? = none) (x : NodeId) :
    (c.relink a q h).root x = if c.root x = a then q else c.root x := by
  induction hn : x.toNat using Nat.strongRecOn generalizing x with
  | _ n ih =>
  by_cases hax : a = x
  · subst hax
    have hqa : ¬ c.root q = a := by
      rw [root_of_link_eq_none hq]
      rintro rfl
      exact Nat.lt_irrefl _ h
    rw [root_of_link_eq_some (c.link_relink a q a h ▸ if_pos rfl), ih _ (hn ▸ h) q rfl, if_neg hqa,
      root_of_link_eq_none hq, root_of_link_eq_none ha, if_pos rfl]
  · have hl : (c.relink a q h).link[x]? = c.link[x]? := by rw [link_relink, if_neg hax]
    cases hx : c.link[x]? with
    | none =>
      rw [root_of_link_eq_none hx, root_of_link_eq_none (hl ▸ hx), if_neg (Ne.symm hax)]
    | some y =>
      rw [root_of_link_eq_some hx, root_of_link_eq_some (hl ▸ hx)]
      exact ih _ (hn ▸ c.link_lt x y hx) y rfl

/-! ## Look-ups -/

/-- **A look-up** gives the root and changes none. -/
theorem find_eq (c : Partition) (a : NodeId) :
    (c.find a).1 = c.root a ∧ ∀ x, (c.find a).2.root x = c.root x := by
  induction hn : a.toNat using Nat.strongRecOn generalizing a c with
  | _ n ih =>
  rw [find]
  split
  · rename_i h
    exact ⟨(root_of_link_eq_none h).symm, fun _ => rfl⟩
  · rename_i p h
    split
    · rename_i h'
      rw [root_of_link_eq_some h, root_of_link_eq_none h']
      exact ⟨rfl, fun _ => rfl⟩
    · rename_i q h'
      have hq : c.root q = c.root a := by rw [root_of_link_eq_some h, root_of_link_eq_some h']
      have hlt : q < a := Nat.lt_trans (c.link_lt p q h') (c.link_lt a p h)
      have hroot := root_relink_of_root_eq hlt hq
      have step := ih _ (hn ▸ c.link_lt a p h) (c.relink a q hlt) p rfl
      exact ⟨by rw [step.1, hroot, root_of_link_eq_some h], fun x => by rw [step.2, hroot]⟩

theorem find_root (c : Partition) (a : NodeId) : (c.find a).1 = c.root a := (c.find_eq a).1

theorem root_find (c : Partition) (a x : NodeId) : (c.find a).2.root x = c.root x :=
  (c.find_eq a).2 x

/-! ## Work that looks nodes up -/

/-- Work on a partition that gives what the roots make of it, and changes none of them. -/
structure LooksUp {α : Type} (t : StateM Partition α) (v : (NodeId → NodeId) → α) : Prop where
  value : ∀ c : Partition, (t.run c).1 = v c.root
  root : ∀ c : Partition, (t.run c).2.root = c.root

section LooksUp

variable {α β : Type} {t : StateM Partition α} {v : (NodeId → NodeId) → α}

theorem looksUp_pure (a : α) : LooksUp (pure a) fun _ => a := ⟨fun _ => rfl, fun _ => rfl⟩

theorem looksUp_lookUp (a : NodeId) : LooksUp (lookUp a) fun root => root a :=
  ⟨fun c => find_root c a, fun c => funext (root_find c a)⟩

theorem LooksUp.bind {f : α → StateM Partition β} {w : α → (NodeId → NodeId) → β}
    (ht : LooksUp t v) (hf : ∀ a, LooksUp (f a) (w a)) :
    LooksUp (t >>= f) fun root => w (v root) root where
  value c := by
    show ((f (t.run c).1).run (t.run c).2).1 = _
    rw [(hf _).value, ht.root, ht.value]
  root c := by
    show ((f (t.run c).1).run (t.run c).2).2.root = _
    rw [(hf _).root, ht.root]

/-- **A loop of look-ups** gives the roots, however the links move on the way. -/
theorem LooksUp.mapM {f : α → StateM Partition β} {g : α → (NodeId → NodeId) → β}
    (h : ∀ a, LooksUp (f a) (g a)) : ∀ l : List α,
      LooksUp (l.mapM f) fun root => l.map fun a => g a root
  | [] => by
    rw [List.mapM_nil]
    exact looksUp_pure []
  | a :: l => by
    rw [List.mapM_cons]
    exact (h a).bind fun b => (LooksUp.mapM h l).bind fun bs => looksUp_pure (b :: bs)

end LooksUp

/-! ## Merges -/

theorem merge_fst (c : Partition) (a b : NodeId) :
    (c.merge a b).1 = true ↔ c.root a ≠ c.root b := by
  unfold merge
  simp only [find_root, root_find]
  split
  · rename_i hab
    simp [hab]
  split
  · rename_i h
    simp only [true_iff]
    intro he
    rw [he] at h
    exact Nat.lt_irrefl _ h
  · split
    · rename_i h
      simp only [true_iff]
      intro he
      rw [he] at h
      exact Nat.lt_irrefl _ h
    · rename_i h h'
      have heq : c.root a = c.root b :=
        NodeId.ext (Nat.le_antisymm (Nat.not_lt.1 h') (Nat.not_lt.1 h))
      simp [heq]

/-- **A merge** gives the nodes of both classes the lesser root. -/
theorem root_merge (c : Partition) (a b x : NodeId) :
    (c.merge a b).2.root x =
      if c.root x = c.root a ∨ c.root x = c.root b then
        (if c.root a < c.root b then c.root a else c.root b)
      else c.root x := by
  have hroots : ∀ y, ((c.find a).2.find b).2.root y = c.root y := fun y => by
    rw [root_find, root_find]
  have hlinks : ∀ y, ((c.find a).2.find b).2.link[c.root y]? = none := fun y => by
    rw [← hroots y]
    exact link_root _ _
  unfold merge
  simp only [find_root, root_find]
  split
  · rename_i hab
    subst hab
    grind
  split
  · rename_i h
    rw [root_relink_of_root h (hlinks b) (hlinks a), hroots]
    grind
  · split
    · rename_i h h'
      rw [root_relink_of_root h' (hlinks a) (hlinks b), hroots]
      grind
    · rename_i h h'
      have heq : c.root a = c.root b :=
        NodeId.ext (Nat.le_antisymm (Nat.not_lt.1 h') (Nat.not_lt.1 h))
      rw [hroots]
      grind

end Partition

end Aliasing
