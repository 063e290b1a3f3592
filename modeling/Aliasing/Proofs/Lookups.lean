import Mathlib.Data.List.Induction
import Aliasing.Proofs.Classes
/-!
# Look-ups and merges in any order

A partition begins with every node alone and is used by calls, each a look-up or a merge. A look-up
moves links too, so what is to be known of a partition is known of it after any calls, and a look-up
is followed round by round, on links of which nothing is known beforehand.

Main statements: `Round.descends` and `acc_round`, as long as links lead to lesser nodes each round
keeps them so, and the rounds come to an end; `exists_rounds_find`, a look-up is what its rounds
make of the links; `joins_after`, the classes after any calls are generated by the pairs that were
merged; `answers_congr`, only the roots have a say in later answers; `represents_after`, all of it
together.
-/

namespace Aliasing.Partition

/-! ## The rounds of a look-up -/

abbrev Links := Std.ExtTreeMap NodeId NodeId

/-- One round: the node of the look-up is linked to the node after the next, and the look-up goes on
at the next one. There is no round where one of the two is missing. -/
inductive Round : Links × NodeId → Links × NodeId → Prop where
  | mk {m : Links} {a p q : NodeId} (hp : m[a]? = some p) (hq : m[p]? = some q) :
    Round (m, a) (m.insert a q, p)

def Descends (m : Links) : Prop := ∀ a p : NodeId, m[a]? = some p → p < a

variable {m : Links} {a b p q : NodeId} {s t : Links × NodeId}

/-- A link, the next one and the two nodes that they lead to are of three nodes. -/
theorem Descends.distinct (h : Descends m) (hp : m[a]? = some p) (hq : m[p]? = some q) :
    a ≠ p ∧ a ≠ q ∧ p ≠ q := by
  have hpa := NodeId.lt_iff.1 (h a p hp)
  have hqp := NodeId.lt_iff.1 (h p q hq)
  refine ⟨?_, ?_, ?_⟩ <;> rintro rfl <;> omega

/-- **A round** leaves links that lead to lesser nodes, if it found such. -/
theorem Round.descends (h : Round s t) (hs : Descends s.1) : Descends t.1 := by
  obtain ⟨hp, hq⟩ := h
  rename_i m a p q
  intro x y hxy
  rw [Std.ExtTreeMap.getElem?_insert] at hxy
  split at hxy
  · rename_i hax
    obtain rfl := Std.LawfulEqOrd.eq_of_compare hax
    obtain rfl := Option.some.inj hxy
    exact Nat.lt_trans (hs p q hq) (hs a p hp)
  · exact hs x y hxy

theorem descends_of_rounds (h : Relation.ReflTransGen Round s t) (hs : Descends s.1) :
    Descends t.1 := by
  induction h with
  | refl => exact hs
  | tail _ hround ih => exact hround.descends ih

/-- **Rounds come to an end** when links lead to lesser nodes. -/
theorem acc_round (hm : Descends m) (a : NodeId) : Acc (fun t s => Round s t) (m, a) := by
  induction hn : a.toNat using Nat.strongRecOn generalizing m a with
  | _ n ih =>
  refine .intro _ fun t ht => ?_
  cases ht with
  | mk hp hq => exact ih _ (hn ▸ hm _ _ hp) ((Round.mk hp hq).descends hm) _ rfl

/-- **A look-up is what its rounds make of the links.** Where no round is left, the answer is the
node that the last one is linked to, or the last one itself. -/
theorem exists_rounds_find (c : Partition) (a : NodeId) :
    ∃ b, Relation.ReflTransGen Round (c.link, a) ((c.find a).2.link, b) ∧
      (∀ s, ¬ Round ((c.find a).2.link, b) s) ∧
        (c.find a).1 = (c.find a).2.link[b]?.getD b := by
  induction hn : a.toNat using Nat.strongRecOn generalizing a c with
  | _ n ih =>
  rw [find]
  split
  · rename_i h
    refine ⟨a, .refl, ?_, by rw [h, Option.getD_none]⟩
    rintro _ ⟨hp, -⟩
    rw [h] at hp
    cases hp
  · rename_i p h
    split
    · rename_i h'
      refine ⟨a, .refl, ?_, by rw [h, Option.getD_some]⟩
      rintro _ ⟨hp, hq⟩
      obtain rfl := Option.some.inj (h.symm.trans hp)
      rw [h'] at hq
      cases hq
    · rename_i q h'
      have hlt : q < a := Nat.lt_trans (c.link_lt p q h') (c.link_lt a p h)
      obtain ⟨b, hrounds, hend, hanswer⟩ := ih _ (hn ▸ c.link_lt a p h) (c.relink a q hlt) p rfl
      exact ⟨b, .head (.mk h h') hrounds, hend, hanswer⟩

/-! ## Calls -/

inductive Call where
  | find (a : NodeId)
  | merge (a b : NodeId)

inductive Answer where
  | root (a : NodeId)
  | wereApart (yes : Bool)

def call (c : Partition) : Call → Answer × Partition
  | .find a => (.root (c.find a).1, (c.find a).2)
  | .merge a b => (.wereApart (c.merge a b).1, (c.merge a b).2)

def after (c : Partition) (calls : List Call) : Partition :=
  calls.foldl (fun c k => (c.call k).2) c

def answers (c : Partition) : List Call → List Answer
  | [] => []
  | k :: calls => (c.call k).1 :: (c.call k).2.answers calls

def Merged (calls : List Call) (a b : NodeId) : Prop := .merge a b ∈ calls

variable {c d : Partition} {R : NodeId → NodeId → Prop}

theorem after_concat (c : Partition) (calls : List Call) (k : Call) :
    c.after (calls ++ [k]) = ((c.after calls).call k).2 := by
  simp [after]

theorem Joins.find (h : c.Joins R) (a : NodeId) : (c.find a).2.Joins R := by
  intro x y
  rw [root_find, root_find, h x y]

theorem merged_concat_find {calls : List Call} {x y : NodeId} :
    Merged (calls ++ [.find a]) x y ↔ Merged calls x y := by
  simp [Merged]

theorem merged_concat_merge {calls : List Call} {x y : NodeId} :
    Merged (calls ++ [.merge a b]) x y ↔ Merged calls x y ∨ (x = a ∧ y = b) := by
  simp [Merged]

/-- **The classes after any calls** are generated by the pairs that were merged. -/
theorem joins_after (calls : List Call) : (discrete.after calls).Joins (Merged calls) := by
  induction calls using List.reverseRecOn with
  | nil =>
    refine joins_discrete.congr (fun x y h => h.elim) fun x y h => ?_
    simp [Merged] at h
  | append_singleton calls k ih =>
    rw [after_concat]
    cases k with
    | find a =>
      refine (ih.find a).congr (fun x y h => ?_) fun x y h => ?_
      · exact .rel _ _ (merged_concat_find.2 h)
      · exact .rel _ _ (merged_concat_find.1 h)
    | merge a b =>
      refine (ih.merge a b).congr (fun x y h => ?_) fun x y h => ?_
      · exact .rel _ _ (merged_concat_merge.2 h)
      · exact .rel _ _ (merged_concat_merge.1 h)

/-- A node that was merged with no other one is a class of its own. -/
theorem eq_of_eqvGen_merged {calls : List Call}
    (h : ∀ b, b ≠ a → ¬ Merged calls a b ∧ ¬ Merged calls b a)
    (hab : Relation.EqvGen (Merged calls) a b) : b = a := by
  have heq : (a = a) = (b = a) := by
    refine eq_of_eqvGen (f := fun x => x = a) (fun x y hxy => propext ⟨?_, ?_⟩) hab
    · rintro rfl
      exact Decidable.byContradiction fun hy => (h y hy).1 hxy
    · rintro rfl
      exact Decidable.byContradiction fun hx => (h x hx).2 hxy
  exact heq ▸ rfl

/-! ## Later answers -/

/-- Partitions with the same roots answer a call alike and have the same roots after it. -/
theorem call_congr (h : ∀ x, c.root x = d.root x) (k : Call) :
    (c.call k).1 = (d.call k).1 ∧ ∀ x, (c.call k).2.root x = (d.call k).2.root x := by
  cases k with
  | find a =>
    simp only [call, find_root, root_find, h, implies_true, and_self]
  | merge a b =>
    have happart : (c.merge a b).1 = (d.merge a b).1 := by
      rw [Bool.eq_iff_iff, merge_fst, merge_fst, h, h]
    simp only [call, happart, root_merge, h, implies_true, and_self]

/-- **Only the roots** have a say in the answers to come. -/
theorem answers_congr (h : ∀ x, c.root x = d.root x) (calls : List Call) :
    c.answers calls = d.answers calls := by
  induction calls generalizing c d with
  | nil => rfl
  | cons k calls ih =>
    obtain ⟨hanswer, hroots⟩ := call_congr h k
    rw [answers, answers, hanswer, ih hroots]

/-! ## What calls leave and answer -/

/-- A partition holds the classes that the merged pairs of the calls generate, and its calls answer
accordingly. -/
structure Represents (calls : List Call) (c : Partition) : Prop where
  /-- A link leads to a lesser node of the class. -/
  link : ∀ a p : NodeId, c.link[a]? = some p → p < a ∧ Relation.EqvGen (Merged calls) a p
  /-- In the middle of a look-up links still lead to lesser nodes, and a round has three nodes. -/
  distinct : ∀ (a : NodeId) (m : Links) (b : NodeId),
    Relation.ReflTransGen Round (c.link, a) (m, b) → Descends m ∧
      ∀ p q : NodeId, m[b]? = some p → m[p]? = some q → b ≠ p ∧ b ≠ q ∧ p ≠ q
  /-- No look-up goes on for ever. -/
  ends : ∀ a : NodeId, Acc (fun t s => Round s t) (c.link, a)
  rounds : ∀ a : NodeId, ∃ b, Relation.ReflTransGen Round (c.link, a) ((c.find a).2.link, b) ∧
    (∀ s, ¬ Round ((c.find a).2.link, b) s) ∧ (c.find a).1 = (c.find a).2.link[b]?.getD b
  /-- A look-up answers with the least node of the class. -/
  isLeast_find : ∀ a, IsLeast {b | Relation.EqvGen (Merged calls) a b} (c.find a).1
  find_alone : ∀ a, (∀ b, b ≠ a → ¬ Merged calls a b ∧ ¬ Merged calls b a) → (c.find a).1 = a
  /-- A look-up leaves the same nodes together. -/
  find_eq_iff : ∀ a x y, ((c.find a).2.find x).1 = ((c.find a).2.find y).1 ↔
    (c.find x).1 = (c.find y).1
  /-- A look-up changes no later answer. -/
  answers_find : ∀ (a : NodeId) (later : List Call), (c.find a).2.answers later = c.answers later
  /-- A merge says whether the nodes were apart. -/
  merge_iff : ∀ a b, (c.merge a b).1 = true ↔ ¬ Relation.EqvGen (Merged calls) a b

/-- **Union and look-up are right after any calls**, in whatever order they are made. -/
theorem represents_after (calls : List Call) : Represents calls (discrete.after calls) := by
  have hjoins := joins_after calls
  have hleast : ∀ a, IsLeast {b | Relation.EqvGen (Merged calls) a b}
      ((discrete.after calls).find a).1 := fun a => by
    rw [find_root]
    exact hjoins.isLeast_root a
  generalize discrete.after calls = c at hjoins hleast ⊢
  exact {
    link := fun a p hp => ⟨c.link_lt a p hp, (hjoins a p).1 (root_of_link_eq_some hp)⟩
    distinct := fun a m b h => by
      have hdescends : Descends m := descends_of_rounds h c.link_lt
      exact ⟨hdescends, fun p q hp hq => hdescends.distinct hp hq⟩
    ends := acc_round c.link_lt
    rounds := exists_rounds_find c
    isLeast_find := hleast
    find_alone := fun a h => eq_of_eqvGen_merged h (hleast a).1
    find_eq_iff := fun a x y => by simp only [find_root, root_find]
    answers_find := fun a later => answers_congr (fun x => root_find c a x) later
    merge_iff := fun a b => by rw [merge_fst, ne_eq, hjoins a b] }

end Aliasing.Partition
