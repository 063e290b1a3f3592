import Aliasing.Relation.Basic
/-!
# Facts of a relation

A relation holds facts of four kinds: a name is known, it may point to a node, a node is kept, and a
node has a name. The first two make up one direction, the other two the other, and together they
determine the relation, so an operation is described by what it does to each of them.

Main statements: `ext_facts`, relations with the same facts are equal; `pointsTo_ofRecords` and
`named_ofRecords`, what records say of names and nodes; `mem_aliasGroups_iff`, the groups are the
sets of names with two or more.
-/

namespace Aliasing

namespace Multimap

variable {κ α β : Type} [Ord κ] [Std.TransOrd κ] [Ord α]

theorem mem_of_mem_entry [Std.TransOrd α] {m : Multimap κ α} {k : κ} {a : α}
    (h : a ∈ m.entry k) : k ∈ m := by
  refine Std.ExtTreeMap.mem_iff_isSome_getElem?.2 ?_
  unfold entry at h
  cases hk : m[k]? with
  | none => simp [hk] at h
  | some xs => rfl

theorem entry_of_getElem? {m : Multimap κ α} {k : κ} {xs : Std.ExtTreeSet α}
    (h : m[k]? = some xs) : m.entry k = xs := by
  simp [entry, h]

theorem getElem?_eq_some_iff_entry {m : Multimap κ α} {k : κ} {xs : Std.ExtTreeSet α} :
    m[k]? = some xs ↔ k ∈ m ∧ m.entry k = xs := by
  rw [Std.ExtTreeMap.mem_iff_isSome_getElem?, entry]
  cases m[k]? <;> simp

theorem getElem?_eq_some_iff_mem [Std.TransOrd α] [Std.LawfulEqOrd α] {m : Multimap κ α} {k : κ}
    {xs : Std.ExtTreeSet α} : m[k]? = some xs ↔ k ∈ m ∧ ∀ a, a ∈ m.entry k ↔ a ∈ xs := by
  rw [getElem?_eq_some_iff_entry]
  exact and_congr_right' ⟨fun h a => h ▸ Iff.rfl, Std.ExtTreeSet.ext_mem⟩

variable [Std.TransOrd α]

/-- Multimaps with the same keys and the same elements are equal. -/
theorem ext_entry [Std.LawfulEqOrd κ] [Std.LawfulEqOrd α] {m m' : Multimap κ α}
    (hk : ∀ k, k ∈ m ↔ k ∈ m') (he : ∀ k a, a ∈ m.entry k ↔ a ∈ m'.entry k) : m = m' := by
  refine Std.ExtTreeMap.ext_getElem? fun k => Option.ext fun xs => ?_
  rw [getElem?_eq_some_iff_mem, getElem?_eq_some_iff_mem, hk]
  simp only [he]

section
variable [DecidableEq κ] [Std.LawfulEqOrd κ]

theorem mem_add {m : Multimap κ α} {k k' : κ} {xs : Std.ExtTreeSet α} :
    k' ∈ m.add k xs ↔ k' ∈ m ∨ k = k' := by
  rw [Std.ExtTreeMap.mem_iff_isSome_getElem?, Std.ExtTreeMap.mem_iff_isSome_getElem?, getElem?_add]
  by_cases h : k = k' <;> simp [h]

theorem mem_entry_add {m : Multimap κ α} {k k' : κ} {xs : Std.ExtTreeSet α} {a : α} :
    a ∈ (m.add k xs).entry k' ↔ a ∈ m.entry k' ∨ (k = k' ∧ a ∈ xs) := by
  rw [entry, getElem?_add]
  by_cases h : k = k'
  · subst h
    simp [Std.ExtTreeSet.mem_union_iff]
  · simp [h, entry]

/-- The keys after many additions, those that were there and those that were added to. -/
theorem mem_foldl_add {f : β → κ} {g : β → Std.ExtTreeSet α} {k : κ} :
    ∀ {l : List β} {m : Multimap κ α},
      k ∈ l.foldl (fun m e => m.add (f e) (g e)) m ↔ k ∈ m ∨ ∃ e ∈ l, f e = k
  | [], m => by simp
  | e :: l, m => by
    rw [List.foldl_cons, mem_foldl_add, mem_add]
    simp only [List.mem_cons, exists_eq_or_imp, or_assoc]

/-- The elements after many additions. -/
theorem mem_entry_foldl_add {f : β → κ} {g : β → Std.ExtTreeSet α} {k : κ} {a : α} :
    ∀ {l : List β} {m : Multimap κ α},
      a ∈ (l.foldl (fun m e => m.add (f e) (g e)) m).entry k ↔
        a ∈ m.entry k ∨ ∃ e ∈ l, f e = k ∧ a ∈ g e
  | [], m => by simp
  | e :: l, m => by
    rw [List.foldl_cons, mem_entry_foldl_add, mem_entry_add]
    simp only [List.mem_cons, exists_eq_or_imp, or_assoc]

end

end Multimap

namespace Relation

def PointsTo (r : Relation) (x : Name) (n : NodeId) : Prop := n ∈ Multimap.entry r.nodesOf x

def Named (r : Relation) (n : NodeId) (x : Name) : Prop := x ∈ Multimap.entry r.namesOf n

theorem known_of_pointsTo {r : Relation} {x : Name} {n : NodeId} (h : r.PointsTo x n) :
    x ∈ r.nodesOf := Multimap.mem_of_mem_entry h

theorem kept_of_named {r : Relation} {n : NodeId} {x : Name} (h : r.Named n x) :
    n ∈ r.namesOf := Multimap.mem_of_mem_entry h

/-- **Facts determine the relation.** -/
theorem ext_facts {r s : Relation} (hknown : ∀ x, x ∈ r.nodesOf ↔ x ∈ s.nodesOf)
    (hpoints : ∀ x n, r.PointsTo x n ↔ s.PointsTo x n)
    (hkept : ∀ n, n ∈ r.namesOf ↔ n ∈ s.namesOf) (hnamed : ∀ n x, r.Named n x ↔ s.Named n x) :
    r = s :=
  Relation.ext (Multimap.ext_entry hknown hpoints) (Multimap.ext_entry hkept hnamed)

/-! ## Nothing at first -/

theorem not_known_empty (x : Name) : ¬ x ∈ (∅ : Relation).nodesOf := Std.ExtTreeMap.not_mem_empty

theorem not_kept_empty (n : NodeId) : ¬ n ∈ (∅ : Relation).namesOf := Std.ExtTreeMap.not_mem_empty

theorem not_pointsTo_empty (x : Name) (n : NodeId) : ¬ (∅ : Relation).PointsTo x n :=
  fun h => not_known_empty x (known_of_pointsTo h)

theorem not_named_empty (n : NodeId) (x : Name) : ¬ (∅ : Relation).Named n x :=
  fun h => not_kept_empty n (kept_of_named h)

/-! ## Insertions -/

theorem known_insert {r : Relation} {x y : Name} {ns : NodeSet} :
    y ∈ (r.insert x ns).nodesOf ↔ y ∈ r.nodesOf ∨ x = y := Multimap.mem_add

theorem pointsTo_insert {r : Relation} {x y : Name} {ns : NodeSet} {n : NodeId} :
    (r.insert x ns).PointsTo y n ↔ r.PointsTo y n ∨ (x = y ∧ n ∈ ns) := Multimap.mem_entry_add

theorem kept_insert {r : Relation} {x : Name} {ns : NodeSet} {n : NodeId} :
    n ∈ (r.insert x ns).namesOf ↔ n ∈ r.namesOf ∨ n ∈ ns := by
  unfold insert
  rw [Multimap.mem_foldl_add]
  simp

theorem named_insert {r : Relation} {x y : Name} {ns : NodeSet} {n : NodeId} :
    (r.insert x ns).Named n y ↔ r.Named n y ∨ (x = y ∧ n ∈ ns) := by
  unfold Named insert
  rw [Multimap.mem_entry_foldl_add]
  refine or_congr_right ⟨?_, ?_⟩
  · rintro ⟨m, hm, rfl, hy⟩
    exact ⟨by simpa using hy, Std.ExtTreeSet.mem_toList.1 hm⟩
  · rintro ⟨rfl, hn⟩
    exact ⟨n, Std.ExtTreeSet.mem_toList.2 hn, rfl, by simp⟩

/-- Many insertions are one after the other. -/
theorem insertAll_cons (r : Relation) (rec : Record) (records : List Record) :
    r.insertAll (rec :: records) = (r.insert rec.name rec.nodes).insertAll records := rfl

end Relation

/-- The records together say that a name may point to a node. -/
def Said (records : List Record) (x : Name) (n : NodeId) : Prop :=
  ∃ rec ∈ records, rec.name = x ∧ n ∈ rec.nodes

namespace Relation

theorem known_insertAll {x : Name} : ∀ {records : List Record} {r : Relation},
    x ∈ (r.insertAll records).nodesOf ↔ x ∈ r.nodesOf ∨ ∃ rec ∈ records, rec.name = x
  | [], r => by simp [insertAll]
  | rec :: records, r => by
    rw [insertAll_cons, known_insertAll, known_insert]
    simp only [List.mem_cons, exists_eq_or_imp, or_assoc]

theorem pointsTo_insertAll {x : Name} {n : NodeId} : ∀ {records : List Record} {r : Relation},
    (r.insertAll records).PointsTo x n ↔ r.PointsTo x n ∨ Said records x n
  | [], r => by simp [insertAll, Said]
  | rec :: records, r => by
    rw [insertAll_cons, pointsTo_insertAll, pointsTo_insert]
    simp only [Said, List.mem_cons, exists_eq_or_imp, or_assoc]

theorem kept_insertAll {n : NodeId} : ∀ {records : List Record} {r : Relation},
    n ∈ (r.insertAll records).namesOf ↔ n ∈ r.namesOf ∨ ∃ x, Said records x n
  | [], r => by simp [insertAll, Said]
  | rec :: records, r => by
    rw [insertAll_cons, kept_insertAll, kept_insert, or_assoc]
    simp [Said, exists_or]

theorem named_insertAll {x : Name} {n : NodeId} : ∀ {records : List Record} {r : Relation},
    (r.insertAll records).Named n x ↔ r.Named n x ∨ Said records x n
  | [], r => by simp [insertAll, Said]
  | rec :: records, r => by
    rw [insertAll_cons, named_insertAll, named_insert]
    simp only [Said, List.mem_cons, exists_eq_or_imp, or_assoc]

theorem known_ofRecords {records : List Record} {x : Name} :
    x ∈ (ofRecords records).nodesOf ↔ ∃ rec ∈ records, rec.name = x := by
  rw [ofRecords, known_insertAll, or_iff_right (not_known_empty x)]

theorem pointsTo_ofRecords {records : List Record} {x : Name} {n : NodeId} :
    (ofRecords records).PointsTo x n ↔ Said records x n := by
  rw [ofRecords, pointsTo_insertAll, or_iff_right (not_pointsTo_empty x n)]

theorem kept_ofRecords {records : List Record} {n : NodeId} :
    n ∈ (ofRecords records).namesOf ↔ ∃ x, Said records x n := by
  rw [ofRecords, kept_insertAll, or_iff_right (not_kept_empty n)]

theorem named_ofRecords {records : List Record} {x : Name} {n : NodeId} :
    (ofRecords records).Named n x ↔ Said records x n := by
  rw [ofRecords, named_insertAll, or_iff_right (not_named_empty n x)]

end Relation

/-! ## Groups -/

/-- A set has more than one element when two of them differ. -/
theorem one_lt_size_iff {α : Type} [Ord α] [Std.TransOrd α] [Std.LawfulEqOrd α]
    {xs : Std.ExtTreeSet α} : 1 < xs.size ↔ ∃ a ∈ xs, ∃ b ∈ xs, a ≠ b := by
  have hdistinct := Std.ExtTreeSet.distinct_toList (t := xs)
  simp only [← Std.ExtTreeSet.mem_toList, ← Std.ExtTreeSet.length_toList]
  match hl : xs.toList with
  | [] => simp
  | [a] => simp
  | a :: b :: rest =>
    rw [hl, List.pairwise_cons] at hdistinct
    have hne : a ≠ b := by
      rintro rfl
      exact hdistinct.1 a (by simp) Std.ReflCmp.compare_self
    simp only [List.length_cons, Nat.lt_add_left_iff_pos, Nat.zero_lt_succ, true_iff]
    exact ⟨a, by simp, b, by simp, hne⟩

/-- What is picked from a list in the order of its keys stands in that order. -/
theorem pairwise_filterMap_of_key {α β κ : Type} {R : κ → κ → Prop} {f : α → Option β}
    {k : α → κ} {key : β → κ} {l : List α} (hl : l.Pairwise fun a a' => R (k a) (k a'))
    (hf : ∀ a b, f a = some b → key b = k a) :
    (l.filterMap f).Pairwise fun b b' => R (key b) (key b') := by
  refine List.Pairwise.filterMap f ?_ hl
  intro a a' hR b hb b' hb'
  rwa [hf a b hb, hf a' b' hb']

namespace Relation

theorem mem_aliasGroups_iff {r : Relation} {g : AliasGroup} :
    g ∈ r.aliasGroups ↔ r.namesOf[g.primary]? = some g.members ∧ 1 < g.members.size := by
  obtain ⟨p, xs⟩ := g
  simp only [aliasGroups, List.mem_filterMap, Prod.exists,
    Std.ExtTreeMap.mem_toList_iff_getElem?_eq_some]
  constructor
  · rintro ⟨n, ys, hn, hys⟩
    split at hys
    · cases hys
      exact ⟨hn, by assumption⟩
    · cases hys
  · rintro ⟨hp, hsize⟩
    exact ⟨p, xs, hp, if_pos hsize⟩

/-- A group is a key with its names, when there are two of them. -/
theorem mem_aliasGroups_iff_named {r : Relation} {g : AliasGroup} :
    g ∈ r.aliasGroups ↔ g.primary ∈ r.namesOf ∧ (∀ x, r.Named g.primary x ↔ x ∈ g.members) ∧
      ∃ x ∈ g.members, ∃ y ∈ g.members, x ≠ y := by
  rw [mem_aliasGroups_iff, Multimap.getElem?_eq_some_iff_mem, one_lt_size_iff, and_assoc]
  rfl

/-- Groups stand in the order of their primary nodes. -/
theorem pairwise_aliasGroups (r : Relation) :
    r.aliasGroups.Pairwise fun g h => g.primary < h.primary := by
  have hkeys := (Std.ExtTreeMap.ordered_keys_toList (t := r.namesOf)).imp NodeId.compare_eq_lt.1
  refine pairwise_filterMap_of_key hkeys fun e g he => ?_
  split at he
  · cases he; rfl
  · cases he

end Relation

end Aliasing
