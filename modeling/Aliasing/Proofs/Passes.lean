import Aliasing.Proofs.Classes
/-!
# What a reduction does to the facts

A snapshot pass replaces every node by the root of its class. An in-place pass lets names flow: each
set in turn carries the names of its nodes to its primary node, and at the end the other nodes go. A
reduction is one pass over the relation, whichever the way, since a pass leaves no set to collapse
and changes nothing when there is none.

Main statements: `named_snapshot`, `named_inPlace`, `value_reduce`.
-/

namespace Aliasing

namespace Multimap

variable {κ α : Type} [Ord κ] [Std.TransOrd κ] [Std.LawfulEqOrd κ] [Ord α]

/-- The items of a map are its keys with their sets. -/
theorem exists_mem_toList {m : Multimap κ α} {P : κ → Std.ExtTreeSet α → Prop} :
    (∃ e ∈ m.toList, P e.1 e.2) ↔ ∃ k ∈ m, P k (m.entry k) := by
  simp only [Prod.exists, Std.ExtTreeMap.mem_toList_iff_getElem?_eq_some,
    getElem?_eq_some_iff_entry]
  constructor
  · rintro ⟨k, xs, ⟨hk, rfl⟩, hP⟩
    exact ⟨k, hk, hP⟩
  · rintro ⟨k, hk, hP⟩
    exact ⟨k, _, ⟨hk, rfl⟩, hP⟩

theorem mem_foldl_erase {k : κ} : ∀ {ks : List κ} {m : Multimap κ α},
    k ∈ ks.foldl (fun m k => m.erase k) m ↔ k ∈ m ∧ k ∉ ks
  | [], m => by simp
  | j :: ks, m => by
    rw [List.foldl_cons, mem_foldl_erase, Std.ExtTreeMap.mem_erase]
    grind

theorem mem_entry_foldl_erase [Std.TransOrd α] [DecidableEq κ] {k : κ} {a : α} :
    ∀ {ks : List κ} {m : Multimap κ α},
      a ∈ (ks.foldl (fun m k => m.erase k) m : Multimap κ α).entry k ↔ a ∈ m.entry k ∧ k ∉ ks
  | [], m => by simp
  | j :: ks, m => by
    rw [List.foldl_cons, mem_entry_foldl_erase, List.mem_cons, entry, Std.ExtTreeMap.getElem?_erase]
    by_cases h : j = k
    · simp [h]
    · simp [h, Ne.symm h, entry]

end Multimap

namespace NodeSet

theorem mem_of_mem_narrow {ns : NodeSet} {n : NodeId} (h : n ∈ ns.narrow) : n ∈ ns := by
  unfold narrow at h
  split at h
  · rename_i p q rest hl
    obtain rfl : p = n := by simpa using h
    exact Std.ExtTreeSet.mem_toList.1 (by simp [hl])
  · exact h

/-- A set to collapse is narrowed to its primary node. -/
theorem narrow_of_ofSet? {y : Name} {ns : NodeSet} {k : Collapse}
    (h : Collapse.ofSet? y ns = some k) : ns.narrow = {k.primary} := by
  obtain ⟨-, hl, hne⟩ := Collapse.ofSet?_eq_some_iff.1 h
  obtain ⟨q, rest, hothers⟩ := List.exists_cons_of_ne_nil hne
  rw [narrow, hl, Collapse.nodes, hothers]

/-- A set with at most one node stays as it is. -/
theorem narrow_eq_self {ns : NodeSet} (h : ns.size ≤ 1) : ns.narrow = ns := by
  rw [← Std.ExtTreeSet.length_toList] at h
  unfold narrow
  split
  · rename_i hl
    simp [hl] at h
  · rfl

/-- A map that fixes the nodes of a set fixes the set. -/
theorem image_eq_self {f : NodeId → NodeId} {ns : NodeSet} (h : ∀ n ∈ ns, f n = n) :
    NodeSet.image f ns = ns := by
  refine Std.ExtTreeSet.ext_mem fun m => mem_image.trans ⟨?_, fun hm => ⟨m, hm, h m hm⟩⟩
  rintro ⟨n, hn, rfl⟩
  rwa [h n hn]

end NodeSet

namespace Relation

variable {r : Relation} {x : Name} {n m : NodeId}

/-! ## Snapshot passes -/

theorem getElem?_nodesOf_snapshot (r : Relation) (x : Name) :
    r.snapshot.nodesOf[x]? = r.nodesOf[x]?.map (NodeSet.image r.classes.root) := by
  simp [snapshot_eq]

theorem known_snapshot : x ∈ r.snapshot.nodesOf ↔ x ∈ r.nodesOf := by
  simp [snapshot_eq]

theorem pointsTo_snapshot :
    r.snapshot.PointsTo x m ↔ ∃ n, r.PointsTo x n ∧ r.classes.root n = m := by
  simp only [PointsTo, Multimap.entry, getElem?_nodesOf_snapshot]
  cases r.nodesOf[x]? with
  | none => simp
  | some ns => exact NodeSet.mem_image

/-- All nodes of a name become one. -/
theorem pointsTo_snapshot_iff (h : r.PointsTo x n) :
    r.snapshot.PointsTo x m ↔ r.classes.root n = m := by
  rw [pointsTo_snapshot]
  constructor
  · rintro ⟨n', hn', rfl⟩
    exact root_eq_of_pointsTo h hn'
  · exact fun hm => ⟨n, h, hm⟩

theorem kept_snapshot : m ∈ r.snapshot.namesOf ↔ ∃ n ∈ r.namesOf, r.classes.root n = m := by
  rw [snapshot_eq, Multimap.mem_foldl_add, or_iff_right (by simp)]
  exact Multimap.exists_mem_toList (P := fun n _ => r.classes.root n = m)

theorem named_snapshot : r.snapshot.Named m x ↔ ∃ n, r.Named n x ∧ r.classes.root n = m := by
  unfold Named
  rw [snapshot_eq, Multimap.mem_entry_foldl_add, or_iff_right (by simp [Multimap.entry]),
    Multimap.exists_mem_toList (P := fun n xs => r.classes.root n = m ∧ x ∈ xs)]
  constructor
  · rintro ⟨n, -, rfl, hn⟩
    exact ⟨n, hn, rfl⟩
  · rintro ⟨n, hn, rfl⟩
    exact ⟨n, Multimap.mem_of_mem_entry hn, rfl, hn⟩

/-- The nodes that a snapshot pass leaves are roots. -/
theorem root_of_kept_snapshot (h : m ∈ r.snapshot.namesOf) : r.classes.root m = m := by
  obtain ⟨n, -, rfl⟩ := kept_snapshot.1 h
  exact r.classes.root_root n

/-! ## In-place passes -/

/-- Names flow from one node to another when sets are gathered in turn: a set may carry them from a
node of its own to its primary node. -/
inductive Flows : List Collapse → NodeId → NodeId → Prop where
  | stay (n : NodeId) : Flows [] n n
  | pass {k : Collapse} {ks : List Collapse} {n m : NodeId} : Flows ks n m → Flows (k :: ks) n m
  | carry {k : Collapse} {ks : List Collapse} {n m : NodeId} :
    n ∈ k.nodes → Flows ks k.primary m → Flows (k :: ks) n m

theorem flows_nil_iff : Flows [] n m ↔ n = m :=
  ⟨fun h => by cases h; rfl, fun h => h ▸ .stay n⟩

theorem flows_cons_iff {k : Collapse} {ks : List Collapse} :
    Flows (k :: ks) n m ↔ Flows ks n m ∨ (n ∈ k.nodes ∧ Flows ks k.primary m) := by
  constructor
  · rintro (_ | h | ⟨hn, h⟩)
    · exact Or.inl h
    · exact Or.inr ⟨hn, h⟩
  · rintro (h | ⟨hn, h⟩)
    · exact .pass h
    · exact .carry hn h

/-- Names also stay where they are. -/
theorem flows_refl (n : NodeId) : ∀ ks : List Collapse, Flows ks n n
  | [] => .stay n
  | _ :: ks => .pass (flows_refl n ks)

/-- Names flow from every node of a set to its primary node. -/
theorem flows_primary {k : Collapse} (hn : n ∈ k.nodes) :
    ∀ {ks : List Collapse}, k ∈ ks → Flows ks n k.primary
  | j :: ks, hk => by
    rcases List.mem_cons.1 hk with rfl | hk
    · exact .carry hn (flows_refl _ ks)
    · exact .pass (flows_primary hn hk)

theorem mem_foldl_union {names : Multimap NodeId Name} : ∀ {ns : List NodeId} {xs : NameSet},
    x ∈ ns.foldl (fun xs n => xs ∪ Multimap.entry names n) xs ↔
      x ∈ xs ∨ ∃ n ∈ ns, x ∈ Multimap.entry names n
  | [], xs => by simp
  | n :: ns, xs => by
    rw [List.foldl_cons, mem_foldl_union, Std.ExtTreeSet.mem_union_iff]
    simp only [List.mem_cons, exists_eq_or_imp, or_assoc]

theorem mem_gather {names : Multimap NodeId Name} {k : Collapse} :
    n ∈ gather names k ↔ n ∈ names ∨ k.primary = n := by
  simp [gather, Std.ExtTreeMap.mem_insert, or_comm]

/-- The primary node has the names of all nodes of the set, the others have what they had. -/
theorem mem_entry_gather {names : Multimap NodeId Name} {k : Collapse} :
    x ∈ Multimap.entry (gather names k) n ↔
      x ∈ Multimap.entry names n ∨ (k.primary = n ∧ ∃ m ∈ k.nodes, x ∈ Multimap.entry names m) := by
  rw [Multimap.entry, gather, Std.ExtTreeMap.getElem?_insert]
  by_cases h : k.primary = n
  · subst h
    simp only [Std.ReflCmp.compare_self, if_true, Option.getD_some, mem_foldl_union,
      Std.ExtTreeSet.not_mem_empty, false_or, true_and]
    exact ⟨Or.inr, fun h => h.elim (fun hx => ⟨k.primary, by simp [Collapse.nodes], hx⟩) id⟩
  · simp [h, Multimap.entry]

theorem mem_foldl_gather : ∀ {ks : List Collapse} {names : Multimap NodeId Name},
    n ∈ ks.foldl gather names ↔ n ∈ names ∨ ∃ k ∈ ks, k.primary = n
  | [], names => by simp
  | k :: ks, names => by
    rw [List.foldl_cons, mem_foldl_gather, mem_gather]
    simp only [List.mem_cons, exists_eq_or_imp, or_assoc]

/-- **Gathering in turn.** A node has the names that flow to it. -/
theorem mem_entry_foldl_gather : ∀ {ks : List Collapse} {names : Multimap NodeId Name},
    x ∈ Multimap.entry (ks.foldl gather names) n ↔
      ∃ m, x ∈ Multimap.entry names m ∧ Flows ks m n
  | [], names => by simp [flows_nil_iff]
  | k :: ks, names => by
    rw [List.foldl_cons, mem_entry_foldl_gather]
    simp only [mem_entry_gather, flows_cons_iff]
    constructor
    · rintro ⟨m, hm | ⟨rfl, m', hm', hx⟩, hflow⟩
      · exact ⟨m, hm, Or.inl hflow⟩
      · exact ⟨m', hx, Or.inr ⟨hm', hflow⟩⟩
    · rintro ⟨m, hx, hflow | ⟨hm, hflow⟩⟩
      · exact ⟨m, Or.inl hx, hflow⟩
      · exact ⟨k.primary, Or.inr ⟨rfl, m, hm, hx⟩, hflow⟩

theorem mem_others_iff :
    n ∈ r.collapses.flatMap (·.others) ↔ ∃ k ∈ r.collapses, n ∈ k.others := List.mem_flatMap

theorem getElem?_nodesOf_inPlace (r : Relation) (x : Name) :
    r.inPlace.nodesOf[x]? = r.nodesOf[x]?.map NodeSet.narrow := by
  simp [inPlace]

theorem known_inPlace : x ∈ r.inPlace.nodesOf ↔ x ∈ r.nodesOf := by
  simp [inPlace]

theorem kept_inPlace :
    n ∈ r.inPlace.namesOf ↔
      (n ∈ r.namesOf ∨ ∃ k ∈ r.collapses, k.primary = n) ∧ ¬ ∃ k ∈ r.collapses, n ∈ k.others := by
  unfold inPlace
  rw [Multimap.mem_foldl_erase, mem_foldl_gather, mem_others_iff]

theorem named_inPlace :
    r.inPlace.Named n x ↔
      (∃ m, r.Named m x ∧ Flows r.collapses m n) ∧ ¬ ∃ k ∈ r.collapses, n ∈ k.others := by
  unfold Named inPlace
  rw [Multimap.mem_entry_foldl_erase, mem_entry_foldl_gather, mem_others_iff]

theorem pointsTo_inPlace (h : r.inPlace.PointsTo x n) : r.PointsTo x n := by
  unfold PointsTo Multimap.entry at h ⊢
  rw [getElem?_nodesOf_inPlace] at h
  cases hx : r.nodesOf[x]? with
  | none => simp [hx] at h
  | some ns =>
    rw [hx] at h
    exact NodeSet.mem_of_mem_narrow h

/-! ## One pass is enough -/

theorem root_classes_of_collapses_eq_nil (h : r.collapses = []) (n : NodeId) :
    r.classes.root n = n := by
  simp [classes, h]

theorem snapshot_of_collapses_eq_nil (h : r.collapses = []) : r.snapshot = r := by
  refine ext_facts (fun x => known_snapshot) (fun x n => ?_) (fun n => ?_) (fun n x => ?_)
  · simp [pointsTo_snapshot, root_classes_of_collapses_eq_nil h]
  · simp [kept_snapshot, root_classes_of_collapses_eq_nil h]
  · simp [named_snapshot, root_classes_of_collapses_eq_nil h]

theorem inPlace_of_collapses_eq_nil (h : r.collapses = []) : r.inPlace = r := by
  refine Relation.ext (Std.ExtTreeMap.ext_getElem? fun x => ?_) (by simp [inPlace, h])
  rw [getElem?_nodesOf_inPlace]
  cases hx : r.nodesOf[x]? with
  | none => rfl
  | some ns =>
    have hsize := collapses_eq_nil_iff.1 h x ns hx
    rw [Option.map_some, NodeSet.narrow_eq_self hsize]

/-- A pass over a relation with nothing to collapse changes nothing. -/
theorem pass_of_collapses_eq_nil (how : Reduction) (h : r.collapses = []) :
    (r.pass how).value = r := by
  cases how
  · exact snapshot_of_collapses_eq_nil h
  · exact inPlace_of_collapses_eq_nil h

/-- Passes come to an end with the second, which finds nothing to collapse. -/
theorem reduceFrom_eq (how : Reduction) (sofar : Reduced) (r : Relation) :
    r.reduceFrom how sofar =
      if r.collapses = [] then (fun _ => (sofar, r)) <$> r.pass how
      else
        let done : Reduced := ⟨sofar.passes + 1, sofar.merges + r.collapses.length⟩
        let next := (r.pass how).value
        r.pass how *> Traced.tell [.passDone done.passes r.collapses.length next.namesOf.size]
          *> (fun _ => (done, next)) <$> next.pass how := by
  by_cases h : r.collapses = []
  · rw [reduceFrom, if_pos h, if_pos h]
  · rw [reduceFrom, if_neg h, if_neg h]
    show _ *> reduceFrom how _ (r.pass how).value = _
    rw [reduceFrom, if_pos (collapses_pass how r)]

theorem value_reduceFrom (how : Reduction) (sofar : Reduced) (r : Relation) :
    (r.reduceFrom how sofar).value =
      if r.collapses = [] then (sofar, r)
      else (⟨sofar.passes + 1, sofar.merges + r.collapses.length⟩, (r.pass how).value) := by
  rw [reduceFrom_eq]
  split <;> rfl

/-- **A reduction** is one pass. It counts if there was a set to collapse, and the sets are those
that there were at its start. -/
theorem value_reduce (how : Reduction) (r : Relation) :
    (r.reduce how).value =
      (⟨if r.collapses = [] then 0 else 1, r.collapses.length⟩, (r.pass how).value) := by
  rw [reduce, Traced.value_within, value_reduceFrom]
  by_cases h : r.collapses = []
  · rw [if_pos h, if_pos h, pass_of_collapses_eq_nil how h, h, List.length_nil]
  · rw [if_neg h, if_neg h, Nat.zero_add, Nat.zero_add]

/-- A pass hands names on and makes none. -/
theorem exists_named_of_named_pass {how : Reduction} (h : (r.pass how).value.Named n x) :
    ∃ m, r.Named m x := by
  cases how with
  | snapshot =>
    obtain ⟨m, hm, -⟩ := named_snapshot.1 h
    exact ⟨m, hm⟩
  | inPlace =>
    obtain ⟨⟨m, hm, -⟩, -⟩ := named_inPlace.1 h
    exact ⟨m, hm⟩

theorem reduce_snapshot_snd (r : Relation) : (r.reduce .snapshot).value.2 = r.snapshot := by
  rw [value_reduce]
  rfl

theorem reduce_inPlace_snd (r : Relation) : (r.reduce .inPlace).value.2 = r.inPlace := by
  rw [value_reduce]
  rfl

end Relation

end Aliasing
