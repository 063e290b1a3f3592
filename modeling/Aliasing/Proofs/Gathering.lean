import Aliasing.Proofs.Agreement
import Aliasing.Proofs.Sizes
/-!
# What an in-place reduction gathers

An in-place pass visits the names with two or more nodes in their order. Each of them carries the
names that its nodes have by then to the least of these nodes, where a later name may find them and
carry them on. So a name comes from one node to another along a route of visited names, in ascending
order, whether or not the nodes in between are kept.

Main statements: `Flows.exists_route` and `Route.flows`, the flows of a pass are the ascending
routes; `gathered_reduce_inPlace`, what is left in both directions.
-/

namespace Aliasing

namespace Relation

/-- A route of names from one node to another. The node that was reached is among the nodes of the
next name, which leads on to the least of them. -/
inductive Route (r : Relation) : List Name → NodeId → NodeId → Prop
  | nil (n : NodeId) : Route r [] n n
  | cons {x : Name} {xs : List Name} {n p m : NodeId} :
    r.PointsTo x n → IsLeast {l | r.PointsTo x l} p → Route r xs p m → Route r (x :: xs) n m

/-- What an in-place reduction leaves of a relation. -/
structure GatheredInPlace (before after : Relation) : Prop where
  narrowed : ∀ x ∈ Multimap.crowded before.nodesOf,
    ∃ p, IsLeast {n | before.PointsTo x n} p ∧ after.nodesOf[x]? = some {p}
  unchanged : ∀ x ∉ Multimap.crowded before.nodesOf, after.nodesOf[x]? = before.nodesOf[x]?
  /-- The least nodes of all names with several nodes are added, and then their other nodes go. -/
  keys : ∀ n, n ∈ after.namesOf ↔
    (n ∈ before.namesOf ∨
      ∃ x ∈ Multimap.crowded before.nodesOf, IsLeast {l | before.PointsTo x l} n) ∧
    ¬ ∃ x ∈ Multimap.crowded before.nodesOf, ∃ p, IsLeast {l | before.PointsTo x l} p ∧
      before.PointsTo x n ∧ n ≠ p
  /-- A node that is left has the names that come to it on ascending routes. -/
  names : ∀ n ∈ after.namesOf, ∀ y, y ∈ Multimap.entry after.namesOf n ↔
    ∃ m ∈ before.namesOf, y ∈ Multimap.entry before.namesOf m ∧
      ∃ xs : List Name, xs.Pairwise (fun x x' => compare x x' = .lt) ∧
        (∀ x ∈ xs, x ∈ Multimap.crowded before.nodesOf) ∧ before.Route xs m n

variable {r : Relation} {x : Name} {n m : NodeId} {k : Collapse}

/-! ## Names with several nodes -/

/-- The names with several nodes are those of the sets to collapse. -/
theorem mem_crowded_iff : x ∈ Multimap.crowded r.nodesOf ↔ ∃ k ∈ r.collapses, k.name = x := by
  rw [Multimap.mem_crowded]
  constructor
  · rintro ⟨hx, hsize⟩
    have hget : r.nodesOf[x]? = some (Multimap.entry r.nodesOf x) :=
      Multimap.getElem?_eq_some_iff_entry.2 ⟨hx, rfl⟩
    obtain ⟨k, hk, hname, -⟩ := exists_collapse hget hsize
    exact ⟨k, hk, hname⟩
  · rintro ⟨k, hk, rfl⟩
    obtain ⟨ns, hget, hsize, -⟩ := exists_nodes_of_mem_collapses hk
    obtain ⟨hx, hentry⟩ := Multimap.getElem?_eq_some_iff_entry.1 hget
    exact ⟨hx, hentry ▸ hsize⟩

/-- The primary node of a set is the least node of its name. -/
theorem isLeast_pointsTo (hk : k ∈ r.collapses) :
    IsLeast {n | r.PointsTo k.name n} k.primary := by
  simpa only [pointsTo_iff_mem_nodes hk] using isLeast_primary hk

theorem exists_primary_eq_iff :
    (∃ k ∈ r.collapses, k.primary = n) ↔
      ∃ x ∈ Multimap.crowded r.nodesOf, IsLeast {l | r.PointsTo x l} n := by
  constructor
  · rintro ⟨k, hk, rfl⟩
    exact ⟨k.name, mem_crowded_iff.2 ⟨k, hk, rfl⟩, isLeast_pointsTo hk⟩
  · rintro ⟨x, hx, hn⟩
    obtain ⟨k, hk, rfl⟩ := mem_crowded_iff.1 hx
    exact ⟨k, hk, NodeId.eq_of_isLeast (isLeast_pointsTo hk) hn⟩

/-- The nodes that go are those of some name with several nodes, but for its least one. -/
theorem exists_mem_others_iff :
    (∃ k ∈ r.collapses, n ∈ k.others) ↔
      ∃ x ∈ Multimap.crowded r.nodesOf, ∃ p, IsLeast {l | r.PointsTo x l} p ∧
        r.PointsTo x n ∧ n ≠ p := by
  constructor
  · rintro ⟨k, hk, hn⟩
    have hlt : k.primary < n := primary_lt hk hn
    have hne : n ≠ k.primary := by
      rintro rfl
      exact Nat.lt_irrefl _ hlt
    exact ⟨k.name, mem_crowded_iff.2 ⟨k, hk, rfl⟩, k.primary, isLeast_pointsTo hk,
      (pointsTo_iff_mem_nodes hk).2 (List.mem_cons_of_mem _ hn), hne⟩
  · rintro ⟨x, hx, p, hp, hn, hne⟩
    obtain ⟨k, hk, rfl⟩ := mem_crowded_iff.1 hx
    rw [NodeId.eq_of_isLeast hp (isLeast_pointsTo hk)] at hne
    rcases List.mem_cons.1 ((pointsTo_iff_mem_nodes hk).1 hn) with heq | hother
    · exact absurd heq hne
    · exact ⟨k, hk, hother⟩

/-! ## Routes -/

/-- **Names that flow** take a route of names, in the order in which the sets are gathered. -/
theorem Flows.exists_route {ks : List Collapse} (h : Flows ks n m)
    (hsorted : ks.Pairwise fun k k' => compare k.name k'.name = .lt)
    (hks : ∀ k ∈ ks, k ∈ r.collapses) :
    ∃ xs : List Name, xs.Pairwise (fun x x' => compare x x' = .lt) ∧
      (∀ x ∈ xs, ∃ k ∈ ks, k.name = x) ∧ r.Route xs n m := by
  induction h with
  | stay n => exact ⟨[], List.Pairwise.nil, by simp, .nil n⟩
  | @pass k ks n m _ ih =>
    obtain ⟨hfirst, hrest⟩ := List.pairwise_cons.1 hsorted
    obtain ⟨xs, hxs, hnames, hroute⟩ := ih hrest fun j hj => hks j (by simp [hj])
    refine ⟨xs, hxs, fun x hx => ?_, hroute⟩
    obtain ⟨j, hj, hname⟩ := hnames x hx
    exact ⟨j, by simp [hj], hname⟩
  | @carry k ks n m hn _ ih =>
    obtain ⟨hfirst, hrest⟩ := List.pairwise_cons.1 hsorted
    obtain ⟨xs, hxs, hnames, hroute⟩ := ih hrest fun j hj => hks j (by simp [hj])
    have hk : k ∈ r.collapses := hks k (by simp)
    refine ⟨k.name :: xs, List.pairwise_cons.2 ⟨fun x hx => ?_, hxs⟩, fun x hx => ?_, ?_⟩
    · obtain ⟨j, hj, rfl⟩ := hnames x hx
      exact hfirst j hj
    · rcases List.mem_cons.1 hx with rfl | hx
      · exact ⟨k, by simp, rfl⟩
      · obtain ⟨j, hj, hname⟩ := hnames x hx
        exact ⟨j, by simp [hj], hname⟩
    · exact .cons ((pointsTo_iff_mem_nodes hk).2 hn) (isLeast_pointsTo hk) hroute

/-- A name after that of the first set is the name of a later one. -/
theorem exists_name_eq_of_lt {ks : List Collapse} (hlt : compare k.name x = .lt)
    (hx : ∃ j ∈ k :: ks, j.name = x) : ∃ j ∈ ks, j.name = x := by
  obtain ⟨j, hj, rfl⟩ := hx
  rcases List.mem_cons.1 hj with rfl | hj
  · simp at hlt
  · exact ⟨j, hj, rfl⟩

/-- **An ascending route** over the names of sets is one that names flow along. -/
theorem Route.flows : ∀ {ks : List Collapse} {xs : List Name} {n m : NodeId},
    r.Route xs n m → (∀ k ∈ ks, k ∈ r.collapses) →
      ks.Pairwise (fun k k' => compare k.name k'.name = .lt) →
      xs.Pairwise (fun x x' => compare x x' = .lt) → (∀ x ∈ xs, ∃ k ∈ ks, k.name = x) →
      Flows ks n m
  | ks, [], _, _, .nil n, _, _, _, _ => flows_refl n ks
  | [], x :: xs, _, _, .cons _ _ _, _, _, _, hnames => by
    obtain ⟨k, hk, -⟩ := hnames x (by simp)
    cases hk
  | k :: ks, x :: xs, n, m, .cons hn hp hroute, hks, hsorted, hxs, hnames => by
    obtain ⟨hfirst, hrest⟩ := List.pairwise_cons.1 hsorted
    obtain ⟨hnext, hxs'⟩ := List.pairwise_cons.1 hxs
    have hks' : ∀ j ∈ ks, j ∈ r.collapses := fun j hj => hks j (by simp [hj])
    by_cases hx : k.name = x
    · -- The first set is the next on the route, and the names after it are of later sets.
      subst hx
      have hk : k ∈ r.collapses := hks k (by simp)
      obtain rfl := NodeId.eq_of_isLeast hp (isLeast_pointsTo hk)
      have hlater : ∀ y ∈ xs, ∃ j ∈ ks, j.name = y := fun y hy =>
        exists_name_eq_of_lt (hnext y hy) (hnames y (by simp [hy]))
      exact .carry ((pointsTo_iff_mem_nodes hk).1 hn) (hroute.flows hks' hrest hxs' hlater)
    · -- The route begins with a later set, so the first one is not on it.
      obtain ⟨j, hj, hname⟩ := hnames x (by simp)
      have hjks : j ∈ ks := by
        rcases List.mem_cons.1 hj with rfl | hj
        · exact absurd hname hx
        · exact hj
      have hlt : compare k.name x = .lt := hname ▸ hfirst j hjks
      have hlater : ∀ y ∈ x :: xs, ∃ j ∈ ks, j.name = y := by
        intro y hy
        refine exists_name_eq_of_lt ?_ (hnames y hy)
        rcases List.mem_cons.1 hy with rfl | hy
        · exact hlt
        · exact Std.TransCmp.lt_trans hlt (hnext y hy)
      exact .pass ((Route.cons hn hp hroute).flows hks' hrest hxs hlater)

/-- The names that flow to a node in a pass are those that come on ascending routes. -/
theorem flows_collapses_iff :
    Flows r.collapses n m ↔ ∃ xs : List Name, xs.Pairwise (fun x x' => compare x x' = .lt) ∧
      (∀ x ∈ xs, x ∈ Multimap.crowded r.nodesOf) ∧ r.Route xs n m := by
  simp only [mem_crowded_iff]
  constructor
  · exact fun h => h.exists_route r.pairwise_collapses fun k hk => hk
  · rintro ⟨xs, hxs, hnames, hroute⟩
    exact hroute.flows (fun k hk => hk) r.pairwise_collapses hxs hnames

/-! ## The reduction -/

theorem nodesOf_inPlace_of_mem_crowded (h : x ∈ Multimap.crowded r.nodesOf) :
    ∃ p, IsLeast {n | r.PointsTo x n} p ∧ r.inPlace.nodesOf[x]? = some {p} := by
  obtain ⟨k, hk, rfl⟩ := mem_crowded_iff.1 h
  obtain ⟨ns, hget, hset⟩ := mem_collapses_iff.1 hk
  refine ⟨k.primary, isLeast_pointsTo hk, ?_⟩
  rw [getElem?_nodesOf_inPlace, hget, Option.map_some, NodeSet.narrow_of_ofSet? hset]

theorem nodesOf_inPlace_of_not_mem_crowded (h : x ∉ Multimap.crowded r.nodesOf) :
    r.inPlace.nodesOf[x]? = r.nodesOf[x]? := by
  rw [getElem?_nodesOf_inPlace]
  cases hx : r.nodesOf[x]? with
  | none => rfl
  | some ns =>
    obtain ⟨hmem, hentry⟩ := Multimap.getElem?_eq_some_iff_entry.1 hx
    have hsize : ns.size ≤ 1 := by
      rw [Multimap.mem_crowded, hentry] at h
      exact Nat.le_of_not_lt fun hlt => h ⟨hmem, hlt⟩
    rw [Option.map_some, NodeSet.narrow_eq_self hsize]

/-- **An in-place reduction** of any relation leaves every name with several nodes at the least of
them. It keeps the nodes that were kept, and these least ones, but for the nodes that some name left
behind; and a node that is kept has the names that came to it along the visited names, in
order. -/
theorem gathered_reduce_inPlace (r : Relation) :
    GatheredInPlace r (r.reduce .inPlace).value.2 := by
  rw [reduce_inPlace_snd]
  exact {
    narrowed := fun x => nodesOf_inPlace_of_mem_crowded
    unchanged := fun x => nodesOf_inPlace_of_not_mem_crowded
    keys := fun n => by rw [kept_inPlace, exists_primary_eq_iff, exists_mem_others_iff]
    names := fun n hn y => by
      have hstays := (kept_inPlace.1 hn).2
      rw [← Named, named_inPlace, and_iff_left hstays]
      constructor
      · rintro ⟨m, hm, hflows⟩
        exact ⟨m, kept_of_named hm, hm, flows_collapses_iff.1 hflows⟩
      · rintro ⟨m, -, hm, hroute⟩
        exact ⟨m, hm, flows_collapses_iff.2 hroute⟩ }

end Relation

end Aliasing
