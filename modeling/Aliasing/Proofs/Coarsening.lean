import Aliasing.Proofs.Components
import Aliasing.Proofs.Findings
/-!
# More data, coarser groups

Records that say more link more nodes. Their classes are unions of the classes before, so every
group is taken up by one of theirs, labelled by a node at or before its own. Leaving records out can
split a group or let names go from it, and brings no names together.

Main statements: `SameClass.mono`; `refinesGroups_snapshot`, what that means for the groups of a
snapshot pass; `refinesGroups_reduce`; `refinesGroups_ofDump`, the same of dumps.
-/

namespace Aliasing

variable {records more : List Record} {n m : NodeId}

/-- Each group has its members in exactly one of the other groups, which is labelled by a node at or
before its own. -/
def RefinesGroups (gs hs : List AliasGroup) : Prop :=
  ∀ g ∈ gs, ∃ h ∈ hs, (∀ x ∈ g.members, x ∈ h.members) ∧ h.primary ≤ g.primary ∧
    ∀ k ∈ hs, (∀ x ∈ g.members, x ∈ k.members) → k = h

/-- What records say is said when every record of theirs is covered. -/
theorem said_le_iff :
    (∀ x n, Said records x n → Said more x n) ↔
      ∀ rec ∈ records, ∀ n ∈ rec.nodes.toList,
        ∃ rec' ∈ more, rec'.name = rec.name ∧ n ∈ rec'.nodes.toList := by
  simp only [Said, Std.ExtTreeSet.mem_toList]
  constructor
  · intro h rec hrec n hn
    exact h rec.name n ⟨rec, hrec, rfl, hn⟩
  · rintro h x n ⟨rec, hrec, rfl, hn⟩
    exact h rec hrec n hn

/-- **More records, larger classes.** -/
theorem SameClass.mono (h : ∀ x n, Said records x n → Said more x n)
    (hnm : SameClass records n m) : SameClass more n m :=
  Relation.EqvGen.mono (fun _ _ ⟨x, hn, hm⟩ => ⟨x, h x _ hn, h x _ hm⟩) _ _ hnm

namespace Relation

/-- A group of more records that has one member of a group takes up all of them. -/
theorem members_subset_of_mem (h : ∀ x n, Said records x n → Said more x n) {g k : AliasGroup}
    {x : Name} (hg : g ∈ (ofRecords records).snapshot.aliasGroups)
    (hk : k ∈ (ofRecords more).snapshot.aliasGroups) (hxg : x ∈ g.members) (hxk : x ∈ k.members) :
    SameClass more k.primary g.primary ∧ ∀ y ∈ g.members, y ∈ k.members := by
  obtain ⟨-, hgm, -⟩ := mem_aliasGroups_snapshot_ofRecords.1 hg
  obtain ⟨-, hkm, -⟩ := mem_aliasGroups_snapshot_ofRecords.1 hk
  obtain ⟨n, hn, hxn⟩ := (hgm x).1 hxg
  obtain ⟨m, hm, hxm⟩ := (hkm x).1 hxk
  -- The name points to a node of either class, which brings the classes together.
  have hclass : SameClass more k.primary g.primary :=
    .trans _ _ _ hm (.trans _ _ _ (.rel _ _ ⟨x, hxm, h x n hxn⟩) (.symm _ _ (hn.mono h)))
  refine ⟨hclass, fun y hy => ?_⟩
  obtain ⟨l, hl, hyl⟩ := (hgm y).1 hy
  exact (hkm y).2 ⟨l, .trans _ _ _ hclass (hl.mono h), h y l hyl⟩

/-- **Snapshot groups grow with the records.** -/
theorem refinesGroups_snapshot (h : ∀ x n, Said records x n → Said more x n) :
    RefinesGroups (ofRecords records).snapshot.aliasGroups
      (ofRecords more).snapshot.aliasGroups := by
  intro g hg
  obtain ⟨-, hgm, x, hx, y, hy, hne⟩ := mem_aliasGroups_snapshot_ofRecords.1 hg
  obtain ⟨n, m, hxn, hym, hnm⟩ := (exists_group_iff hne).1 ⟨g, hg, hx, hy⟩
  obtain ⟨k, hk, hxk, -⟩ := (exists_group_iff hne).2 ⟨n, m, h x n hxn, h y m hym, hnm.mono h⟩
  obtain ⟨hclass, hsub⟩ := members_subset_of_mem h hg hk hx hxk
  refine ⟨k, hk, hsub, ?_, fun l hl hgl => ?_⟩
  · obtain ⟨⟨i, -, hleast⟩, -⟩ := mem_aliasGroups_snapshot_ofRecords.1 hk
    exact hleast.2 (.trans _ _ _ hleast.1 hclass)
  · exact eq_of_mem_members_snapshot hl hk (hgl x hx) hxk

/-- **More data only coarsens the groups** of a snapshot reduction: each of them is taken up by
exactly one group of the larger data, at the same node or an earlier one. -/
theorem refinesGroups_reduce (records more : List Record)
    (h : ∀ x n, Said records x n → Said more x n) :
    RefinesGroups ((ofRecords records).reduce .snapshot).value.2.aliasGroups
      ((ofRecords more).reduce .snapshot).value.2.aliasGroups := by
  rw [reduce_snapshot_snd, reduce_snapshot_snd]
  exact refinesGroups_snapshot h

/-- A record that is added joins two groups and moves them to a lower node, while another record is
split in two. -/
theorem refinesGroups_reduce_joined :
    let node (n : Nat) (h : n < UInt64.size) : NodeId := ⟨n, h⟩
    let two := node 2 (by decide)
    let five := node 5 (by decide)
    let seven := node 7 (by decide)
    let nine := node 9 (by decide)
    let records : List Record := [⟨⟨"@a"⟩, {five, seven}⟩, ⟨⟨"@b"⟩, {seven}⟩, ⟨⟨"@c"⟩, {nine}⟩,
      ⟨⟨"@d"⟩, {nine}⟩]
    let more : List Record := [⟨⟨"@d"⟩, {nine}⟩, ⟨⟨"@a"⟩, {seven}⟩, ⟨⟨"@c"⟩, {two, nine}⟩,
      ⟨⟨"@b"⟩, {two, seven}⟩, ⟨⟨"@a"⟩, {five}⟩]
    (∀ x n, Said records x n → Said more x n) ∧
      ((ofRecords records).reduce .snapshot).value.2.aliasGroups =
        [⟨five, {⟨"@a"⟩, ⟨"@b"⟩}⟩, ⟨nine, {⟨"@c"⟩, ⟨"@d"⟩}⟩] ∧
      RefinesGroups ((ofRecords records).reduce .snapshot).value.2.aliasGroups
        ((ofRecords more).reduce .snapshot).value.2.aliasGroups := by
  intro node two five seven nine records more
  have hsaid : ∀ x n, Said records x n → Said more x n := said_le_iff.2 (by decide +kernel)
  exact ⟨hsaid, by decide +kernel, refinesGroups_reduce records more hsaid⟩

end Relation

/-- **Dropped records** can split the groups of a dump or let names go from them, and join none. -/
theorem refinesGroups_ofDump {s t : String}
    (h : ∀ rec ∈ (Log.ofText s).records, rec ∈ (Log.ofText t).records) :
    RefinesGroups (Findings.ofDump s .snapshot).groups (Findings.ofDump t .snapshot).groups := by
  have hsaid : ∀ x n, Said (Log.ofText s).records x n → Said (Log.ofText t).records x n := by
    rintro x n ⟨rec, hrec, hname, hn⟩
    exact ⟨rec, h rec hrec, hname, hn⟩
  unfold Findings.ofDump Findings.of
  simp only [Relation.reduce_snapshot_snd]
  exact Relation.refinesGroups_snapshot hsaid

end Aliasing
