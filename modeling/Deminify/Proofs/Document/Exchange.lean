import Deminify.Proofs.Tree.Exchange
import Deminify.Proofs.Tree.Label

/-!
# Documents in which nodes are exchanged one by one

Rules that replace nodes find all of them first and then go by their places. Between one replacement and the
next the document is the tree at the start with some nodes exchanged (`Deminify.Document.Exchanged`), and the
places are those at the start, but for the labels of the new nodes. **One more replacement goes through and is
one more exchange** (`Deminify.Document.Exchanged.replaceAt`), whether or not the node around has been exchanged
by then.
-/

namespace Deminify

namespace Document

variable {make : Nat → Tree → Tree} {raw : Tree → Tree} {kept : List String} {t n r : Tree} {targets : Nat → Prop}
  {start l m i : Nat} {new : Nat → Option Nat} {d : Document} {places : Array Place}

/-- **A tree of which some nodes can be exchanged**, given by their labels: what is made of them is a new value
that has been labelled, and those below one of them are under keys that it keeps. -/
structure Exchangeable (make : Nat → Tree → Tree) (raw : Tree → Tree) (kept : List String) (t : Tree)
    (targets : Nat → Prop) (start : Nat) : Prop where
  makes : Tree.Makes make kept
  number : ∀ {m : Nat} {n : Tree}, n.isObj = true → 0 ∉ n.labels → ((raw n).number m).1 = make m n
  count_le : ∀ {n : Tree} {l : Nat}, n.isObj = true → l ≠ 0 → (raw n).labels.count l ≤ n.labels.count l
  isObj : t.isObj = true
  once : ∀ l, t.labels.count l ≤ 1
  given : ∀ l ∈ t.labels, 0 < l ∧ l < start
  distinct : ∀ n ∈ t.subtree, Tree.DistinctKeys n.fields
  mem : ∀ l, targets l → ∃ n ∈ t.subtree, n.label = l ∧ n.isNode = true
  root : ¬targets t.label
  below : ∀ n ∈ t.subtree, targets n.label → ∀ slot c, (slot, c) ∈ n.slots → ∀ x ∈ c.subtree, targets x.label →
    slot.key ∈ kept

/-- **A document between two replacements.** -/
structure Exchanged (make : Nat → Tree → Tree) (t : Tree) (targets : Nat → Prop) (start : Nat)
    (new : Nat → Option Nat) (d : Document) (places : Array Place) : Prop where
  root : d.root = t.exchange make new
  once : ∀ l, d.root.labels.count l ≤ 1
  given : ∀ l ∈ d.root.labels, 0 < l ∧ l < d.next
  le : start ≤ d.next
  named : ∀ l m, new l = some m → targets l ∧ start ≤ m ∧ m < d.next
  inj : ∀ l l' m, new l = some m → new l' = some m → l = l'
  node : ∀ i n, t.subtree[i]? = some n → (placeAt places i).node = (new n.label).getD n.label
  parent : ∀ i, (placeAt places i).parent = (placeAt t.places i).parent
  key : ∀ i, (placeAt places i).key = (placeAt t.places i).key

theorem get_of_mem_records (hr : r ∈ d.root.records) (honce : d.root.labels.count r.label ≤ 1) : d.get r.label = r := by
  rw [Document.get, find?, Tree.find?_eq]
  cases hf : d.root.records.find? (·.label == r.label) with
  | none => exact absurd (List.find?_eq_none.mp hf r hr) (by simp)
  | some u =>
    have hl : (u.label == r.label) = true := by simpa using List.find?_some hf
    replace hl := beq_iff_eq.mp hl
    rw [Option.some_or, Option.getD_some]
    exact Tree.eq_of_label_of_count (List.mem_of_find?_eq_some hf) hr hl (hl ▸ honce)

namespace Exchangeable

variable (h : Exchangeable make raw kept t targets start)

include h

/-- Before the first replacement nothing has been exchanged. -/
theorem exchanged (hroot : d.root = t) (hnext : d.next = start) :
    Exchanged make t targets start (fun _ => none) d t.places where
  root := by rw [hroot, Tree.exchange_eq_self fun _ _ => rfl]
  once := hroot ▸ h.once
  given := hroot ▸ hnext ▸ h.given
  le := hnext ▸ Nat.le_refl _
  named := nofun
  inj := nofun
  node _ _ hn := Tree.node_placeAt hn
  parent _ := rfl
  key _ := rfl

/-- Nodes at different places have different labels. -/
theorem eq_of_getElem? {j : Nat} {u : Tree} (hn : t.subtree[i]? = some n) (hu : t.subtree[j]? = some u)
    (hl : u.label = n.label) : i = j := by
  have hnodup : (t.subtree.map Tree.label).Nodup :=
    (List.nodup_iff_count.mpr h.once).sublist (Tree.labels_subtree h.isObj)
  have hi : (t.subtree.map Tree.label)[i]? = some n.label := by rw [List.getElem?_map, hn, Option.map_some]
  have hj : (t.subtree.map Tree.label)[j]? = some n.label := by rw [List.getElem?_map, hu, Option.map_some, hl]
  exact (List.getElem?_inj (List.getElem?_eq_some_iff.mp hi).1 hnodup).mp (hi.trans hj.symm)

theorem eq_of_label (hn : n ∈ t.subtree) (hr : r ∈ t.records) (hl : r.label = n.label) : r = n :=
  Tree.eq_of_label_of_count hr (Tree.subtree_subset_records h.isObj hn) hl (h.once _)

end Exchangeable

namespace Exchanged

variable (he : Exchangeable make raw kept t targets start) (h : Exchanged make t targets start new d places)

include he h

/-- The nodes that have been exchanged are all that is different. -/
theorem root_eq_mapNodes : d.root = t.mapNodes (Tree.exchangeNode make new) := by
  rw [h.root]
  refine Tree.exchange_eq_mapNodes he.isObj fun l hl => ?_
  obtain ⟨m, hm⟩ := Option.isSome_iff_exists.mp hl
  obtain ⟨n, hn, rfl, -⟩ := he.mem l (h.named l m hm).1
  exact Nat.le_trans (he.once _) (List.count_pos_iff.mpr (List.mem_map_of_mem hn))

/-- A node above one that is still to be exchanged is still there. -/
theorem mem_records {p : Tree} (hp : p ∈ t.subtree) (hx : ∃ x ∈ p.subtree, targets x.label) :
    p.exchange make new ∈ d.root.records := by
  obtain ⟨x, hx, htarget⟩ := hx
  rw [h.root]
  refine Tree.exchange_mem_records he.makes hp he.isObj he.distinct fun n hn hs slot c hslot hpc => ?_
  obtain ⟨m, hm⟩ := Option.isSome_iff_exists.mp hs
  exact he.below n hn (h.named _ m hm).1 slot c hslot x (Tree.subtree_subset hpc hx) htarget

/-- The place of a node above one that is still to be exchanged leads to what has become of it. -/
theorem nodeAt_eq {p : Tree} (hp : t.subtree[i]? = some p) (hobj : p.isObj = true)
    (hx : ∃ x ∈ p.subtree, targets x.label) : d.nodeAt places i = p.exchange make new := by
  have hmem := h.mem_records he (List.mem_of_getElem? hp) hx
  rw [nodeAt, h.node i p hp, ← Tree.label_exchange he.makes hobj]
  exact get_of_mem_records hmem (h.once _)

theorem pos_next : 0 < d.next := by
  have hself := Tree.mem_labels_self he.isObj
  have hpos := he.given _ hself
  exact Nat.lt_of_lt_of_le (Nat.lt_trans hpos.1 hpos.2) h.le

omit he in
theorem mono {next : Nat} (hle : d.next ≤ next) : Exchanged make t targets start new { d with next } places where
  root := h.root
  once := h.once
  given l hl := ⟨(h.given l hl).1, Nat.lt_of_lt_of_le (h.given l hl).2 hle⟩
  le := Nat.le_trans h.le hle
  named l m hm := ⟨(h.named l m hm).1, (h.named l m hm).2.1, Nat.lt_of_lt_of_le (h.named l m hm).2.2 hle⟩
  inj := h.inj
  node := h.node
  parent := h.parent
  key := h.key

section Step

variable (hn : t.subtree[i]? = some n) (ht : targets n.label) (hnew : new n.label = none)

omit h in
include hn ht in
theorem isNode_target : n.isNode = true := by
  obtain ⟨u, hu, hl, hnode⟩ := he.mem _ ht
  rwa [← he.eq_of_label (List.mem_of_getElem? hn) (Tree.subtree_subset_records he.isObj hu) hl]

include hn ht in
/-- What is found at the place of a node that is still to be exchanged. -/
theorem nodeAt_target : d.nodeAt places i = n.exchange make new :=
  h.nodeAt_eq he hn (Tree.isObj_of_isNode (isNode_target he hn ht)) ⟨n, Tree.mem_subtree_self n, ht⟩

include hn ht in
theorem exchange_target_mem : n.exchange make new ∈ d.root.records :=
  h.mem_records he (List.mem_of_getElem? hn) ⟨n, Tree.mem_subtree_self n, ht⟩

include hn ht hnew

omit h in
theorem label_exchange_target : (n.exchange make new).label = n.label := by
  rw [Tree.label_exchange he.makes (Tree.isObj_of_isNode (isNode_target he hn ht)), hnew, Option.getD_none]

/-- **What holds the node of a place is found**, also when that has been exchanged. -/
theorem exists_locate : ∃ p key slot, p ∈ d.root.records ∧ p.heldAt? key n.label = some slot ∧
    d.locate places i = .ok (p.label, slot) := by
  cases i with
  | zero =>
    cases hn
    exact absurd ht he.root
  | succ i =>
    obtain ⟨-, j, key, p, hparent, hkey, hp, hnode, hchild, v, hv, hnv⟩ := Tree.linked_placeAt hn
    have hpt := List.mem_of_getElem? hp
    have hmem : n ∈ p.children := Tree.mem_children.mpr ⟨hnode, key, v, hv, hchild, hnv⟩
    have hx : ∃ x ∈ p.subtree, targets x.label :=
      ⟨n, Tree.subtree_subset_of_mem_children hmem (Tree.mem_subtree_self n), ht⟩
    have hobj : p.isObj = true := by
      cases p with
      | obj l fields => rfl
      | _ => cases hv
    have hkept : (new p.label).isSome = true → key ∈ kept := fun hs => by
      obtain ⟨m, hm⟩ := Option.isSome_iff_exists.mp hs
      obtain ⟨⟨slot, c⟩, hslot, rfl⟩ := List.mem_map.mp (Tree.mem_fieldSlots.mpr ⟨hnode, hchild, hnv⟩)
      obtain rfl := Tree.key_of_mem_fieldSlots hslot
      exact he.below p hpt (h.named _ m hm).1 slot c (Tree.mem_slots_iff.mpr ⟨v, hv, hslot⟩) c (Tree.mem_subtree_self c) ht
    obtain ⟨slot, hslot⟩ := Tree.exists_heldAt?_exchange he.makes (he.distinct p hpt) hv hchild hnv hnode hkept hnew
    refine ⟨p.exchange make new, key, slot, h.mem_records he hpt hx, hslot, ?_⟩
    rw [locate, parentAt, h.parent, hparent, Option.map_some, h.nodeAt_eq he hp hobj hx]
    dsimp only
    rw [h.key, hkey, Option.getD_some, h.node _ n hn, hnew, Option.getD_none, hslot]

/-- To put the new node there is one more exchange. -/
theorem edit_target : d.root.edit n.label (fun _ => make m (n.exchange make new)) =
    t.exchange make (Function.update new n.label (some m)) := by
  have hnt := List.mem_of_getElem? hn
  have hobj := Tree.isObj_of_isNode (isNode_target he hn ht)
  have hin : n.label ∈ t.labels := by
    rw [Tree.labels_eq_map_records]
    exact List.mem_map_of_mem (Tree.subtree_subset_records he.isObj hnt)
  rw [h.root]
  refine Tree.edit_exchange he.makes (fun r hr hl => he.eq_of_label hnt hr hl) (he.once _) hnew
    (fun l' m' hm => ?_) fun r hr hs => ?_
  · exact Nat.lt_of_lt_of_le (he.given _ hin).2 (h.named l' m' hm).2.1
  · have htarget : targets r.label := by
      rw [Function.update_apply] at hs
      split at hs
      · rename_i hl
        exact hl ▸ ht
      · obtain ⟨m', hm⟩ := Option.isSome_iff_exists.mp hs
        exact (h.named _ m' hm).1
    obtain ⟨u, hu, hl, hnode⟩ := he.mem _ htarget
    rw [he.eq_of_label hu hr hl.symm]
    exact Tree.truthy_of_isNode hnode

omit hnew in
/-- What is put there is the new value, once it is labelled. -/
theorem adopt_target : d.adopt (raw (n.exchange make new)) = (make d.next (n.exchange make new),
    { d with next := ((raw (n.exchange make new)).number d.next).2 }) := by
  have hmem := h.exchange_target_mem he hn ht
  have hzero : 0 ∉ (n.exchange make new).labels := fun hz =>
    Nat.lt_irrefl 0 (h.given 0 (Tree.labels_subset_of_mem_records hmem hz)).1
  rw [adopt, ← he.number (Tree.isObj_of_mem_records hmem) hzero]

/-- The labels that the new node brings are new. -/
theorem count_edit_target (k : Nat) :
    (d.root.edit n.label fun _ => make d.next (n.exchange make new)).labels.count k ≤ 1 ∧
      (0 < (d.root.edit n.label fun _ => make d.next (n.exchange make new)).labels.count k →
        0 < k ∧ k < ((raw (n.exchange make new)).number d.next).2) := by
  have hmem := h.exchange_target_mem he hn ht
  have hobj := Tree.isObj_of_mem_records hmem
  have hlabel := label_exchange_target he hn ht hnew
  have hfresh : ((raw (n.exchange make new)).number d.next).1 = make d.next (n.exchange make new) :=
    congrArg Prod.fst (h.adopt_target he hn ht)
  have hedit := @Tree.count_labels_edit_of_once _ _ _ k (fun _ => make d.next (n.exchange make new)) hmem
    hlabel (h.once _)
  obtain ⟨hle, hzero, hgiven, hother⟩ := (raw (n.exchange make new)).givenOut_number (h.pos_next he) k
  rw [hfresh] at hzero hgiven hother
  have hraw : k ≠ 0 → _ := he.count_le (l := k) hobj
  have hold := Tree.count_labels_of_mem_records hmem k
  have honce := h.once k
  have hrange : 0 < d.root.labels.count k → 0 < k ∧ k < d.next := fun hpos => h.given k (List.count_pos_iff.mp hpos)
  by_cases hk : k = 0
  · have hnone := hzero hk
    exact ⟨by omega, fun hpos => by have := hrange (by omega); omega⟩
  · have hraw := hraw hk
    by_cases hin : d.next ≤ k ∧ k < ((raw (n.exchange make new)).number d.next).2
    · have hone := hgiven hin.1 hin.2
      have hnone : d.root.labels.count k = 0 := by
        by_contra hne
        have := (hrange (Nat.pos_of_ne_zero hne)).2
        omega
      exact ⟨by omega, fun _ => by omega⟩
    · have hsame := hother hk (by omega)
      exact ⟨by omega, fun hpos => by have := hrange (by omega); omega⟩

/-- The new node has one of the labels that are given out for it. -/
theorem next_lt : d.next < ((raw (n.exchange make new)).number d.next).2 := by
  have hmem := h.exchange_target_mem he hn ht
  have hedit := @Tree.count_labels_edit_of_once _ _ _ d.next (fun _ => make d.next (n.exchange make new)) hmem
    (label_exchange_target he hn ht hnew) (h.once _)
  have hold := Tree.count_labels_of_mem_records hmem d.next
  have hin := Tree.mem_labels_self (Tree.isObj_of_isNode (he.makes.isNode d.next (n.exchange make new)))
  rw [he.makes.label] at hin
  have hpos := List.count_pos_iff.mpr hin
  exact ((h.count_edit_target he hn ht hnew d.next).2 (by omega)).2

/-- **One more replacement goes through and is one more exchange.** -/
theorem replaceAt : ∃ d' places',
    ({ d with next := ((raw (n.exchange make new)).number d.next).2 } : Document).replaceAt places i
      (make d.next (n.exchange make new)) = .ok (d', places') ∧
    Exchanged make t targets start (Function.update new n.label (some d.next)) d' places' := by
  have hlt := h.next_lt he hn ht hnew
  have h' := h.mono hlt.le
  obtain ⟨p, key, slot, hp, hheld, hlocate⟩ := h'.exists_locate he hn ht hnew
  rw [Document.replaceAt, hlocate]
  refine ⟨_, _, rfl, ?_⟩
  have hroot : d.root.edit p.label (·.setSlot slot (make d.next (n.exchange make new))) =
      d.root.edit n.label fun _ => make d.next (n.exchange make new) :=
    Tree.edit_setSlot hp hheld fun k _ => h.once k
  have hcount := h.count_edit_target he hn ht hnew
  rw [← hroot] at hcount
  -- labels that were given out before are below the new one
  have hbefore {l m : Nat} (hm : new l = some m) : m ≠ d.next := Nat.ne_of_lt (h.named l m hm).2.2
  have hplace (j : Nat) : placeAt (places.modify i fun place => { place with node := (make d.next (n.exchange make new)).label }) j =
      if i = j ∧ j < places.size then { placeAt places j with node := d.next } else placeAt places j := by
    rw [placeAt, placeAt, Array.getElem?_modify, he.makes.label]
    by_cases hij : i = j
    · by_cases hj : j < places.size
      · rw [if_pos hij, if_pos ⟨hij, hj⟩, Array.getElem?_eq_getElem hj, Option.map_some, Option.getD_some, Option.getD_some]
      · rw [if_pos hij, if_neg fun h => hj h.2, Array.getElem?_eq_none (Nat.le_of_not_lt hj), Option.map_none]
    · rw [if_neg hij, if_neg fun h => hij h.1]
  refine ⟨?_, fun k => (hcount k).1, fun k hk => (hcount k).2 (List.count_pos_iff.mpr hk), Nat.le_trans h.le hlt.le,
    fun l m hm => ?_, fun l l' m hm hm' => ?_, fun j u hu => ?_, fun j => ?_, fun j => ?_⟩
  · exact hroot.trans (h.edit_target he hn ht hnew)
  · rw [Function.update_apply] at hm
    split at hm
    · rename_i hl
      cases hm
      exact ⟨hl ▸ ht, h.le, hlt⟩
    · exact ⟨(h.named l m hm).1, (h.named l m hm).2.1, Nat.lt_trans (h.named l m hm).2.2 hlt⟩
  · rw [Function.update_apply] at hm hm'
    split at hm <;> split at hm'
    · rename_i hl hl'
      rw [hl, hl']
    · cases hm
      exact absurd rfl (hbefore hm')
    · cases hm'
      exact absurd rfl (hbefore hm)
    · exact h.inj l l' m hm hm'
  · rw [hplace]
    by_cases hij : i = j
    · subst hij
      obtain rfl : n = u := Option.some.inj (hn.symm.trans hu)
      have hsize : i < places.size := by
        by_contra hout
        have hnode := h.node i n hn
        rw [hnew, Option.getD_none, placeAt, Array.getElem?_eq_none (Nat.le_of_not_lt hout), Option.getD_none] at hnode
        have hpos := (he.given n.label ((Tree.labels_subtree he.isObj).subset (List.mem_map_of_mem (List.mem_of_getElem? hn)))).1
        exact Nat.ne_of_lt hpos hnode
      rw [if_pos ⟨rfl, hsize⟩, Function.update_self, Option.getD_some]
    · rw [if_neg fun hj => hij hj.1, Function.update_of_ne fun hl => hij (he.eq_of_getElem? hn hu hl)]
      exact h.node j u hu
  · rw [hplace]
    split <;> exact h.parent j
  · rw [hplace]
    split <;> exact h.key j

end Step

end Exchanged

end Document

end Deminify
