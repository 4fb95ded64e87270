import Mathlib
import Deminify.Proofs.Scope.Role
import Deminify.Proofs.Tree.Label

/-!
# Weighing what happens

Two accounts of what happens in a program agree if they agree under every weight: give each event
any number, and both add up to the same. The weight of a site (`Deminify.Site.weigh`) is that of
what happens there and below.

Weights that are one for one event and zero for all others tell whether it happens
(`Deminify.Site.weigh_pos`); those that are one for all events at one node tell how often it
happens (`Deminify.Site.weigh_le_one`). In between there is only addition.
-/

namespace Deminify

namespace Tree

/-! ### Children by key -/

/-- The children of a node under a key. -/
def nodesAt (t : Tree) (key : String) : List Tree := (fieldSlots key (t.get key)).map (·.2)

theorem fieldSlots_of_isLeaf {key : String} {value : Tree} (h : value.isLeaf = true) :
    fieldSlots key value = [] := by
  rw [fieldSlots.eq_def]
  cases value <;> simp_all [isLeaf, isNode, isObj]

section NodesAt

variable {t : Tree} {key : String} {kinds : String → Bool}

theorem nodesAt_of_isLeaf (h : (t.get key).isLeaf = true) : t.nodesAt key = [] := by
  rw [nodesAt, fieldSlots_of_isLeaf h, List.map_nil]

theorem nodesAt_of_is (hk : holdsChildren key = true) (h : (t.get key).Is kinds) :
    t.nodesAt key = [t.get key] := by
  have hn := h.isNode
  revert hn
  unfold nodesAt
  generalize t.get key = value
  intro hn
  rw [fieldSlots.eq_def, if_pos hk]
  cases value with
  | obj l fields => simp [hn]
  | _ => simp [isNode, isObj] at hn

theorem map_itemSlots (key : String) (start : Nat) (items : List Tree) :
    (itemSlots key start items).map (·.2) = items.filter isNode := by
  induction items generalizing start with
  | nil => rfl
  | cons t rest ih =>
    rw [itemSlots, List.filter_cons]
    split
    · rw [List.map_cons, ih]
    · exact ih _

theorem nodesAt_of_list (hk : holdsChildren key = true) {items : List Tree}
    (h : t.get key = .list items) : t.nodesAt key = items.filter isNode := by
  rw [nodesAt, h, fieldSlots.eq_def, if_pos hk]
  exact map_itemSlots key 0 items

end NodesAt

/-! ### Adding up over children -/

section Sums

variable {t : Tree} {g : String → Tree → Nat}

/-- What the children under a key add up to. -/
def sumAt (t : Tree) (g : String → Tree → Nat) (key : String) : Nat :=
  ((t.nodesAt key).map (g key)).sum

/-- What the fields add up to, one of them apart. -/
theorem sum_fields_split {h : String → Tree → Nat} {fields : List (String × Tree)}
    (hd : DistinctKeys fields) {key : String} (hk : isShapeKey key = true)
    (hnull : h key .null = 0) :
    (fields.map fun f => h f.1 f.2).sum = h key ((fields.lookup key).getD .null) +
      ((fields.filter (·.1 != key)).map fun f => h f.1 f.2).sum := by
  induction fields with
  | nil => simp [hnull]
  | cons f rest ih =>
    obtain ⟨k, v⟩ := f
    have ih := ih (hd.sublist ((List.sublist_cons_self _ _).filter _))
    rw [List.map_cons, List.sum_cons, lookup_cons_ite]
    by_cases hkey : key = k
    · subst hkey
      -- no other field has the key
      have hnone : rest.lookup key = none := by
        rw [DistinctKeys, List.map_cons, List.filter_cons_of_pos hk, List.nodup_cons] at hd
        rw [List.lookup_eq_none_iff]
        intro p hp
        refine bne_iff_ne.mpr fun he => hd.1 ?_
        exact List.mem_filter.mpr ⟨he ▸ List.mem_map_of_mem hp, hk⟩
      rw [if_pos rfl, List.filter_cons_of_neg (by simp), ih, hnone, Option.getD_none, hnull,
        Option.getD_some, Nat.zero_add]
    · rw [if_neg hkey, List.filter_cons_of_pos (by simpa using Ne.symm hkey), List.map_cons,
        List.sum_cons, ih]
      omega

theorem sum_fields_keys {h : String → Tree → Nat} (hnull : ∀ key, h key .null = 0)
    {fields : List (String × Tree)} (hd : DistinctKeys fields) {keys : List String}
    (hn : keys.Nodup) (hk : ∀ key ∈ keys, isShapeKey key = true)
    (ho : ∀ f ∈ fields, f.1 ∉ keys → h f.1 f.2 = 0) :
    (fields.map fun f => h f.1 f.2).sum =
      (keys.map fun key => h key ((fields.lookup key).getD .null)).sum := by
  induction keys generalizing fields with
  | nil =>
    rw [List.map_nil, List.sum_nil, List.sum_eq_zero_iff_forall_eq_nat]
    intro x hx
    obtain ⟨f, hf, rfl⟩ := List.mem_map.mp hx
    exact ho f hf (by simp)
  | cons key rest ih =>
    obtain ⟨hnot, hn⟩ := List.nodup_cons.mp hn
    rw [sum_fields_split hd (hk key List.mem_cons_self) (hnull key), List.map_cons, List.sum_cons,
      ih (hd.filter _) hn (fun k hm => hk k (List.mem_cons_of_mem _ hm))]
    · congr 2
      refine List.map_congr_left fun k hm => ?_
      have hne : key ≠ k := fun he => hnot (he ▸ hm)
      rw [lookup_filter_ne, if_neg hne]
    · intro f hf hr
      obtain ⟨hf, hne⟩ := List.mem_filter.mp hf
      exact ho f hf (by simpa using ⟨by simpa using hne, hr⟩)

/-- The keys of the fields of a kind differ. -/
theorem nodup_of_schema {kind : String} {spec : List (String × FieldSort)}
    (hs : schema kind = some spec) : (spec.map (·.1)).Nodup := by
  have table : ∀ entry ∈ schemaTable, (entry.2.map (·.1)).Nodup := by decide +kernel
  exact table _ (mem_of_lookup hs)

/-- **What the children of a well-formed node add up to, key by key.** -/
theorem WellFormed.sum_slots (h : t.WellFormed) {spec : List (String × FieldSort)}
    (hs : schema t.kind = some spec) :
    (t.slots.map fun x => g x.1.key x.2).sum = (spec.map fun entry => t.sumAt g entry.1).sum := by
  let total (key : String) (value : Tree) : Nat := ((fieldSlots key value).map fun x => g x.1.key x.2).sum
  have hnull : ∀ key, total key .null = 0 := by
    intro key
    simp only [total, fieldSlots]
    split <;> rfl
  have hslots : (t.slots.map fun x => g x.1.key x.2).sum = (t.fields.map fun f => total f.1 f.2).sum := by
    rw [slots]
    induction t.fields with
    | nil => rfl
    | cons f rest ih =>
      rw [List.flatMap_cons, List.map_append, List.sum_append, List.map_cons, List.sum_cons, ih]
  have hother : ∀ f ∈ t.fields, f.1 ∉ spec.map (·.1) → total f.1 f.2 = 0 := by
    rintro ⟨key, value⟩ hf hnot
    by_cases hk : holdsChildren key = true
    · have hknown := h.known hs (h.distinct.lookup (isShapeKey_of_holdsChildren hk) hf)
      simp only [isKnownField, hk, Bool.not_true, Bool.or_false, Bool.or_eq_true,
        List.lookup_isSome_iff] at hknown
      rcases hknown with ⟨p, hp, he⟩ | hleaf
      · exact absurd (List.mem_map.mpr ⟨p, hp, (beq_iff_eq.mp he).symm⟩) hnot
      · simp only [total, fieldSlots_of_isLeaf hleaf, List.map_nil, List.sum_nil]
    · simp [total, fieldSlots, hk]
  rw [hslots, sum_fields_keys hnull h.distinct (nodup_of_schema hs) ?_ hother, List.map_map]
  · congr 1
    refine List.map_congr_left fun entry he => ?_
    simp only [Function.comp_apply, total, sumAt, nodesAt, List.map_map]
    congr 1
    refine List.map_congr_left fun x hx => ?_
    rw [key_of_mem_fieldSlots hx]
    rfl
  · intro key hk
    obtain ⟨entry, he, rfl⟩ := List.mem_map.mp hk
    exact isShapeKey_of_holdsChildren (holdsChildren_of_schema hs he)

variable {key : String} {kinds : String → Bool}

/-- The one child under a key. -/
theorem WellFormed.sumAt_node (h : t.WellFormed) (hs : fieldSort t.kind key = some (.node kinds)) :
    t.sumAt g key = g key (t.get key) := by
  rw [sumAt, nodesAt_of_is (holdsChildren_of_fieldSort hs) (h.held hs), List.map_singleton,
    List.sum_singleton]

/-- The child under a key, if there is one. -/
theorem WellFormed.sumAt_optional (h : t.WellFormed)
    (hs : fieldSort t.kind key = some (.optional kinds)) :
    t.sumAt g key = if (t.get key).truthy then g key (t.get key) else 0 := by
  rcases h.held hs with hi | hi
  · rw [sumAt, nodesAt_of_isLeaf (by rw [hi]; rfl), hi]
    rfl
  · rw [sumAt, nodesAt_of_is (holdsChildren_of_fieldSort hs) hi, if_pos (truthy_of_isNode hi.isNode),
      List.map_singleton, List.sum_singleton]

theorem WellFormed.nodesAt_nodes (h : t.WellFormed) (hs : fieldSort t.kind key = some (.nodes kinds)) :
    t.nodesAt key = (t.get key).items := by
  obtain ⟨items, hv, hi⟩ := h.held hs
  rw [nodesAt_of_list (holdsChildren_of_fieldSort hs) hv,
    List.filter_eq_self.mpr fun c hc => (hi c hc).isNode, hv, items_list]

/-- The children in a list. -/
theorem WellFormed.sumAt_nodes (h : t.WellFormed) (hs : fieldSort t.kind key = some (.nodes kinds)) :
    t.sumAt g key = ((t.get key).items.map (g key)).sum := by
  rw [sumAt, h.nodesAt_nodes hs]

/-- No children at all. -/
theorem WellFormed.sumAt_leaf (h : t.WellFormed) {sort : FieldSort}
    (hs : fieldSort t.kind key = some sort) (hsort : sort = .text ∨ sort = .flag ∨ sort = .leaf) :
    t.sumAt g key = 0 := by
  have hi := h.held hs
  have hleaf : (t.get key).isLeaf = true := by
    rcases hsort with rfl | rfl | rfl
    · obtain ⟨s, hi⟩ := hi
      rw [hi]
      rfl
    · obtain ⟨b, hi⟩ := hi
      rw [hi]
      rfl
    · exact hi
  rw [sumAt, nodesAt_of_isLeaf hleaf]
  rfl

end Sums

end Tree

/-! ### Weights -/

instance : DecidableEq Event := fun a b => by
  cases a <;> cases b <;> simp only [Event.use.injEq, Event.declares.injEq, Event.opens.injEq, reduceCtorEq] <;>
    infer_instance

namespace Site

/-- **The weight of a site**: that of what happens there and below. -/
def weigh (φ : Event → Nat) (p : Site) : Nat :=
  (p.events.map φ).sum +
    (p.node.slots.attach.map fun x => (p.below x.1.1.key x.1.2).weigh φ).sum
termination_by p.node.height
decreasing_by exact Tree.height_lt_of_mem_children (Tree.mem_children_of_mem_slots x.2)

theorem weigh_eq (φ : Event → Nat) (p : Site) : p.weigh φ =
    (p.events.map φ).sum + (p.node.slots.map fun x => (p.below x.1.key x.2).weigh φ).sum := by
  have hattach := congrArg (List.map fun x => (p.below x.1.key x.2).weigh φ)
    (List.attach_map_subtype_val p.node.slots)
  rw [List.map_map] at hattach
  rw [weigh, ← hattach]
  rfl

/-- What happens at or below a site weighs something. -/
theorem weigh_pos {p : Site} {e : Event} :
    0 < p.weigh (fun e' => if e' = e then 1 else 0) ↔ ∃ q, Reaches p q ∧ e ∈ q.events := by
  induction hn : p.node.height using Nat.strongRecOn generalizing p with
  | _ n ih =>
    subst hn
    have below {x : Slot × Tree} (hx : x ∈ p.node.slots) :=
      ih _ (Tree.height_lt_of_mem_children (Tree.mem_children_of_mem_slots hx))
        (p := p.below x.1.key x.2) rfl
    rw [weigh_eq, Nat.add_pos_iff_pos_or_pos, List.sum_pos_iff_exists_pos_nat,
      List.sum_pos_iff_exists_pos_nat]
    constructor
    · rintro (⟨_, hm, hpos⟩ | ⟨_, hm, hpos⟩)
      · obtain ⟨e', he, rfl⟩ := List.mem_map.mp hm
        split at hpos
        · rename_i heq
          exact ⟨p, .refl p, heq ▸ he⟩
        · cases hpos
      · obtain ⟨x, hx, rfl⟩ := List.mem_map.mp hm
        obtain ⟨q, hq, he⟩ := (below hx).mp hpos
        exact ⟨q, .step hx hq, he⟩
    · rintro ⟨q, hq, he⟩
      cases hq with
      | refl => exact .inl ⟨_, List.mem_map_of_mem he, by simp⟩
      | step hx hq => exact .inr ⟨_, List.mem_map_of_mem hx, (below hx).mpr ⟨q, hq, he⟩⟩

/-- What weighs at most one at a node with a label, and nothing elsewhere, weighs no more than the
label occurs. -/
theorem weigh_le_count {φ : Event → Nat} {l : Nat}
    (h : ∀ p : Site, (p.events.map φ).sum ≤ if p.node.label = l then 1 else 0) (p : Site) :
    p.weigh φ ≤ (p.node.subtree.map Tree.label).count l := by
  induction hn : p.node.height using Nat.strongRecOn generalizing p with
  | _ n ih =>
    subst hn
    rw [weigh_eq, Tree.subtree_eq, List.map_cons, List.count_cons, Nat.add_comm, Tree.children,
      List.flatMap_map, List.map_flatMap, List.count_flatMap]
    have hle : (p.node.slots.map fun x => (p.below x.1.key x.2).weigh φ).sum ≤
        (p.node.slots.map fun x => (x.2.subtree.map Tree.label).count l).sum := by
      have hx : ∀ x ∈ p.node.slots, (p.below x.1.key x.2).weigh φ ≤
          (x.2.subtree.map Tree.label).count l := fun x hx =>
        ih _ (Tree.height_lt_of_mem_children (Tree.mem_children_of_mem_slots hx)) _ rfl
      revert hx
      generalize p.node.slots = slots
      intro hx
      induction slots with
      | nil => exact Nat.le_refl _
      | cons x rest ihr =>
        rw [List.map_cons, List.map_cons, List.sum_cons, List.sum_cons]
        exact Nat.add_le_add (hx x List.mem_cons_self) (ihr fun y hy => hx y (List.mem_cons_of_mem _ hy))
    refine Nat.add_le_add hle ?_
    simpa [beq_iff_eq] using h p

end Site

/-- The weight that counts what happens at the node with a label, but of the scopes that open there
only those of a kind. -/
def Event.atNode (l : Nat) (kind : String) : Event → Nat
  | .use label _ _ _ => if label = l then 1 else 0
  | .declares label _ _ _ => if label = l then 1 else 0
  | .opens frame => if frame = ⟨l, kind⟩ then 1 else 0

namespace Site

theorem nodup_openedKinds (p : Site) : p.openedKinds.Nodup := by
  unfold openedKinds
  repeat' split
  all_goals decide

theorem sum_opened_le (p : Site) (l : Nat) (kind : String) :
    ((p.opened.map Event.opens).map (Event.atNode l kind)).sum ≤ if p.node.label = l then 1 else 0 := by
  have hcount : ((p.opened.map Event.opens).map (Event.atNode l kind)).sum =
      if p.node.label = l then p.openedKinds.count kind else 0 := by
    rw [opened]
    induction p.openedKinds with
    | nil => simp
    | cons k rest ih =>
      simp only [List.map_cons, List.sum_cons, ih, Event.atNode, Frame.mk.injEq, List.count_cons,
        beq_iff_eq]
      by_cases hl : p.node.label = l
      · by_cases hk : k = kind <;> simp [hl, hk, Nat.add_comm]
      · simp [hl]
  rw [hcount]
  split
  · exact List.nodup_iff_count.mp p.nodup_openedKinds kind
  · exact Nat.le_refl _

/-- At a site there happens one thing at most, and to the node of the site. -/
theorem sum_events_le (l : Nat) (kind : String) (p : Site) :
    (p.events.map (Event.atNode l kind)).sum ≤ if p.node.label = l then 1 else 0 := by
  have single (e : Event) (h : e.atNode l kind = if p.node.label = l then 1 else 0) :
      ([e].map (Event.atNode l kind)).sum ≤ if p.node.label = l then 1 else 0 := by
    refine Nat.le_of_eq ?_
    rw [List.map_singleton, List.sum_singleton, h]
  unfold events
  dsimp only
  generalize hle : (if p.node.label = l then 1 else 0) = bound at *
  repeat' split
  all_goals first
    | exact Nat.zero_le _
    | exact single _ hle
    | exact hle ▸ sum_opened_le p l kind

/-- **Where labels tell nodes apart, what happens happens once.** -/
theorem weigh_le_one {p : Site} (h : p.node.Labelled) (l : Nat) (kind : String) :
    p.weigh (Event.atNode l kind) ≤ 1 :=
  Nat.le_trans (weigh_le_count (sum_events_le l kind) p) (List.nodup_iff_count.mp h l)

end Site

end Deminify
