import Mathlib.Data.List.Forall2
import Deminify.Document.Place
import Deminify.Proofs.Tree.Edit

/-!
# Places

The places of a tree are those of its nodes, in document order (`Deminify.Tree.node_placeAt`), and each
but the first tells which node holds it under which key (`Deminify.Tree.linked_placeAt`). What an edit at a place goes by is what `Deminify.Document.locate`
finds: a record of the document that holds the node of the place in a slot
(`Deminify.Document.exists_of_locate`).
-/

namespace Deminify

namespace Tree

/-! ### Slots -/

/-- **A record holds a value in a slot**: under the key, or in the list there. -/
def HoldsAt (t : Tree) (slot : Slot) (c : Tree) : Prop :=
  match slot.index with
  | none => (slot.key, c) ∈ t.fields
  | some i => ∃ items, (slot.key, .list items) ∈ t.fields ∧ items[i]? = some c

theorem HoldsAt.isObj {t c : Tree} {slot : Slot} (h : t.HoldsAt slot c) : t.isObj = true := by
  cases t with
  | obj l fields => rfl
  | _ =>
    rw [HoldsAt] at h
    split at h
    · cases h
    · obtain ⟨items, h, -⟩ := h
      cases h

theorem getElem?_of_mem_itemSlots {key : String} {start : Nat} {items : List Tree} {slot : Slot}
    {c : Tree} (h : (slot, c) ∈ itemSlots key start items) :
    c.isNode = true ∧ slot.key = key ∧ ∃ i, slot.index = some (start + i) ∧ items[i]? = some c := by
  induction items generalizing start with
  | nil => cases h
  | cons t rest ih =>
    have hrest (h : (slot, c) ∈ itemSlots key (start + 1) rest) :
        c.isNode = true ∧ slot.key = key ∧ ∃ i, slot.index = some (start + i) ∧ (t :: rest)[i]? = some c := by
      obtain ⟨hnode, hkey, i, hi, hc⟩ := ih h
      exact ⟨hnode, hkey, i + 1, by rw [hi, Nat.add_right_comm, Nat.add_assoc], hc⟩
    rw [itemSlots] at h
    split at h
    · rename_i ht
      rcases List.mem_cons.mp h with h | h
      · cases h
        exact ⟨ht, rfl, 0, rfl, rfl⟩
      · exact hrest h
    · exact hrest h

theorem holdsAt_of_mem_slots {t c : Tree} {slot : Slot} (h : (slot, c) ∈ t.slots) :
    t.HoldsAt slot c ∧ c.isNode = true ∧ holdsChildren slot.key = true := by
  rw [slots] at h
  obtain ⟨⟨key, value⟩, hf, h⟩ := List.mem_flatMap.mp h
  replace h : (slot, c) ∈ fieldSlots key value := h
  unfold fieldSlots at h
  split at h
  · rename_i hkey
    split at h
    · obtain ⟨hnode, rfl, i, hi, hc⟩ := getElem?_of_mem_itemSlots h
      refine ⟨?_, hnode, hkey⟩
      rw [HoldsAt, hi]
      exact ⟨_, hf, by rwa [Nat.zero_add]⟩
    · split at h
      · rename_i hnode
        cases List.mem_singleton.mp h
        exact ⟨hf, hnode, hkey⟩
      · cases h
  · cases h

theorem isObj_of_label? {t : Tree} {l : Nat} (h : t.label? = some l) : t.isObj = true ∧ t.label = l := by
  cases t with
  | obj l' fields =>
    cases h
    exact ⟨rfl, rfl⟩
  | _ => cases h

theorem holdsAt_of_heldAt? {t : Tree} {key : String} {label : Nat} {slot : Slot}
    (h : t.heldAt? key label = some slot) :
    slot.key = key ∧ ∃ c, t.HoldsAt slot c ∧ c.isObj = true ∧ c.label = label := by
  rw [heldAt?] at h
  split at h
  · rename_i items hget
    obtain ⟨i, hi, rfl⟩ := Option.map_eq_some_iff.mp h
    obtain ⟨hlt, hlabel, -⟩ := List.findIdx?_eq_some_iff_getElem.mp hi
    obtain ⟨hobj, hl⟩ := isObj_of_label? (beq_iff_eq.mp hlabel)
    exact ⟨rfl, items[i], ⟨items, mem_of_lookup hget, List.getElem?_eq_getElem hlt⟩, hobj, hl⟩
  · rename_i other _ hget
    split at h
    · rename_i hlabel
      cases h
      obtain ⟨hobj, hl⟩ := isObj_of_label? (beq_iff_eq.mp hlabel)
      exact ⟨rfl, other, mem_of_lookup hget, hobj, hl⟩
    · cases h
  · cases h

/-- Only records have records below them. -/
theorem isObj_of_mem_subtree {t r : Tree} (h : r ∈ t.subtree) (hr : r.isObj = true) : t.isObj = true := by
  cases t with
  | obj l fields => rfl
  | _ =>
    cases List.mem_singleton.mp h
    exact hr

/-! ### The places of a tree -/

/-- **A node holds a child under a key.** -/
def HoldsUnder (t : Tree) (key : String) (c : Tree) : Prop :=
  c.isNode = true ∧ holdsChildren key = true ∧ ∃ v, (key, v) ∈ t.fields ∧ (c = v ∨ c ∈ v.items)

/-- A place is that of a node: it tells under which key which of the nodes holds it. -/
def Linked (all : List Tree) (place : Place) (n : Tree) : Prop :=
  place.node = n.label ∧ ∃ j key p, place.parent = some j ∧ place.key = some key ∧ all[j]? = some p ∧ p.HoldsUnder key n

theorem Linked.append {all : List Tree} {place : Place} {n : Tree} (h : Linked all place n) (more : List Tree) :
    Linked (all ++ more) place n := by
  obtain ⟨hnode, j, key, p, hparent, hkey, hp, hheld⟩ := h
  exact ⟨hnode, j, key, p, hparent, hkey, by rw [List.getElem?_append_left (List.getElem?_eq_some_iff.mp hp).1, hp], hheld⟩

/-- The places of nodes have been added, in order, to those of the nodes before. -/
def Noted (before nodes : List Tree) (found places : Array Place) : Prop :=
  before.length = found.size →
    ∃ more : List Place, places.toList = found.toList ++ more ∧ List.Forall₂ (Linked (before ++ nodes)) more nodes

theorem Noted.refl (before : List Tree) (found : Array Place) : Noted before [] found found :=
  fun _ => ⟨[], (List.append_nil _).symm, .nil⟩

theorem Noted.trans {before nodes nodes' : List Tree} {found mid places : Array Place}
    (h : Noted before nodes found mid) (h' : Noted (before ++ nodes) nodes' mid places) :
    Noted before (nodes ++ nodes') found places := by
  intro hsize
  obtain ⟨more, hmid, hlinked⟩ := h hsize
  have hlength := congrArg List.length hmid
  rw [List.length_append, Array.length_toList, Array.length_toList] at hlength
  obtain ⟨more', hplaces, hlinked'⟩ := h' (by rw [List.length_append, hsize, hlength, hlinked.length_eq])
  refine ⟨more ++ more', by rw [hplaces, hmid, List.append_assoc], List.rel_append ?_ ?_⟩
  · exact hlinked.imp fun place n hn => by rw [← List.append_assoc]; exact hn.append nodes'
  · rwa [List.append_assoc] at hlinked'

theorem noted_placesFields {before : List Tree} {p : Tree} {parent : Nat} {fields : List (String × Tree)}
    (h : ∀ f ∈ fields, ∀ before found, before[parent]? = some p → holdsChildren f.1 = true →
      Noted before (subtreeValue f.2) found (placesValue parent f.1 f.2 found))
    (hp : before[parent]? = some p) (found : Array Place) :
    Noted before (subtreeFields fields) found (placesFields parent fields found) := by
  induction fields generalizing before found with
  | nil => exact .refl before found
  | cons f rest ih =>
    rw [subtreeFields, placesFields]
    refine Noted.trans ?_ (ih (fun g hg => h g (List.mem_cons_of_mem _ hg)) ?_ _)
    · split
      · rename_i hkey
        exact h f List.mem_cons_self before found hp hkey
      · exact .refl before found
    · rw [List.getElem?_append_left (List.getElem?_eq_some_iff.mp hp).1, hp]

/-- The places of a node and of what is below it. -/
theorem noted_placesNode {before : List Tree} {p : Tree} {parent l : Nat} {fields : List (String × Tree)}
    (h : ∀ f ∈ fields, ∀ before parent found, before[parent]? = some (obj l fields) → holdsChildren f.1 = true →
      Noted before (subtreeValue f.2) found (placesValue parent f.1 f.2 found)) {key : String}
    (hp : before[parent]? = some p) (hheld : p.HoldsUnder key (obj l fields)) (index : Option Nat)
    (found : Array Place) : Noted before (obj l fields :: subtreeFields fields) found
      (placesFields found.size fields (found.push ⟨l, some parent, some key, index⟩)) := by
  intro hsize
  have hself : Noted before [obj l fields] found (found.push ⟨l, some parent, some key, index⟩) := fun _ =>
    ⟨[_], Array.toList_push, .cons ⟨rfl, parent, key, p, rfl, rfl,
      by rw [List.getElem?_append_left (List.getElem?_eq_some_iff.mp hp).1, hp], hheld⟩ .nil⟩
  refine hself.trans (noted_placesFields (fun f hf before found => h f hf before _ found) ?_ _) hsize
  rw [← hsize, List.getElem?_concat_length]

/-- The places below a value are noted, and so are those below an item. -/
theorem noted_places (t : Tree) {before : List Tree} {p : Tree} {parent : Nat} {key : String} {v : Tree}
    (hp : before[parent]? = some p) (hkey : holdsChildren key = true) (hv : (key, v) ∈ p.fields) (found : Array Place) :
    (t = v → Noted before (subtreeValue t) found (placesValue parent key t found)) ∧
      (t ∈ v.items → ∀ start, Noted before (subtreeItem t) found (placesItem parent key start t found)) := by
  induction t using Tree.induction generalizing before p parent key v found with
  | leaf t ht =>
    cases t <;> first | exact ⟨fun _ => .refl _ found, fun _ _ => .refl _ found⟩ | simp [isLeaf] at ht
  | list items ih =>
    refine ⟨fun heq => ?_, fun _ _ => .refl _ found⟩
    rw [subtreeValue, placesValue]
    -- the items that are left are items of the value
    have hitems : ∀ t ∈ items, t ∈ v.items := fun t ht => by rw [← heq]; exact ht
    clear heq
    generalize 0 = start
    induction items generalizing start before found with
    | nil => exact .refl _ found
    | cons t rest ihr =>
      obtain ⟨ht, hrest⟩ := List.forall_mem_cons.mp hitems
      rw [subtreeItems, placesItems]
      refine ((ih t List.mem_cons_self hp hkey hv found).2 ht start).trans
        (ihr (fun u hu => ih u (List.mem_cons_of_mem _ hu)) ?_ _ hrest _)
      rw [List.getElem?_append_left (List.getElem?_eq_some_iff.mp hp).1, hp]
  | obj l fields ih =>
    have hfields (f : String × Tree) (hf : f ∈ fields) (before : List Tree) (parent : Nat) (found : Array Place)
        (hp : before[parent]? = some (obj l fields)) (hkey : holdsChildren f.1 = true) :
        Noted before (subtreeValue f.2) found (placesValue parent f.1 f.2 found) :=
      (ih f hf hp hkey hf found).1 rfl
    rw [subtreeValue, placesValue]
    constructor
    · intro heq
      split
      · rename_i hnode
        exact noted_placesNode hfields hp ⟨hnode, hkey, v, hv, .inl heq⟩ none found
      · exact .refl _ found
    · intro hmem start
      rw [subtreeItem, placesItem]
      split
      · rename_i hnode
        exact noted_placesNode hfields hp ⟨hnode, hkey, v, hv, .inr hmem⟩ (some start) found
      · exact .refl _ found

theorem exists_places (t : Tree) : ∃ more, t.places.toList = ⟨t.label, none, none, none⟩ :: more ∧
    List.Forall₂ (Linked t.subtree) more (subtreeFields t.fields) :=
  @noted_placesFields [t] _ _ _ (fun f hf _ found hp hkey => (noted_places f.2 hp hkey hf found).1 rfl) rfl _ rfl

/-- **Every node but the root is noted with its parent.** -/
theorem linked_placeAt {t n : Tree} {i : Nat} (h : t.subtree[i + 1]? = some n) :
    Linked t.subtree (Document.placeAt t.places (i + 1)) n := by
  obtain ⟨more, hplaces, hlinked⟩ := exists_places t
  rw [subtree, List.getElem?_cons_succ] at h
  obtain ⟨hi, rfl⟩ := List.getElem?_eq_some_iff.mp h
  have hi' : i < more.length := hlinked.length_eq ▸ hi
  rw [Document.placeAt, ← Array.getElem?_toList, hplaces, List.getElem?_cons_succ, List.getElem?_eq_getElem hi',
    Option.getD_some]
  exact hlinked.get hi' hi

/-- **The places of a tree are those of its nodes**, in document order. -/
theorem node_placeAt {t n : Tree} {i : Nat} (h : t.subtree[i]? = some n) :
    (Document.placeAt t.places i).node = n.label := by
  cases i with
  | zero =>
    obtain ⟨more, hplaces, -⟩ := exists_places t
    cases h
    rw [Document.placeAt, ← Array.getElem?_toList, hplaces]
    rfl
  | succ i => exact (linked_placeAt h).1

/-- Nodes are under keys that can hold children. -/
theorem key_placeAt_ne (t : Tree) (i : Nat) : (Document.placeAt t.places i).key ≠ some "type" := by
  obtain ⟨more, hplaces, hlinked⟩ := exists_places t
  rw [Document.placeAt, ← Array.getElem?_toList, hplaces]
  cases i with
  | zero => exact nofun
  | succ i =>
    rw [List.getElem?_cons_succ]
    cases hi : more[i]? with
    | none => exact nofun
    | some place =>
      obtain ⟨hlt, rfl⟩ := List.getElem?_eq_some_iff.mp hi
      obtain ⟨-, j, key, p, -, hkey, -, -, hchildren, -⟩ := hlinked.get hlt (hlinked.length_eq ▸ hlt)
      replace hkey : more[i].key = some key := hkey
      rw [Option.getD_some, hkey]
      rintro h
      cases h
      cases hchildren

end Tree

namespace Document

variable {d : Document} {places : Array Place} {i : Nat}

theorem exists_of_nodeAt {j : Nat} (h : (d.nodeAt places j).isObj = true) :
    ∃ label, d.find? label = some (d.nodeAt places j) := by
  refine ⟨(placeAt places j).node, ?_⟩
  rw [nodeAt, Document.get] at h ⊢
  cases hf : d.find? (placeAt places j).node with
  | none => simp [hf, Tree.isObj] at h
  | some r => rfl

/-- **What is located holds the node of the place.** -/
theorem exists_of_locate {owner : Nat} {slot : Slot} (h : d.locate places i = .ok (owner, slot)) :
    ∃ label found r c, d.find? label = some found ∧ r ∈ found.records ∧ r.label = owner ∧
      r.HoldsAt slot c ∧ c.isObj = true ∧ c.label = (placeAt places i).node ∧
        (slot.key = (placeAt places i).key.getD "" ∨ Tree.holdsChildren slot.key = true) := by
  rw [locate, parentAt] at h
  cases hparent : (placeAt places i).parent with
  | none =>
    rw [hparent] at h
    cases h
  | some j =>
    rw [hparent, Option.map_some] at h
    dsimp only at h
    split at h
    · rename_i held hheld
      cases h
      obtain ⟨hkey, c, hholds, hobj, hl⟩ := Tree.holdsAt_of_heldAt? hheld
      have hparentObj := hholds.isObj
      obtain ⟨label, hfind⟩ := exists_of_nodeAt hparentObj
      exact ⟨label, _, _, c, hfind, Tree.mem_records_self hparentObj, rfl, hholds, hobj, hl, .inl hkey⟩
    · split at h
      · rename_i found hfound
        cases h
        obtain ⟨t, ht, hslot⟩ := List.exists_of_findSome?_eq_some hfound
        obtain ⟨slot', hslot', heq⟩ := Option.map_eq_some_iff.mp hslot
        cases heq
        obtain ⟨⟨_, c⟩, hfind, rfl⟩ := Option.map_eq_some_iff.mp hslot'
        obtain ⟨hholds, hnode, hkey⟩ := Tree.holdsAt_of_mem_slots (List.mem_of_find?_eq_some hfind)
        have hl : (c.label == (placeAt places i).node) = true := by simpa using List.find?_some hfind
        have hparentObj := Tree.isObj_of_mem_subtree ht hholds.isObj
        obtain ⟨label, hfind⟩ := exists_of_nodeAt hparentObj
        exact ⟨label, _, t, c, hfind, Tree.subtree_subset_records hparentObj ht, rfl, hholds,
          Tree.isObj_of_isNode hnode, beq_iff_eq.mp hl, .inr hkey⟩
      · cases h

end Document

end Deminify
