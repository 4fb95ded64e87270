import Mathlib.Logic.Relation
import Deminify.Proofs.Document.Identity
import Deminify.Rule.Context

/-!
# Places that stay good

The place of a node says where the node was found. Whatever is done at other places, **it leads to the one slot below its
parent that holds the node now**, and an edit there changes that slot and no other; if the node is not below its parent
any more, the edit is refused and nothing changes (`Deminify.Walks.places_stay_good`).

The places are those of walks, each from any node and at any time (`Deminify.Walks`). Between two walks nodes are
replaced, taken out, put in and wrapped (`Deminify.Walks.Step`), and what is kept by each of these steps is that labels
tell the records apart (`Deminify.Document.Distinct`) and that each place notes a node that the document still knows
(`Deminify.Document.Noted`).
-/

namespace Deminify

/-- What is done at a place. -/
inductive Amendment where
  /-- Another node takes the place of the node. -/
  | replace (new : Tree)
  /-- The node goes. -/
  | remove
  /-- Nodes are put in front of the node. -/
  | before (nodes : List Tree)
  /-- Nodes are put behind the node. -/
  | after (nodes : List Tree)

namespace Amendment

variable {a : Amendment} {r c : Tree} {slot : Slot}

/-- What stands where the node stood. -/
def instead (c : Tree) : Amendment → List Tree
  | replace new => [new]
  | remove => []
  | before nodes => nodes ++ [c]
  | after nodes => c :: nodes

/-- Whether it can be done in a slot: next to a node there is room in a list only. -/
def suits (slot : Slot) : Amendment → Bool
  | replace _ | remove => true
  | before _ | after _ => slot.index.isSome

/-- The record whose slot held the node. -/
def change (slot : Slot) (t : Tree) : Amendment → Tree
  | replace new => t.setSlot slot new
  | remove => t.clearSlot slot
  | before nodes => t.insertAt slot.key (slot.index.getD 0) nodes
  | after nodes => t.insertAt slot.key (slot.index.getD 0 + 1) nodes

/-- The field with the slot that held the node. -/
def value (slot : Slot) (v : Tree) : Amendment → Tree
  | replace new =>
    match slot.index with
    | none => new
    | some i => .list (v.items.set i new)
  | remove =>
    match slot.index with
    | none => .null
    | some i => .list (v.items.eraseIdx i)
  | before nodes => .list (v.items.take (slot.index.getD 0) ++ nodes ++ v.items.drop (slot.index.getD 0))
  | after nodes => .list (v.items.take (slot.index.getD 0 + 1) ++ nodes ++ v.items.drop (slot.index.getD 0 + 1))

/-- The node is kept when it goes. -/
def kept (c : Tree) : Amendment → List Tree
  | replace _ | remove => [c]
  | before _ | after _ => []

/-- What the places note of it. -/
def noted (places : Array Place) (i : Nat) : Amendment → Array Place
  | replace new => places.modify i fun place => { place with node := new.label }
  | remove | before _ | after _ => places

theorem change_eq (a : Amendment) (slot : Slot) (t : Tree) :
    a.change slot t = t.set slot.key (a.value slot (t.get slot.key)) := by
  obtain ⟨key, index⟩ := slot
  cases a with
  | replace new => cases index <;> rfl
  | remove => cases index <;> rfl
  | _ => rfl

/-- **An edit puts nodes where the node was** and leaves the rest of the field as it was. -/
theorem exists_parts (hslot : (slot, c) ∈ r.slots) (hd : Tree.DistinctKeys r.fields) (hs : a.suits slot = true)
    (hnode : ∀ n ∈ a.instead c, n.isNode = true) : ∃ before after, (r.get slot.key).parts = before ++ c :: after ∧
      (a.value slot (r.get slot.key)).parts = before ++ a.instead c ++ after := by
  obtain ⟨hholds, hc, hkey⟩ := Tree.holdsAt_of_mem_slots hslot
  have hget {v : Tree} (hv : (slot.key, v) ∈ r.fields) : r.get slot.key = v := by
    rw [Tree.get, Tree.get?, hd.lookup (Tree.isShapeKey_of_holdsChildren hkey) hv, Option.getD_some]
  obtain ⟨key, index⟩ := slot
  cases index with
  | none =>
    rw [hget hholds]
    refine ⟨[], [], Tree.parts_of_isNode hc, ?_⟩
    cases a with
    | replace new => exact Tree.parts_of_isNode (hnode new List.mem_cons_self)
    | remove => rfl
    | _ => cases hs
  | some i =>
    obtain ⟨items, hv, hi⟩ := hholds
    obtain ⟨hlt, rfl⟩ := List.getElem?_eq_some_iff.mp hi
    rw [hget hv]
    have hsplit : items = items.take i ++ items[i] :: items.drop (i + 1) := by
      rw [List.getElem_cons_drop, List.take_append_drop]
    refine ⟨items.take i, items.drop (i + 1), hsplit, ?_⟩
    cases a with
    | replace new =>
      show items.set i new = _
      rw [List.set_eq_take_append_cons_drop, if_pos hlt]
      simp [instead]
    | remove =>
      show items.eraseIdx i = _
      rw [List.eraseIdx_eq_take_drop_succ]
      simp [instead]
    | before nodes =>
      show items.take i ++ nodes ++ items.drop i = _
      rw [← List.getElem_cons_drop hlt]
      simp [instead]
    | after nodes =>
      show items.take (i + 1) ++ nodes ++ items.drop (i + 1) = _
      rw [List.take_succ_eq_append_getElem hlt]
      simp only [instead, List.append_assoc, List.cons_append, List.nil_append]

end Amendment

namespace Tree

variable {t r c n x : Tree} {slot : Slot} {label l : Nat} {key k : String} {value : Tree}

/-! ### What holds a node -/

/-- **Whether a node of a tree holds another in a slot.** -/
def Holds (t owner : Tree) (slot : Slot) (c : Tree) : Prop := owner ∈ t.subtree ∧ (slot, c) ∈ owner.slots

/-- **Where labels tell the nodes of a tree apart, a label is held in one slot.** -/
theorem Holds.unique {owner owner' c' : Tree} {slot' : Slot} (hd : (t.subtree.map Tree.label).Nodup)
    (h : t.Holds owner slot c) (h' : t.Holds owner' slot' c') (hl : c.label = c'.label) : owner = owner' ∧ slot = slot' := by
  let held (t : Tree) : List (Tree × Slot × Tree) := t.subtree.flatMap fun o => o.slots.map fun x => (o, x)
  have hlabels : (held t).map (fun x => x.2.2.label) = (t.subtree.flatMap children).map Tree.label := by
    rw [List.map_flatMap, List.map_flatMap]
    refine List.flatMap_congr fun o _ => ?_
    rw [children, List.map_map, List.map_map]
    rfl
  have hnodup : ((held t).map fun x => x.2.2.label).Nodup := by
    rw [hlabels]
    have hall := ((subtree_perm t).map Tree.label).nodup_iff.mpr hd
    exact (List.nodup_cons.mp hall).2
  have hin : (owner, slot, c) ∈ held t := List.mem_flatMap.mpr ⟨owner, h.1, List.mem_map_of_mem h.2⟩
  have hin' : (owner', slot', c') ∈ held t := List.mem_flatMap.mpr ⟨owner', h'.1, List.mem_map_of_mem h'.2⟩
  have heq := List.inj_on_of_nodup_map hnodup hin hin' hl
  exact ⟨congrArg Prod.fst heq, congrArg (·.2.1) heq⟩

theorem mem_itemSlots_of_getElem? {start i : Nat} {items : List Tree} (hn : c.isNode = true) (hi : items[i]? = some c) :
    (⟨key, some (start + i)⟩, c) ∈ itemSlots key start items := by
  induction items generalizing start i with
  | nil => cases hi
  | cons t rest ih =>
    cases i with
    | zero =>
      cases hi
      rw [itemSlots, if_pos hn]
      exact List.mem_cons_self
    | succ i =>
      have hin : (⟨key, some (start + 1 + i)⟩, c) ∈ itemSlots key (start + 1) rest := ih hi
      rw [Nat.add_right_comm, Nat.add_assoc] at hin
      rw [itemSlots]
      split
      · exact List.mem_cons_of_mem _ hin
      · exact hin

/-- A node that is held under a key for children is a child. -/
theorem HoldsAt.mem_slots (h : t.HoldsAt slot c) (hn : c.isNode = true) (hkey : holdsChildren slot.key = true) :
    (slot, c) ∈ t.slots := by
  obtain ⟨key, index⟩ := slot
  cases index with
  | none =>
    refine mem_slots_iff.mpr ⟨c, h, ?_⟩
    unfold fieldSlots
    rw [if_pos hkey]
    cases c with
    | obj l fields => simp [hn]
    | _ => cases hn
  | some i =>
    obtain ⟨items, hv, hi⟩ := h
    refine mem_slots_iff.mpr ⟨.list items, hv, ?_⟩
    unfold fieldSlots
    rw [if_pos hkey]
    have hin := @mem_itemSlots_of_getElem? c key 0 i items hn hi
    rwa [Nat.zero_add] at hin

theorem HoldsAt.records_subset (h : t.HoldsAt slot c) : c.records ⊆ t.records := by
  obtain ⟨key, index⟩ := slot
  cases index with
  | none => exact records_subset_of_mem_fields h
  | some i =>
    obtain ⟨items, hv, hi⟩ := h
    refine fun x hx => records_subset_of_mem_fields hv ?_
    rw [records, recordsItems_eq]
    exact List.mem_flatMap.mpr ⟨c, List.mem_of_getElem? hi, hx⟩

/-! ### What a record shows of itself -/

mutual

/-- A value in which records are shown by their labels alone. -/
def bare (t : Tree) : Tree :=
  match t with
  | .list items => .list (bareItems items)
  | .obj label _ => .obj label []
  | other => other
termination_by structural t

/-- The items, with records shown by their labels alone. -/
def bareItems (items : List Tree) : List Tree :=
  match items with
  | [] => []
  | t :: rest => t.bare :: bareItems rest
termination_by structural items

end

theorem bareItems_eq (items : List Tree) : bareItems items = items.map bare := by
  induction items with
  | nil => rfl
  | cons t rest ih => rw [bareItems, ih, List.map_cons]

/-- **The fields of a record**, with the records in them shown by their labels. -/
def surface (t : Tree) : List (String × Tree) := t.fields.map fun f => (f.1, f.2.bare)

theorem bare_setAt (t : Tree) : (t.setAt label key value).bare = t.bare := by
  induction t using Tree.induction with
  | leaf t ht => rw [setAt_of_not_mem (by simp [labels_of_isLeaf ht])]
  | list items ih =>
    rw [setAt, edit, editItems_eq, bare, bare, bareItems_eq, bareItems_eq, List.map_map]
    exact congrArg list (List.map_congr_left ih)
  | obj l fields _ =>
    rw [setAt, edit]
    split <;> rfl

/-- **A record whose fields are not set shows the same** as before. -/
theorem surface_setAt (hl : t.label ≠ label) : (t.setAt label key value).surface = t.surface := by
  cases t with
  | obj l fields =>
    rw [label_obj] at hl
    rw [setAt, edit, if_neg hl, surface, surface, fields_obj, fields_obj, editFields_eq, List.map_map]
    exact List.map_congr_left fun f _ => Prod.ext rfl (bare_setAt f.2)
  | _ => rfl

/-- The children of a record of which a field is set. -/
theorem exists_children_set (ht : t.isObj = true) (hkey : holdsChildren key = true) : ∃ before after,
    t.children = before ++ (t.get key).parts.filter isNode ++ after ∧
      (t.set key value).children = before ++ value.parts.filter isNode ++ after := by
  cases t with
  | obj l fields =>
    clear ht
    have hchildren (fields : List (String × Tree)) : (obj l fields).children =
        fields.flatMap fun f => (fieldSlots f.1 f.2).map (·.2) := by
      rw [children, slots, fields_obj, List.map_flatMap]
    rw [set, hchildren, hchildren, get, get?_obj]
    induction fields with
    | nil => exact ⟨[], [], rfl, by simp [putKey, map_fieldSlots hkey]⟩
    | cons f rest ih =>
      obtain ⟨k, v⟩ := f
      rw [putKey, lookup_cons_ite]
      by_cases hk : k = key
      · subst hk
        rw [if_pos rfl, if_pos rfl, Option.getD_some, List.flatMap_cons, List.flatMap_cons, map_fieldSlots hkey,
          map_fieldSlots hkey]
        exact ⟨[], _, rfl, rfl⟩
      · obtain ⟨before, after, hold, hnew⟩ := ih
        rw [if_neg hk, if_neg (Ne.symm hk), List.flatMap_cons, List.flatMap_cons, hold, hnew]
        exact ⟨(fieldSlots k v).map (·.2) ++ before, after, by simp, by simp⟩
  | _ => cases ht

end Tree

namespace Document

variable {d d' : Document} {places : Array Place} {i j : Nat} {a : Amendment} {r owner c n : Tree} {slot : Slot}

/-! ### Edits at places -/

/-- What is done at a place, and what the places note of it. -/
def amendAt (d : Document) (places : Array Place) (i : Nat) : Amendment → Except Failure (Document × Array Place)
  | .replace new => d.replaceAt places i new
  | .remove => return (← d.removeAt places i, places)
  | .before nodes => return (← d.insertBeforeAt places i nodes, places)
  | .after nodes => return (← d.insertAfterAt places i nodes, places)

/-- The document in which a node that was held in a slot has been dealt with. -/
def amended (d : Document) (owner : Nat) (slot : Slot) (c : Tree) (a : Amendment) : Document :=
  let edited := d.edit owner (a.change slot ·)
  { edited with loose := edited.loose ++ a.kept c }

theorem amendAt_of_locate {owner : Nat} (h : d.locate places i = .ok (owner, slot)) (hs : a.suits slot = true) :
    d.amendAt places i a = .ok (d.amended owner slot (d.nodeAt places i) a, a.noted places i) := by
  obtain ⟨key, index⟩ := slot
  cases a with
  | replace new =>
    rw [amendAt, replaceAt, h]
    rfl
  | remove =>
    rw [amendAt, removeAt, h]
    rfl
  | before nodes =>
    cases index with
    | none => cases hs
    | some k =>
      rw [amendAt, insertBeforeAt, h]
      show Except.ok _ = Except.ok _
      simp [amended, Amendment.kept, Amendment.change, Amendment.noted]
  | after nodes =>
    cases index with
    | none => cases hs
    | some k =>
      rw [amendAt, insertAfterAt, h]
      show Except.ok _ = Except.ok _
      simp [amended, Amendment.kept, Amendment.change, Amendment.noted]

theorem amendAt_of_not_suits {owner : Nat} (h : d.locate places i = .ok (owner, slot)) (hs : a.suits slot = false) :
    ∃ f, d.amendAt places i a = .error f ∧ f.kind = "ValueError" := by
  obtain ⟨key, index⟩ := slot
  cases a with
  | replace new => cases hs
  | remove => cases hs
  | before nodes =>
    cases index with
    | none =>
      rw [amendAt, insertBeforeAt, h]
      exact ⟨_, rfl, rfl⟩
    | some k => cases hs
  | after nodes =>
    cases index with
    | none =>
      rw [amendAt, insertAfterAt, h]
      exact ⟨_, rfl, rfl⟩
    | some k => cases hs

theorem amendAt_of_error {f : Failure} (h : d.locate places i = .error f) : d.amendAt places i a = .error f := by
  cases a with
  | replace new =>
    rw [amendAt, replaceAt, h]
    rfl
  | remove =>
    rw [amendAt, removeAt, h]
    rfl
  | before nodes =>
    rw [amendAt, insertBeforeAt, h]
    rfl
  | after nodes =>
    rw [amendAt, insertAfterAt, h]
    rfl

section Amended

variable (hd : d.Distinct) (hr : r ∈ d.nodes) (hslot : (slot, c) ∈ r.slots) (hs : a.suits slot = true)
  (ht : d.Takes c (a.instead c))

include hd hr hslot hs ht

/-- **Dealing with a node exchanges it**, in the field that holds it. -/
theorem swaps : d.Swaps r slot.key (a.value slot (r.get slot.key)) c (a.instead c) (a.kept c) where
  mem := hr
  holds := (Tree.holdsAt_of_mem_slots hslot).2.2
  isNode := (Tree.holdsAt_of_mem_slots hslot).2.1
  parts := a.exists_parts hslot (hd.keys r hr) hs ht.isNode
  takes := ht
  kept_eq t ht := by
    cases a <;> first | exact List.mem_singleton.mp ht | cases ht
  stays := by
    have hself := Tree.mem_subtree_self c
    cases a with
    | replace _ => exact .inl List.mem_cons_self
    | remove => exact .inl List.mem_cons_self
    | before nodes => exact .inr (List.mem_flatMap.mpr ⟨c, List.mem_append_right _ List.mem_cons_self, hself⟩)
    | after nodes => exact .inr (List.mem_flatMap.mpr ⟨c, List.mem_cons_self, hself⟩)

end Amended

/-- In a distinct document a change of a slot sets the field of one record. -/
theorem edit_eq_set (hd : d.Distinct) (hr : r ∈ d.nodes) (a : Amendment) (slot : Slot) :
    d.edit r.label (a.change slot ·) = d.set r.label slot.key (a.value slot (r.get slot.key)) := by
  have hr := hd.mem_records hr
  have hedit {t : Tree} (ht : t ∈ d.values) : t.edit r.label (a.change slot ·) =
      t.setAt r.label slot.key (a.value slot (r.get slot.key)) :=
    Tree.edit_eq_setAt (hd.flat ht r.label) fun x hx hl => by
      rw [hd.one x (List.mem_flatMap.mpr ⟨t, ht, hx⟩) r hr hl]
      exact a.change_eq slot r
  have hloose : d.loose.map (Tree.edit r.label (a.change slot ·)) =
      d.loose.map (·.setAt r.label slot.key (a.value slot (r.get slot.key))) :=
    List.map_congr_left fun t ht => hedit (List.mem_cons_of_mem _ ht)
  rw [edit, set, edit, hedit List.mem_cons_self, hloose]
  rfl

theorem amended_eq (hd : d.Distinct) (hr : r ∈ d.nodes) : d.amended r.label slot c a =
    d.swapped r slot.key (a.value slot (r.get slot.key)) (a.kept c) := by
  rw [amended, swapped, edit_eq_set hd hr]

/-- **What an edit does**: the node in the slot of the owner has been dealt with, and nothing else has changed. -/
structure Acts (d d' : Document) (r : Tree) (slot : Slot) (c : Tree) (a : Amendment) : Prop where
  /-- The owner is what it was, with its one slot changed. -/
  owner : d'.get r.label = a.change slot r
  /-- Its other fields are what they were. -/
  field : ∀ key, key ≠ slot.key → (a.change slot r).get? key = r.get? key
  /-- Its other children are what they were. -/
  children : ∃ before after, r.children = before ++ c :: after ∧
    (a.change slot r).children = before ++ a.instead c ++ after
  /-- Every other record has the fields that it had. -/
  other : ∀ x ∈ d.records, x.label ≠ r.label → (d'.get x.label).label = x.label ∧ (d'.get x.label).surface = x.surface
  /-- The new nodes have come in as they are. -/
  new : ∀ n ∈ (a.instead c).flatMap Tree.subtree, d'.get n.label = n
  /-- The tree starts where it started. -/
  root : d'.root.label = d.root.label ∧ d'.get d.root.label = d'.root

/-- **An edit acts on the one slot.** -/
theorem acts_amended (hd : d.Distinct) (hr : r ∈ d.nodes) (hslot : (slot, c) ∈ r.slots) (hs : a.suits slot = true)
    (ht : d.Takes c (a.instead c)) : d.Acts (d.amended r.label slot c a) r slot c a := by
  have hswaps := swaps hd hr hslot hs ht
  have hrec := hd.mem_records hr
  have hobj := hswaps.isObj hd
  have hd' := hswaps.distinct hd
  rw [amended_eq hd hr]
  refine ⟨?_, fun key hkey => ?_, ?_, fun x hx hl => ?_, fun n hn => ?_, ?_⟩
  · rw [hswaps.get_label hd hrec, hd.setAt_self hrec, a.change_eq]
  · rw [a.change_eq, Tree.get?_set hobj, if_neg hkey]
  · obtain ⟨before, after, hold, hnew⟩ := hswaps.parts
    obtain ⟨first, last, hchildren, hset⟩ := @Tree.exists_children_set _ _ (a.value slot (r.get slot.key)) hobj
      hswaps.holds
    have hinstead : (a.instead c).filter Tree.isNode = a.instead c := List.filter_eq_self.mpr ht.isNode
    refine ⟨first ++ before.filter Tree.isNode, after.filter Tree.isNode ++ last, ?_, ?_⟩
    · rw [hchildren, hold, List.filter_append, List.filter_cons_of_pos hswaps.isNode]
      simp only [List.append_assoc, List.cons_append]
    · rw [a.change_eq, hset, hnew, List.filter_append, List.filter_append, hinstead]
      simp only [List.append_assoc]
  · rw [hswaps.get_label hd hx, Tree.label_setAt]
    exact ⟨rfl, Tree.surface_setAt hl⟩
  · refine hd'.get_label (hswaps.mem_records_value hd (hswaps.mem_records_new ?_))
    obtain ⟨w, hw, hn⟩ := List.mem_flatMap.mp hn
    exact List.mem_flatMap.mpr ⟨w, hw, Tree.subtree_subset_records (Tree.isObj_of_isNode (ht.isNode w hw)) hn⟩
  · have hroot : (d.swapped r slot.key (a.value slot (r.get slot.key)) (a.kept c)).root =
        d.root.setAt r.label slot.key (a.value slot (r.get slot.key)) := rfl
    have hin : d.root ∈ d.records := hd.mem_records (List.mem_flatMap.mpr
      ⟨d.root, List.mem_cons_self, Tree.mem_subtree_self d.root⟩)
    rw [hroot, Tree.label_setAt]
    exact ⟨rfl, hswaps.get_label hd hin⟩

/-! ### The places of walks -/

/-- **Whether places note nodes that are known**, each but the first with the place of its parent. -/
structure Noted (d : Document) (places : Array Place) : Prop where
  node : ∀ j < places.size, (placeAt places j).node ∈ d.nodes.map Tree.label
  parent : ∀ i, 0 < i → i < places.size → ∃ j, (placeAt places i).parent = some j
  bound : ∀ i j, (placeAt places i).parent = some j → i < places.size ∧ j < places.size
  key : ∀ i, Tree.holdsChildren ((placeAt places i).key.getD "") = true

/-- **The places of a walk note its nodes.** -/
theorem noted_places (hn : n ∈ d.nodes) : d.Noted n.places := by
  have hsize : n.places.size = n.subtree.length := by
    obtain ⟨more, hplaces, hlinked⟩ := Tree.exists_places n
    rw [← Array.length_toList, hplaces, List.length_cons, hlinked.length_eq, Tree.subtree, List.length_cons]
  obtain ⟨t, ht, hn⟩ := List.mem_flatMap.mp hn
  have hat {j : Nat} (hj : j < n.places.size) : n.subtree[j]? = some (n.subtree.get ⟨j, hsize ▸ hj⟩) :=
    List.getElem?_eq_getElem (hsize ▸ hj)
  have hroot : placeAt n.places 0 = ⟨n.label, none, none, none⟩ := by
    obtain ⟨more, hplaces, -⟩ := Tree.exists_places n
    rw [placeAt, ← Array.getElem?_toList, hplaces]
    rfl
  have hbeyond {i : Nat} (hi : ¬i < n.places.size) : placeAt n.places i = default := by
    rw [placeAt, Array.getElem?_eq_none (Nat.le_of_not_lt hi)]
    rfl
  refine ⟨fun j hj => ?_, fun i hi hlt => ?_, fun i j hparent => ?_, fun i => ?_⟩
  · rw [Tree.node_placeAt (hat hj)]
    exact List.mem_map_of_mem (List.mem_flatMap.mpr ⟨t, ht, Tree.subtree_subset hn (List.getElem_mem _)⟩)
  · obtain ⟨k, rfl⟩ := Nat.exists_eq_succ_of_ne_zero hi.ne'
    obtain ⟨-, j, key, p, hparent, -⟩ := Tree.linked_placeAt (hat hlt)
    exact ⟨j, hparent⟩
  · by_cases hlt : i < n.places.size
    · cases i with
      | zero =>
        rw [hroot] at hparent
        cases hparent
      | succ k =>
        obtain ⟨-, j', key, p, hparent', -, hp, -⟩ := Tree.linked_placeAt (hat hlt)
        cases hparent'.symm.trans hparent
        exact ⟨hlt, hsize ▸ (List.getElem?_eq_some_iff.mp hp).1⟩
    · rw [hbeyond hlt] at hparent
      cases hparent
  · by_cases hlt : i < n.places.size
    · cases i with
      | zero =>
        rw [hroot]
        rfl
      | succ k =>
        obtain ⟨-, j, key, p, -, hkey, -, -, hholds, -⟩ := Tree.linked_placeAt (hat hlt)
        rw [hkey]
        exact hholds
    · rw [hbeyond hlt]
      rfl

theorem placeAt_modify_node {new : Nat} : (placeAt (places.modify i fun place => { place with node := new }) j) =
    if i = j ∧ j < places.size then { placeAt places j with node := new } else placeAt places j := by
  rw [placeAt, placeAt, Array.getElem?_modify]
  by_cases hj : j < places.size
  · rw [Array.getElem?_eq_getElem hj]
    by_cases hij : i = j <;> simp [hij, hj]
  · rw [Array.getElem?_eq_none (Nat.le_of_not_lt hj)]
    by_cases hij : i = j <;> simp [hij, hj]

/-- Places that note known nodes go on to do so when no node is forgotten. -/
theorem Noted.mono (h : d.Noted places) (hnodes : d.nodes.map Tree.label ⊆ d'.nodes.map Tree.label) : d'.Noted places :=
  ⟨fun j hj => hnodes (h.node j hj), h.parent, h.bound, h.key⟩

/-- **The places of an edit note known nodes.** -/
theorem Noted.noted (h : d.Noted places) (i : Nat)
    (hnew : ∀ n ∈ a.instead c, n.label ∈ d.nodes.map Tree.label) : d.Noted (a.noted places i) := by
  cases a with
  | replace new =>
    have hplace (j : Nat) : placeAt ((Amendment.replace new).noted places i) j = _ := @placeAt_modify_node places i j new.label
    have hsize : ((Amendment.replace new).noted places i).size = places.size := Array.size_modify
    refine ⟨fun j hj => ?_, fun j hj hlt => ?_, fun j k hparent => ?_, fun j => ?_⟩
    · rw [hplace]
      split
      · exact hnew new List.mem_cons_self
      · exact h.node j (hsize ▸ hj)
    · rw [hplace]
      split <;> exact h.parent j hj (hsize ▸ hlt)
    · rw [hplace] at hparent
      rw [hsize]
      split at hparent <;> exact h.bound j k hparent
    · rw [hplace]
      split <;> exact h.key j
  | _ => exact h

section Locate

variable (hd : d.Distinct) (h : d.Noted places) (hj : (placeAt places i).parent = some j)

include hd h

/-- The node of a place is found by its label. -/
theorem Noted.mem_nodes (hjs : j < places.size) :
    d.nodeAt places j ∈ d.nodes ∧ (d.nodeAt places j).label = (placeAt places j).node := by
  obtain ⟨n, hn, hl⟩ := List.mem_map.mp (h.node j hjs)
  rw [nodeAt, ← hl, hd.get_label (hd.mem_records hn)]
  exact ⟨hn, rfl⟩

include hj

/-- Where the node of a place is held below its parent. -/
theorem Noted.eq_of_holds (hheld : (d.nodeAt places j).Holds owner slot c) (hl : c.label = (placeAt places i).node)
    {owner' c' : Tree} {slot' : Slot} (hheld' : (d.nodeAt places j).Holds owner' slot' c')
    (hl' : c'.label = (placeAt places i).node) : owner' = owner ∧ slot' = slot := by
  obtain ⟨t, ht, hin⟩ := List.mem_flatMap.mp (h.mem_nodes hd (h.bound i j hj).2).1
  exact hheld'.unique ((hd.nodup t ht).sublist ((Tree.sublist_subtree hin).map Tree.label)) hheld (hl'.trans hl.symm)

/-- What holds a node below the parent of a place is known, and so is the node. -/
theorem Noted.mem_nodes_of_holds (hheld : (d.nodeAt places j).Holds owner slot c) : owner ∈ d.nodes ∧ c ∈ d.nodes := by
  obtain ⟨t, ht, hin⟩ := List.mem_flatMap.mp (h.mem_nodes hd (h.bound i j hj).2).1
  have howner := Tree.subtree_subset hin hheld.1
  have hchild := Tree.mem_children_of_mem_slots hheld.2
  exact ⟨List.mem_flatMap.mpr ⟨t, ht, howner⟩, List.mem_flatMap.mpr
    ⟨t, ht, Tree.subtree_subset howner (Tree.subtree_subset_of_mem_children hchild (Tree.mem_subtree_self c))⟩⟩

/-- What is held below the parent of a place under the label of its node is the node. -/
theorem Noted.nodeAt_eq (hheld : (d.nodeAt places j).Holds owner slot c) (hl : c.label = (placeAt places i).node) :
    d.nodeAt places i = c := by
  rw [nodeAt, ← hl, hd.get_label (hd.mem_records (h.mem_nodes_of_holds hd hj hheld).2)]

/-- **What is found is a slot below the parent that holds the node.** -/
theorem Noted.exists_of_heldAt? (hheld : (d.nodeAt places j).heldAt? ((placeAt places i).key.getD "")
    (placeAt places i).node = some slot) : ∃ c, (slot, c) ∈ (d.nodeAt places j).slots ∧ c.label = (placeAt places i).node := by
  obtain ⟨hkey, c, hholds, hobj, hl⟩ := Tree.holdsAt_of_heldAt? hheld
  have hp := (h.mem_nodes hd (h.bound i j hj).2).1
  obtain ⟨t, ht, hpt⟩ := List.mem_flatMap.mp (records_eq_values d ▸ hd.mem_records hp)
  have hc : c ∈ d.records := List.mem_flatMap.mpr
    ⟨t, ht, Tree.records_subset_of_mem_records hpt (hholds.records_subset (Tree.mem_records_self hobj))⟩
  obtain ⟨n, hn, hnl⟩ := List.mem_map.mp (h.node i (h.bound i j hj).1)
  obtain rfl := hd.one c hc n (hd.mem_records hn) (hl.trans hnl.symm)
  exact ⟨c, hholds.mem_slots (hd.isNode_of_mem hn) (hkey ▸ h.key i), hl⟩

/-- **A node that is held below its parent is located there.** -/
theorem Noted.locate_eq (hheld : (d.nodeAt places j).Holds owner slot c) (hl : c.label = (placeAt places i).node) :
    d.locate places i = .ok (owner.label, slot) := by
  rw [locate, parentAt, hj, Option.map_some]
  dsimp only
  cases hfound : (d.nodeAt places j).heldAt? ((placeAt places i).key.getD "") (placeAt places i).node with
  | some slot' =>
    obtain ⟨c', hslot', hl'⟩ := h.exists_of_heldAt? hd hj hfound
    obtain ⟨hp, rfl⟩ := h.eq_of_holds hd hj hheld hl ⟨Tree.mem_subtree_self _, hslot'⟩ hl'
    rw [hp]
  | none =>
    dsimp only
    cases hsome : (d.nodeAt places j).subtree.findSome? fun t =>
        (t.slotOf? (placeAt places i).node).map (t.label, ·) with
    | some found =>
      obtain ⟨t, ht, hslot⟩ := List.exists_of_findSome?_eq_some hsome
      obtain ⟨slot', hslot', rfl⟩ := Option.map_eq_some_iff.mp hslot
      obtain ⟨⟨_, c'⟩, hfind, rfl⟩ := Option.map_eq_some_iff.mp hslot'
      have hl' : (c'.label == (placeAt places i).node) = true := by simpa using List.find?_some hfind
      obtain ⟨rfl, rfl⟩ := h.eq_of_holds hd hj hheld hl ⟨ht, List.mem_of_find?_eq_some hfind⟩ (beq_iff_eq.mp hl')
      rfl
    | none =>
      have hnone := List.findSome?_eq_none_iff.mp hsome owner hheld.1
      rw [Option.map_eq_none_iff, Tree.slotOf?, Option.map_eq_none_iff, List.find?_eq_none] at hnone
      exact absurd (beq_iff_eq.mpr hl) (hnone _ hheld.2)

/-- **A node that is not below its parent is not located.** -/
theorem Noted.locate_eq_error
    (hnone : ∀ owner slot c, (d.nodeAt places j).Holds owner slot c → c.label ≠ (placeAt places i).node) :
    ∃ kind, d.locate places i = .error (.detached kind) := by
  rw [locate, parentAt, hj, Option.map_some]
  dsimp only
  cases hfound : (d.nodeAt places j).heldAt? ((placeAt places i).key.getD "") (placeAt places i).node with
  | some slot' =>
    obtain ⟨c', hslot', hl'⟩ := h.exists_of_heldAt? hd hj hfound
    exact absurd hl' (hnone _ _ _ ⟨Tree.mem_subtree_self _, hslot'⟩)
  | none =>
    dsimp only
    cases hsome : (d.nodeAt places j).subtree.findSome? fun t =>
        (t.slotOf? (placeAt places i).node).map (t.label, ·) with
    | some found =>
      obtain ⟨t, ht, hslot⟩ := List.exists_of_findSome?_eq_some hsome
      obtain ⟨slot', hslot', rfl⟩ := Option.map_eq_some_iff.mp hslot
      obtain ⟨⟨_, c'⟩, hfind, rfl⟩ := Option.map_eq_some_iff.mp hslot'
      have hl' : (c'.label == (placeAt places i).node) = true := by simpa using List.find?_some hfind
      exact absurd (beq_iff_eq.mp hl') (hnone _ _ _ ⟨ht, List.mem_of_find?_eq_some hfind⟩)
    | none => exact ⟨_, rfl⟩

/-- **What is dealt with at a place** is the node of the place, in the slot that holds it. -/
theorem Noted.exists_of_amendAt {places' : Array Place} (hok : d.amendAt places i a = .ok (d', places')) :
    ∃ owner slot, (d.nodeAt places j).Holds owner slot (d.nodeAt places i) ∧ a.suits slot = true ∧
      d' = d.amended owner.label slot (d.nodeAt places i) a ∧ places' = a.noted places i := by
  by_cases hheld : ∃ owner slot c, (d.nodeAt places j).Holds owner slot c ∧ c.label = (placeAt places i).node
  · obtain ⟨owner, slot, c, hheld, hl⟩ := hheld
    have hlocate := h.locate_eq hd hj hheld hl
    cases hs : a.suits slot with
    | false =>
      obtain ⟨f, hf, -⟩ := amendAt_of_not_suits hlocate hs
      cases hf.symm.trans hok
    | true =>
      cases (amendAt_of_locate hlocate hs).symm.trans hok
      refine ⟨owner, slot, ?_, hs, rfl, rfl⟩
      rwa [h.nodeAt_eq hd hj hheld hl]
  · obtain ⟨kind, herror⟩ := h.locate_eq_error hd hj fun owner slot c hin hl => hheld ⟨owner, slot, c, hin, hl⟩
    cases (amendAt_of_error herror).symm.trans hok

end Locate

end Document

namespace Editing

/-- Does something at a place, and notes it in the places. -/
def amendAt (places : Array Place) (i : Nat) (a : Amendment) : Editing (Array Place) := do
  let (d, places) ← ask ((← doc).amendAt places i a)
  updateDoc fun _ => d
  return places

/-- **An edit that is refused changes nothing.** -/
theorem eq_of_amendAt_error {places : Array Place} {i : Nat} {a : Amendment} {c c' : Context} {f : Failure}
    (h : (amendAt places i a).run c = (.error f, c')) : c' = c := by
  replace h : ((do
    let (d, places) ← ask (c.doc.amendAt places i a)
    updateDoc fun _ => d
    return places : Editing (Array Place)).run c) = (.error f, c') := h
  cases hr : c.doc.amendAt places i a with
  | ok result =>
    rw [hr] at h
    cases h
  | error g =>
    rw [hr] at h
    cases h
    rfl

end Editing

/-! ### Walks through a document under edit -/

/-- A document and the places that walks have noted in it. -/
structure Walks where
  doc : Document
  walks : List (Array Place)

namespace Walks

open Document

/-- **What is done between walks**: a walk from a node, an edit at a place of a walk, or a node that is wrapped in a new
parent. What is put in is new, or it is part of the node whose place it takes. -/
inductive Step : Walks → Walks → Prop
  | walk {s : Walks} {n : Tree} (hn : n ∈ s.doc.nodes) : Step s { s with walks := s.walks ++ [n.places] }
  | amend {s : Walks} {k j : Nat} {places places' : Array Place} {a : Amendment} {d' : Document}
      (hk : s.walks[k]? = some places) (htakes : s.doc.Takes (s.doc.nodeAt places j) (a.instead (s.doc.nodeAt places j)))
      (h : s.doc.amendAt places j a = .ok (d', places')) : Step s ⟨d', s.walks.set k places'⟩
  | wrap {s : Walks} {owner c new : Tree} {slot : Slot} (howner : owner ∈ s.doc.nodes) (hc : (slot, c) ∈ owner.slots)
      (hnew : c ∈ new.subtree) (htakes : s.doc.Takes c [new]) :
      Step s { s with doc := s.doc.edit owner.label (·.setSlot slot new) }

/-- What every step keeps. -/
structure Sound (s : Walks) : Prop where
  distinct : s.doc.Distinct
  noted : ∀ places ∈ s.walks, s.doc.Noted places

theorem sound_swapped {s : Walks} (h : s.Sound) {r c value : Tree} {key : String} {new kept : List Tree}
    (hswaps : s.doc.Swaps r key value c new kept) : Sound ⟨s.doc.swapped r key value kept, s.walks⟩ :=
  ⟨hswaps.distinct h.distinct, fun places hp => (h.noted places hp).mono fun _ hl => hswaps.mem_nodes h.distinct hl⟩

/-- **One step keeps it.** -/
theorem Sound.step {s s' : Walks} (h : s.Sound) (hstep : Step s s') : s'.Sound := by
  cases hstep with
  | walk hn =>
    refine ⟨h.distinct, fun places hp => ?_⟩
    rcases List.mem_append.mp hp with hp | hp
    · exact h.noted places hp
    · exact List.mem_singleton.mp hp ▸ noted_places hn
  | @amend k j places places' a d' hk htakes hok =>
    have hnoted := h.noted places (List.mem_of_getElem? hk)
    cases hparent : (placeAt places j).parent with
    | none =>
      have herror : s.doc.locate places j = .error .rootAddress := by
        rw [locate, parentAt, hparent]
        rfl
      cases (amendAt_of_error herror).symm.trans hok
    | some p =>
      obtain ⟨owner, slot, hheld, hs, rfl, rfl⟩ := hnoted.exists_of_amendAt h.distinct hparent hok
      have howner := (hnoted.mem_nodes_of_holds h.distinct hparent hheld).1
      have hswaps := swaps h.distinct howner hheld.2 hs htakes
      have hsound := sound_swapped h hswaps
      rw [amended_eq h.distinct howner]
      refine ⟨hsound.distinct, fun ps hps => ?_⟩
      rcases List.mem_or_eq_of_mem_set hps with hps | rfl
      · exact hsound.noted ps hps
      · have hnew (n : Tree) (hn : n ∈ a.instead (s.doc.nodeAt places j)) :=
          hswaps.mem_nodes_new h.distinct (List.mem_flatMap.mpr ⟨n, hn, Tree.mem_subtree_self n⟩)
        exact (hsound.noted places (List.mem_of_getElem? hk)).noted j hnew
  | @wrap owner c new slot howner hc hnew htakes =>
    have hswaps : s.doc.Swaps owner slot.key ((Amendment.replace new).value slot (owner.get slot.key)) c [new] [] :=
      { @swaps s.doc (.replace new) owner c slot h.distinct howner hc rfl htakes with
        kept_eq := fun _ hx => absurd hx List.not_mem_nil
        stays := .inr (List.mem_flatMap.mpr ⟨new, List.mem_cons_self, hnew⟩) }
    have hsound := sound_swapped h hswaps
    rw [swapped, List.append_nil, ← edit_eq_set h.distinct howner] at hsound
    exact hsound

/-- **Every run keeps it.** -/
theorem sound_of_run {d : Document} (hd : d.Distinct) {s : Walks} (hs : Relation.ReflTransGen Step ⟨d, []⟩ s) : s.Sound := by
  induction hs with
  | refl => exact ⟨hd, nofun⟩
  | tail _ hstep ih => exact ih.step hstep

/-- **A place leads to the one slot that holds its node.** After any run of edits and wrappings, if the node of a place is
held below its parent then one slot there holds it, and what is done at the place acts on that slot alone, or is refused
where it asks for a list. If the node is not held below its parent, what is done is refused. What is refused changes
nothing. -/
theorem places_stay_good {t : Tree} {next : Nat} (ht : (Document.mk t [] next).Distinct) {s : Walks}
    (hs : Relation.ReflTransGen Step ⟨⟨t, [], next⟩, []⟩ s) {places : Array Place} (hp : places ∈ s.walks) {i : Nat}
    (hi : 0 < i) (hlt : i < places.size) {a : Amendment}
    (ha : s.doc.Takes (s.doc.nodeAt places i) (a.instead (s.doc.nodeAt places i))) :
    ∃ parent, s.doc.parentAt places i = some parent ∧
      (∀ owner slot, parent.Holds owner slot (s.doc.nodeAt places i) →
        (∀ owner' slot', parent.Holds owner' slot' (s.doc.nodeAt places i) → owner' = owner ∧ slot' = slot) ∧
        (a.suits slot = true → ∃ d', s.doc.amendAt places i a = .ok (d', a.noted places i) ∧
          s.doc.Acts d' owner slot (s.doc.nodeAt places i) a) ∧
        (a.suits slot = false → ∃ f, s.doc.amendAt places i a = .error f ∧ f.kind = "ValueError")) ∧
      ((∀ owner slot, ¬parent.Holds owner slot (s.doc.nodeAt places i)) →
        ∃ f, s.doc.amendAt places i a = .error f ∧ f.kind = "ValueError") ∧
      ∀ (c c' : Context) (f : Failure), (Editing.amendAt places i a).run c = (.error f, c') → c' = c := by
  have hsound := sound_of_run ht hs
  have hd := hsound.distinct
  have hnoted := hsound.noted places hp
  obtain ⟨j, hj⟩ := hnoted.parent i hi hlt
  have hlabel := (hnoted.mem_nodes hd hlt).2
  refine ⟨s.doc.nodeAt places j, by rw [parentAt, hj, Option.map_some], fun owner slot hheld => ?_, fun hnone => ?_,
    fun c c' f => Editing.eq_of_amendAt_error⟩
  · have hlocate := hnoted.locate_eq hd hj hheld hlabel
    refine ⟨fun owner' slot' hheld' => hnoted.eq_of_holds hd hj hheld hlabel hheld' hlabel, fun hsuits => ?_,
      amendAt_of_not_suits hlocate⟩
    exact ⟨_, amendAt_of_locate hlocate hsuits,
      acts_amended hd (hnoted.mem_nodes_of_holds hd hj hheld).1 hheld.2 hsuits ha⟩
  · obtain ⟨kind, herror⟩ := hnoted.locate_eq_error hd hj fun owner slot c hheld hl =>
      hnone owner slot (hnoted.nodeAt_eq hd hj hheld hl ▸ hheld)
    exact ⟨_, amendAt_of_error herror, rfl⟩

/-- A statement is put in front of the first one, and the second one is still found and taken out. -/
theorem places_stay_good_beside : ∃ (t : Tree) (s : Walks) (places : Array Place) (d' : Document),
    (Document.mk t [] 9).Distinct ∧ Relation.ReflTransGen Step ⟨⟨t, [], 9⟩, []⟩ s ∧ places ∈ s.walks ∧
      s.doc.root.children.map Tree.label = [9, 2, 4] ∧ s.doc.amendAt places 3 .remove = .ok (d', places) ∧
      (d'.get 1).children.map Tree.label = [9, 2] := by
  let name (l : Nat) (x : String) : Tree := .obj l [("type", .str "Identifier"), ("name", .str x)]
  let statement (l : Nat) (e : Tree) : Tree := .obj l [("type", .str "ExpressionStatement"), ("expression", e)]
  let first : Tree := statement 2 (name 3 "a")
  let second : Tree := statement 4 (name 5 "b")
  let t : Tree := .obj 1 [("type", .str "Program"), ("body", .list [first, second])]
  let new : Tree := .obj 9 [("type", .str "EmptyStatement")]
  let d : Document := ⟨t, [], 9⟩
  let t' : Tree := .obj 1 [("type", .str "Program"), ("body", .list [new, first, second])]
  have ht : d.Distinct := distinct_of_nodup rfl (by decide) (by decide)
  have hroot : t ∈ d.nodes := List.mem_flatMap.mpr ⟨t, List.mem_cons_self, Tree.mem_subtree_self t⟩
  have hfirst : first ∈ d.nodes := List.mem_flatMap.mpr ⟨t, List.mem_cons_self, List.mem_cons_of_mem _ List.mem_cons_self⟩
  have hput : d.amendAt t.places 1 (.before [new]) = .ok (⟨t', [], 9⟩, t.places) := rfl
  have htakes : d.Takes first [new, first] :=
    @takes_beside d first [new] [] ht hfirst (by decide) (by decide) (by decide) (by decide)
  have hs : Relation.ReflTransGen Step ⟨d, []⟩ ⟨⟨t', [], 9⟩, [t.places]⟩ :=
    .tail (.single (.walk hroot)) (.amend (k := 0) (j := 1) (a := .before [new]) rfl htakes hput)
  obtain ⟨parent, hparent, hheld, -⟩ := places_stay_good ht hs List.mem_cons_self (i := 3) (by decide) (by decide)
    (takes_nil _ _) (a := .remove)
  cases hparent
  obtain ⟨-, hsuits, -⟩ := hheld t' ⟨"body", some 2⟩
    ⟨Tree.mem_subtree_self t', List.mem_cons_of_mem _ (List.mem_cons_of_mem _ List.mem_cons_self)⟩
  obtain ⟨d', hok, hacts⟩ := hsuits rfl
  refine ⟨t, _, t.places, d', ht, hs, List.mem_cons_self, rfl, hok, ?_⟩
  rw [show d'.get 1 = _ from hacts.owner]
  rfl

end Walks

end Deminify
