import Deminify.Proofs.Document.Place

/-!
# Walks over a tree

The nodes of a tree are listed with their addresses: the slots that lead to a node from the root
(`Deminify.Tree.listing`). The listing is defined by what a node is made of, each node before its children and these in
the order of their slots. A walk with a stack, which takes a node from the top and puts its children there, comes to
the same (`Deminify.Tree.walkAll_eq`), and so do the places of the tree: their chains of parents spell the addresses
(`Deminify.Tree.traced_places`).

**Every node is visited once, in document order, with a true address** (`Deminify.Tree.walks_are_exact`): what stands
at the address of a node is the node, no two addresses are the same, and no address of a node is left out.
-/

namespace Deminify

namespace Tree

variable {t n c : Tree} {a : List Slot}

/-! ### Addresses -/

/-- What stands in a slot of a record. -/
def at? (t : Tree) (slot : Slot) : Option Tree :=
  match slot.index with
  | none => t.get? slot.key
  | some i => (t.get? slot.key).bind (·.items[i]?)

/-- What slots lead to, one after the other. -/
def follow (t : Tree) : List Slot → Option Tree
  | [] => some t
  | slot :: rest => (t.at? slot).bind (·.follow rest)

/-- **Whether slots of children lead from a node to another.** -/
inductive Leads : Tree → List Slot → Tree → Prop
  | here (t : Tree) : Leads t [] t
  | inside {t c n : Tree} {slot : Slot} {a : List Slot} (hslot : (slot, c) ∈ t.slots) (h : Leads c a n) :
    Leads t (slot :: a) n

/-- What a slot of a child holds is the child, as keys differ. -/
theorem at?_of_mem_slots (hd : DistinctKeys t.fields) {slot : Slot} (h : (slot, c) ∈ t.slots) : t.at? slot = some c := by
  obtain ⟨hholds, -, hkey⟩ := holdsAt_of_mem_slots h
  have hshape := isShapeKey_of_holdsChildren hkey
  obtain ⟨key, index⟩ := slot
  cases index with
  | none => exact hd.lookup hshape hholds
  | some i =>
    obtain ⟨items, hitems, hc⟩ := hholds
    rw [at?, get?, hd.lookup hshape hitems]
    exact hc

/-- **Slots of children lead to what is found by following them.** -/
theorem Leads.follow_eq (h : Leads t a n) (hd : ∀ m ∈ t.subtree, DistinctKeys m.fields) : t.follow a = some n := by
  induction h with
  | here t => rfl
  | @inside t c n slot a hslot h ih =>
    rw [follow, at?_of_mem_slots (hd t (mem_subtree_self t)) hslot, Option.bind_some]
    exact ih fun m hm => hd m (subtree_subset_of_mem_children (mem_children_of_mem_slots hslot) hm)

/-! ### Slots differ -/

theorem nodup_itemSlots (key : String) (start : Nat) (items : List Tree) :
    ((itemSlots key start items).map (·.1)).Nodup := by
  induction items generalizing start with
  | nil => exact List.nodup_nil
  | cons t rest ih =>
    rw [itemSlots]
    split
    · refine List.nodup_cons.mpr ⟨fun hm => ?_, ih (start + 1)⟩
      obtain ⟨⟨slot, c⟩, hslot, he⟩ := List.mem_map.mp hm
      obtain ⟨-, -, i, hi, -⟩ := getElem?_of_mem_itemSlots hslot
      obtain rfl : slot = ⟨key, some start⟩ := he
      have heq := Option.some.inj hi
      omega
    · exact ih (start + 1)

theorem nodup_fieldSlots (key : String) (value : Tree) : ((fieldSlots key value).map (·.1)).Nodup := by
  unfold fieldSlots
  split
  · split
    · exact nodup_itemSlots key 0 _
    · split
      · exact List.nodup_singleton _
      · exact List.nodup_nil
  · exact List.nodup_nil

theorem holdsChildren_of_mem_fieldSlots {key : String} {value : Tree} {x : Slot × Tree} (h : x ∈ fieldSlots key value) :
    holdsChildren key = true := by
  by_contra hkey
  unfold fieldSlots at h
  rw [if_neg hkey] at h
  cases h

/-- **No slot of a node is met twice**, as keys differ. -/
theorem nodup_slots (hd : DistinctKeys t.fields) : (t.slots.map (·.1)).Nodup := by
  rw [slots, List.map_flatMap, List.nodup_flatMap]
  refine ⟨fun f _ => nodup_fieldSlots f.1 f.2, ?_⟩
  have hkeys := List.pairwise_map.mp (List.pairwise_filter.mp hd)
  refine hkeys.imp fun {f g} hne => ?_
  refine List.disjoint_left.mpr fun slot hf hg => ?_
  obtain ⟨x, hx, rfl⟩ := List.mem_map.mp hf
  obtain ⟨y, hy, he⟩ := List.mem_map.mp hg
  refine hne (isShapeKey_of_holdsChildren (holdsChildren_of_mem_fieldSlots hx))
    (isShapeKey_of_holdsChildren (holdsChildren_of_mem_fieldSlots hy)) ?_
  rw [← key_of_mem_fieldSlots hx, ← key_of_mem_fieldSlots hy, he]

/-! ### The listing -/

/-- The nodes of a tree with their addresses, down to a depth. -/
def listingWithin : Nat → Tree → List (List Slot × Tree)
  | 0, t => [([], t)]
  | depth + 1, t => ([], t) :: t.slots.flatMap fun s => (listingWithin depth s.2).map fun e => (s.1 :: e.1, e.2)

/-- **The nodes of a tree with their addresses**, each before its children and these in the order of their slots. -/
def listing (t : Tree) : List (List Slot × Tree) := listingWithin t.height t

theorem listingWithin_eq {depth depth' : Nat} (h : t.height ≤ depth) (h' : t.height ≤ depth') :
    listingWithin depth t = listingWithin depth' t := by
  have hpos := height_pos t
  induction depth generalizing t depth' with
  | zero => omega
  | succ depth ih =>
    cases depth' with
    | zero => omega
    | succ depth' =>
      rw [listingWithin, listingWithin]
      congr 1
      refine List.flatMap_congr fun s hs => ?_
      have hlt := height_lt_of_mem_children (mem_children_of_mem_slots hs)
      rw [ih (by omega : s.2.height ≤ depth) (by omega : s.2.height ≤ depth') (height_pos s.2)]

/-- What is below slots, with addresses that start with a given one. -/
def listingBelow (a : List Slot) (slots : List (Slot × Tree)) : List (List Slot × Tree) :=
  slots.flatMap fun s => s.2.listing.map fun e => (a ++ s.1 :: e.1, e.2)

/-- **The listing follows the tree.** -/
theorem listing_eq (t : Tree) : t.listing = ([], t) :: listingBelow [] t.slots := by
  obtain ⟨depth, hdepth⟩ : ∃ depth, t.height = depth + 1 := ⟨t.height - 1, by have := height_pos t; omega⟩
  rw [listing, hdepth, listingWithin, listingBelow]
  congr 1
  refine List.flatMap_congr fun s hs => ?_
  have hlt := height_lt_of_mem_children (mem_children_of_mem_slots hs)
  rw [listing, listingWithin_eq (by omega : s.2.height ≤ depth) (Nat.le_refl _)]
  rfl

theorem listingBelow_append (a : List Slot) (xs ys : List (Slot × Tree)) :
    listingBelow a (xs ++ ys) = listingBelow a xs ++ listingBelow a ys := List.flatMap_append

/-- What is below one slot: the node there, and what is below its slots. -/
theorem listingBelow_singleton (a : List Slot) (slot : Slot) (t : Tree) :
    listingBelow a [(slot, t)] = (a ++ [slot], t) :: listingBelow (a ++ [slot]) t.slots := by
  rw [listingBelow, List.flatMap_singleton, listing_eq, List.map_cons, listingBelow, listingBelow, List.map_flatMap]
  congr 1
  refine List.flatMap_congr fun s _ => ?_
  rw [List.map_map]
  refine List.map_congr_left fun e _ => ?_
  simp only [Function.comp_apply, List.nil_append, List.append_assoc, List.cons_append]

/-- The listing tells the nodes in document order. -/
theorem map_snd_listing (t : Tree) : t.listing.map (·.2) = t.subtree := by
  induction hn : t.height using Nat.strongRecOn generalizing t with
  | _ k ih =>
    rw [listing_eq, subtree_eq, List.map_cons, listingBelow, List.map_flatMap, children, List.flatMap_map]
    congr 1
    refine List.flatMap_congr fun s hs => ?_
    have hlt := height_lt_of_mem_children (mem_children_of_mem_slots hs)
    rw [← ih _ (hn ▸ hlt) s.2 rfl, List.map_map]
    rfl

/-- **What is listed is what slots of children lead to.** -/
theorem mem_listing : (a, n) ∈ t.listing ↔ Leads t a n := by
  induction a generalizing t with
  | nil =>
    rw [listing_eq, List.mem_cons]
    constructor
    · rintro (he | hm)
      · cases he
        exact .here _
      · obtain ⟨s, -, hm⟩ := List.mem_flatMap.mp hm
        obtain ⟨e, -, he⟩ := List.mem_map.mp hm
        cases he
    · rintro ⟨⟩
      exact .inl rfl
  | cons slot a ih =>
    rw [listing_eq, List.mem_cons]
    constructor
    · rintro (he | hm)
      · cases he
      · obtain ⟨s, hs, hm⟩ := List.mem_flatMap.mp hm
        obtain ⟨e, hmem, he⟩ := List.mem_map.mp hm
        cases he
        exact .inside hs (ih.mp hmem)
    · intro h
      cases h with
      | @inside _ c _ _ _ hslot h =>
        exact .inr (List.mem_flatMap.mpr ⟨(slot, c), hslot, List.mem_map.mpr ⟨(a, n), ih.mpr h, rfl⟩⟩)

/-- **No address is listed twice**, as keys differ. -/
theorem nodup_listing (hd : ∀ m ∈ t.subtree, DistinctKeys m.fields) : (t.listing.map (·.1)).Nodup := by
  induction hn : t.height using Nat.strongRecOn generalizing t with
  | _ k ih =>
    have hslots := nodup_slots (hd t (mem_subtree_self t))
    rw [listing_eq, List.map_cons, List.nodup_cons, listingBelow, List.map_flatMap]
    constructor
    · intro hm
      obtain ⟨s, -, hm⟩ := List.mem_flatMap.mp hm
      simp at hm
    · refine List.nodup_flatMap.mpr ⟨fun s hs => ?_, ?_⟩
      · have hchild := mem_children_of_mem_slots hs
        have hrest := ih _ (hn ▸ height_lt_of_mem_children hchild)
          (fun m hm => hd m (subtree_subset_of_mem_children hchild hm)) rfl
        rw [List.map_map, show ((·.1) ∘ fun e : List Slot × Tree => ([] ++ s.1 :: e.1, e.2)) = (s.1 :: ·) ∘ (·.1) from rfl,
          ← List.map_map]
        exact hrest.map fun _ _ he => (List.cons.inj he).2
      · refine (List.pairwise_map.mp hslots).imp fun {s s'} hne => ?_
        refine List.disjoint_left.mpr fun b hb hb' => ?_
        simp only [List.map_map, List.mem_map, Function.comp_apply, List.nil_append] at hb hb'
        obtain ⟨e, -, rfl⟩ := hb
        obtain ⟨e', -, he⟩ := hb'
        exact hne (List.cons.inj he).1.symm

/-! ### Walks with a stack -/

/-- The nodes that a walk visits, given a stack of nodes, the top first. -/
def visitAll : Nat → List Tree → List Tree
  | fuel + 1, t :: stack => t :: visitAll fuel (t.children ++ stack)
  | _, _ => []

/-- The nodes that a walk visits with their addresses, given a stack of these, the top first. -/
def walkAll : Nat → List (List Slot × Tree) → List (List Slot × Tree)
  | fuel + 1, (a, t) :: stack => (a, t) :: walkAll fuel (t.slots.map (fun s => (a ++ [s.1], s.2)) ++ stack)
  | _, _ => []

/-- Addresses do not change which nodes are visited. -/
theorem map_snd_walkAll (fuel : Nat) (stack : List (List Slot × Tree)) :
    (walkAll fuel stack).map (·.2) = visitAll fuel (stack.map (·.2)) := by
  induction fuel generalizing stack with
  | zero => cases stack <;> rfl
  | succ fuel ih =>
    cases stack with
    | nil => rfl
    | cons e stack =>
      rw [walkAll, List.map_cons, ih, List.map_cons, visitAll, List.map_append, List.map_map, children]
      rfl

/-- What is listed from a stack on. -/
def listingAll (stack : List (List Slot × Tree)) : List (List Slot × Tree) :=
  stack.flatMap fun e => e.2.listing.map fun f => (e.1 ++ f.1, f.2)

/-- The children of the top of the stack take its place. -/
theorem listingAll_cons (a : List Slot) (t : Tree) (stack : List (List Slot × Tree)) :
    listingAll ((a, t) :: stack) =
      (a, t) :: listingAll (t.slots.map (fun s => (a ++ [s.1], s.2)) ++ stack) := by
  rw [listingAll, List.flatMap_cons, listing_eq, List.map_cons, List.append_nil, List.cons_append, listingAll,
    List.flatMap_append, List.flatMap_map, listingBelow, List.map_flatMap]
  congr 2
  refine List.flatMap_congr fun s _ => ?_
  rw [List.map_map]
  refine List.map_congr_left fun e _ => ?_
  simp only [Function.comp_apply, List.nil_append, List.append_assoc, List.singleton_append]

/-- **A walk with a stack lists what is on the stack and below**, within as many steps as there are nodes. -/
theorem walkAll_eq {fuel : Nat} {stack : List (List Slot × Tree)} (h : (listingAll stack).length ≤ fuel) :
    walkAll fuel stack = listingAll stack := by
  induction fuel generalizing stack with
  | zero =>
    rw [List.length_eq_zero_iff.mp (Nat.le_zero.mp h)]
    cases stack <;> rfl
  | succ fuel ih =>
    cases stack with
    | nil => rfl
    | cons e stack =>
      obtain ⟨a, t⟩ := e
      rw [listingAll_cons, List.length_cons] at h
      rw [walkAll, listingAll_cons, ih (Nat.le_of_succ_le_succ h)]

theorem listingAll_root (t : Tree) : listingAll [([], t)] = t.listing := by
  rw [listingAll, List.flatMap_singleton]
  exact List.map_id _

theorem length_listing (t : Tree) : t.listing.length = t.subtree.length := by
  rw [← map_snd_listing, List.length_map]

/-! ### Places -/

/-- **The slots that lead to a place**, by its chain of parents. -/
inductive Chain (places : Array Place) : Nat → List Slot → Prop
  | root {i l : Nat} (h : places[i]? = some ⟨l, none, none, none⟩) : Chain places i []
  | child {i j l : Nat} {key : String} {index : Option Nat} {a : List Slot}
    (h : places[i]? = some ⟨l, some j, some key, index⟩) (hj : Chain places j a) :
    Chain places i (a ++ [⟨key, index⟩])

/-- Chains stay when places are added. -/
theorem Chain.push {places : Array Place} {i : Nat} (h : Chain places i a) (place : Place) :
    Chain (places.push place) i a := by
  have hget {j : Nat} {old : Place} (hj : places[j]? = some old) : (places.push place)[j]? = some old := by
    rw [Array.getElem?_push_lt (Array.getElem?_eq_some_iff.mp hj).1]
    exact congrArg some (Array.getElem?_eq_some_iff.mp hj).2
  induction h with
  | root h => exact .root (hget h)
  | child h _ ih => exact .child (hget h) ih

/-- Whether places are those of nodes at addresses. -/
structure Traced (places : Array Place) (listed : List (List Slot × Tree)) : Prop where
  size : places.size = listed.length
  traced : ∀ {i a n}, listed[i]? = some (a, n) → (Document.placeAt places i).node = n.label ∧ Chain places i a

section Traced

variable {found : Array Place} {listed : List (List Slot × Tree)} {parent : Nat} {p : Tree}

/-- A child is added behind the address of its parent. -/
theorem Traced.push (h : Traced found listed) (hp : listed[parent]? = some (a, p)) (key : String) (index : Option Nat)
    (c : Tree) :
    Traced (found.push ⟨c.label, some parent, some key, index⟩) (listed ++ [(a ++ [⟨key, index⟩], c)]) where
  size := by rw [Array.size_push, h.size, List.length_append, List.length_singleton]
  traced := by
    intro i b n hi
    by_cases hlt : i < listed.length
    · rw [List.getElem?_append_left hlt] at hi
      obtain ⟨hnode, hchain⟩ := h.traced hi
      refine ⟨?_, hchain.push _⟩
      rw [Document.placeAt, Array.getElem?_push_lt (h.size ▸ hlt), Option.getD_some, ← hnode, Document.placeAt,
        Array.getElem?_eq_getElem (h.size ▸ hlt), Option.getD_some]
    · obtain rfl : i = listed.length := by
        have hbound := (List.getElem?_eq_some_iff.mp hi).1
        rw [List.length_append, List.length_singleton] at hbound
        omega
      rw [List.getElem?_concat_length] at hi
      cases hi
      have hlast : (found.push ⟨c.label, some parent, some key, index⟩)[listed.length]? =
          some ⟨c.label, some parent, some key, index⟩ := by rw [← h.size, Array.getElem?_push_size]
      exact ⟨by rw [Document.placeAt, hlast, Option.getD_some], .child hlast ((h.traced hp).2.push _)⟩

/-- The places below the fields of a node are traced, if those in the values are. -/
theorem Traced.placesFields {fields : List (String × Tree)}
    (hfields : ∀ f ∈ fields, ∀ {found listed}, holdsChildren f.1 = true → Traced found listed →
      listed[parent]? = some (a, p) →
      Traced (placesValue parent f.1 f.2 found) (listed ++ listingBelow a (fieldSlots f.1 f.2)))
    (h : Traced found listed) (hp : listed[parent]? = some (a, p)) :
    Traced (Tree.placesFields parent fields found)
      (listed ++ listingBelow a (fields.flatMap fun f => fieldSlots f.1 f.2)) := by
  induction fields generalizing found listed with
  | nil => rwa [Tree.placesFields, List.flatMap_nil, listingBelow, List.flatMap_nil, List.append_nil]
  | cons f rest ih =>
    rw [Tree.placesFields, List.flatMap_cons, listingBelow_append, ← List.append_assoc]
    have hrest : ∀ g ∈ rest, _ := fun g hg => @hfields g (List.mem_cons_of_mem f hg)
    by_cases hkey : holdsChildren f.1 = true
    · rw [if_pos hkey]
      refine ih @hrest (hfields f List.mem_cons_self hkey h hp) ?_
      rw [List.getElem?_append_left (List.getElem?_eq_some_iff.mp hp).1, hp]
    · have hnone : fieldSlots f.1 f.2 = [] := if_neg hkey
      rw [if_neg hkey, hnone, listingBelow, List.flatMap_nil, List.append_nil]
      exact ih @hrest h hp

/-- The places of a node and of what is below it are traced. -/
theorem Traced.placesNode {l : Nat} {fields : List (String × Tree)}
    (hfields : ∀ f ∈ fields, ∀ {found listed parent a p}, holdsChildren f.1 = true → Traced found listed →
      listed[parent]? = some (a, p) →
      Traced (placesValue parent f.1 f.2 found) (listed ++ listingBelow a (fieldSlots f.1 f.2)))
    (h : Traced found listed) (hp : listed[parent]? = some (a, p)) (key : String) (index : Option Nat) :
    Traced (Tree.placesFields found.size fields (found.push ⟨l, some parent, some key, index⟩))
      (listed ++ listingBelow a [(⟨key, index⟩, obj l fields)]) := by
  rw [listingBelow_singleton, List.append_cons]
  refine Traced.placesFields (p := obj l fields) (fun f hf => hfields f hf) (h.push hp key index (obj l fields)) ?_
  rw [h.size, List.getElem?_concat_length]

/-- **The places in a value are traced**, whether it is a field or an item. -/
theorem traced_placesValue (t : Tree) {key : String} (hkey : holdsChildren key = true) (h : Traced found listed)
    (hp : listed[parent]? = some (a, p)) :
    Traced (placesValue parent key t found) (listed ++ listingBelow a (fieldSlots key t)) ∧
      ∀ start, Traced (placesItem parent key start t found)
        (listed ++ listingBelow a (if t.isNode then [(⟨key, some start⟩, t)] else [])) := by
  induction t using Tree.induction generalizing found listed parent a p key with
  | leaf t ht =>
    have hsame : Traced found (listed ++ listingBelow a []) := by
      rwa [listingBelow, List.flatMap_nil, List.append_nil]
    unfold fieldSlots
    rw [if_pos hkey]
    cases t <;> first | exact ⟨hsame, fun _ => hsame⟩ | simp [isLeaf] at ht
  | list items ih =>
    constructor
    · unfold fieldSlots
      rw [placesValue, if_pos hkey]
      dsimp only
      -- the places of a list are traced from any index on
      generalize 0 = start
      induction items generalizing start found listed with
      | nil => rwa [placesItems, itemSlots, listingBelow, List.flatMap_nil, List.append_nil]
      | cons t rest ihr =>
        have hsplit : itemSlots key start (t :: rest) =
            (if t.isNode then [(⟨key, some start⟩, t)] else []) ++ itemSlots key (start + 1) rest := by
          rw [itemSlots]
          split <;> rfl
        rw [placesItems, hsplit, listingBelow_append, ← List.append_assoc]
        refine ihr (fun u hu => ih u (List.mem_cons_of_mem t hu)) ((ih t List.mem_cons_self hkey h hp).2 start) ?_ _
        rw [List.getElem?_append_left (List.getElem?_eq_some_iff.mp hp).1, hp]
    · intro start
      rw [placesItem, if_neg (by simp [isNode, isObj]), listingBelow, List.flatMap_nil, List.append_nil]
      · exact h
      · rintro _ _ ⟨⟩
  | obj l fields ih =>
    have hsame : Traced found (listed ++ listingBelow a []) := by
      rwa [listingBelow, List.flatMap_nil, List.append_nil]
    unfold fieldSlots
    rw [placesValue, if_pos hkey]
    constructor
    · dsimp only
      split
      · exact Traced.placesNode (fun f hf _ _ _ _ _ hk h' hp' => (ih f hf hk h' hp').1) h hp key none
      · exact hsame
    · intro start
      rw [placesItem]
      split
      · exact Traced.placesNode (fun f hf _ _ _ _ _ hk h' hp' => (ih f hf hk h' hp').1) h hp key (some start)
      · exact hsame

/-- **The places of a tree are those of its listing.** -/
theorem traced_places (t : Tree) : Traced t.places t.listing := by
  have hroot : Traced #[⟨t.label, none, none, none⟩] [([], t)] := by
    refine ⟨rfl, fun {i b n} hi => ?_⟩
    cases i with
    | zero =>
      cases hi
      exact ⟨rfl, .root rfl⟩
    | succ i => cases hi
  have hstart : ([([], t)] : List (List Slot × Tree))[0]? = some ([], t) := rfl
  have hall : Traced t.places _ :=
    Traced.placesFields (fun f _ _ _ hk h hp => (traced_placesValue f.2 hk h hp).1) hroot hstart
  rwa [List.singleton_append, ← slots, ← listing_eq] at hall

end Traced

/-! ### Walks are exact -/

/-- **A walk visits every node once, in document order, with a true address**: with or without addresses it comes to
what follows the tree node by node, its addresses are those of all nodes, no two the same, and so are those that the
places of the tree spell. -/
theorem walks_are_exact (t : Tree) (hd : ∀ m ∈ t.subtree, DistinctKeys m.fields) :
    (∀ fuel ≥ t.subtree.length, visitAll fuel [t] = t.subtree ∧ walkAll fuel [([], t)] = t.listing) ∧
    t.subtree = t :: t.children.flatMap subtree ∧ t.listing.map (·.2) = t.subtree ∧
    (t.listing.map (·.1)).Nodup ∧ (∀ a n, (a, n) ∈ t.listing ↔ Leads t a n) ∧
    t.places.size = t.subtree.length ∧
    ∀ i a n, t.listing[i]? = some (a, n) →
      (Document.placeAt t.places i).node = n.label ∧ Chain t.places i a ∧ t.follow a = some n := by
  have hwalk {fuel : Nat} (h : t.subtree.length ≤ fuel) : walkAll fuel [([], t)] = t.listing := by
    rw [walkAll_eq (by rwa [listingAll_root, length_listing]), listingAll_root]
  have hplaces := traced_places t
  refine ⟨fun fuel hfuel => ⟨?_, hwalk hfuel⟩, subtree_eq t, map_snd_listing t, nodup_listing hd, fun _ _ => mem_listing,
    by rw [hplaces.size, length_listing], fun i a n hi => ?_⟩
  · have hvisit := map_snd_walkAll fuel [([], t)]
    rw [hwalk hfuel, map_snd_listing] at hvisit
    exact hvisit.symm
  · obtain ⟨hnode, hchain⟩ := hplaces.traced hi
    exact ⟨hnode, hchain, (mem_listing.mp (List.mem_of_getElem? hi)).follow_eq hd⟩

/-- A list of a node, null and a text, a record that is no node, and a field that holds no children. -/
theorem walks_are_exact_mixed : ∃ t : Tree,
    t = .obj 1 [("type", .str "Call"), ("items", .list [.null, .obj 2 [("type", .str "This")], .str "x"]),
      ("range", .list [.obj 3 [("type", .str "This")]]), ("extra", .obj 4 [("value", .int 1)]),
      ("part", .obj 5 [("type", .str "This")])] ∧
    t.subtree.map label = [1, 2, 5] ∧
    t.listing.map (·.1) = [[], [⟨"items", some 1⟩], [⟨"part", none⟩]] ∧
    (∀ fuel ≥ t.subtree.length, walkAll fuel [([], t)] = t.listing) ∧
    ∀ i a n, t.listing[i]? = some (a, n) → Chain t.places i a ∧ t.follow a = some n := by
  refine ⟨_, rfl, by decide +kernel, by decide +kernel, ?_, ?_⟩
  · exact fun fuel hfuel => ((walks_are_exact _ (by decide +kernel)).1 fuel hfuel).2
  · exact fun i a n hi => ((walks_are_exact _ (by decide +kernel)).2.2.2.2.2.2 i a n hi).2

end Tree

end Deminify
