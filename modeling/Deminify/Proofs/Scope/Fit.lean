import Deminify.Proofs.Scope.Weight

/-!
# Sites in well-formed programs

In a well-formed program, roles go with kinds: a declarator is a declarator, what an element is
called is a name that an element can have, and so on (`Deminify.Site.Fit`). Fields that are looked
up are there, and what they hold is known, so that everything that could fail while scopes are found
does not. The two things that are looked up deeper than one level are settled here as well: the names
that a pattern declares (`Deminify.Tree.patternIdentifiers_eq`) and the name that an element is taken
from (`Deminify.ScopeTree.usingTagName_eq`).
-/

namespace Deminify

/-- Whether nodes of the kind can be held. -/
def FieldSort.admits (kind : String) : FieldSort → Bool
  | .node kinds => kinds kind
  | .optional kinds => kinds kind
  | .nodes kinds => kinds kind
  | .holes kinds => kinds kind
  | _ => false

/-- What a child in a field can be. -/
theorem FieldSort.admits_of_takes {sort : FieldSort} {t c : Tree} (h : sort.takes t = true)
    (hc : c.isNode = true) (hct : c = t ∨ c ∈ t.items) : sort.admits c.kind = true := by
  have ofNode {kinds : String → Bool} (ht : t.isOf kinds = true) : kinds c.kind = true := by
    have hobj := Tree.isObj_of_isNode (Tree.isNode_of_isOf ht)
    rcases hct with rfl | hct
    · exact Tree.kinds_of_isOf ht
    · cases t <;> simp_all [Tree.isObj, Tree.items]
  have noLeaf (ht : t.isLeaf = true) : False := by
    rcases hct with rfl | hct
    · cases c <;> simp_all [Tree.isLeaf, Tree.isNode, Tree.isObj]
    · cases t <;> simp_all [Tree.isLeaf, Tree.items]
  have ofItem (ht : t.isList = true) : c ∈ t.items := by
    rcases hct with rfl | hct
    · cases c <;> simp_all [Tree.isList, Tree.isNode, Tree.isObj]
    · exact hct
  cases sort with
  | text => exact (noLeaf (by cases t <;> simp_all [FieldSort.takes, Tree.str?, Tree.isLeaf])).elim
  | flag => exact (noLeaf (by cases t <;> simp_all [FieldSort.takes, Tree.isLeaf])).elim
  | leaf => exact (noLeaf h).elim
  | record =>
    simp only [FieldSort.takes, Bool.and_eq_true, Bool.not_eq_true'] at h
    rcases hct with rfl | hct
    · exact absurd (h.2.symm.trans hc) (by decide)
    · cases t <;> simp_all [Tree.isObj, Tree.items]
  | node kinds => exact ofNode h
  | optional kinds =>
    rcases Bool.or_eq_true_iff.mp h with h | h
    · exact (noLeaf (by cases t <;> simp_all [Tree.isNull, Tree.isLeaf])).elim
    · exact ofNode h
  | nodes kinds =>
    obtain ⟨hlist, hall⟩ := Bool.and_eq_true_iff.mp h
    exact Tree.kinds_of_isOf (List.all_eq_true.mp hall c (ofItem hlist))
  | holes kinds =>
    obtain ⟨hlist, hall⟩ := Bool.and_eq_true_iff.mp h
    rcases Bool.or_eq_true_iff.mp (List.all_eq_true.mp hall c (ofItem hlist)) with hnull | hc'
    · cases c <;> simp_all [Tree.isNull, Tree.isNode, Tree.isObj]
    · exact Tree.kinds_of_isOf hc'

namespace Tree

section Fields

variable {t : Tree} {spec : List (String × FieldSort)} {key : String} {kinds : String → Bool}

/-- What a child of a node with the fields of its kind can be. -/
theorem admits_of_hasFields (h : t.hasFields = true) (hs : schema t.kind = some spec) {slot : Slot} {c : Tree}
    (hc : (slot, c) ∈ t.slots) : ∃ sort, (slot.key, sort) ∈ spec ∧ sort.admits c.kind = true := by
  obtain ⟨value, hm, hf⟩ := mem_slots_iff.mp hc
  have hmem : c ∈ (fieldSlots slot.key value).map (·.2) := List.mem_map.mpr ⟨_, hf, rfl⟩
  obtain ⟨hn, hk, hcv⟩ := mem_fieldSlots.mp hmem
  have hget := (distinct_of_hasFields h).lookup (isShapeKey_of_holdsChildren hk) hm
  have hknown := known_of_hasFields h hs hget
  simp only [isKnownField, hk, Bool.not_true, Bool.or_false, Bool.or_eq_true] at hknown
  rcases hknown with hsome | hleaf
  · obtain ⟨sort, hsort⟩ := Option.isSome_iff_exists.mp hsome
    obtain ⟨v, hv, hi⟩ := takes_of_hasFields h hs (mem_of_lookup hsort)
    rw [get?, hget] at hv
    cases hv
    exact ⟨sort, mem_of_lookup hsort, FieldSort.admits_of_takes hi hn hcv⟩
  · rw [fieldSlots_of_isLeaf hleaf] at hf
    simp at hf

/-- What a child of a well-formed node can be. -/
theorem WellFormed.admits (h : t.WellFormed) (hs : schema t.kind = some spec) {slot : Slot} {c : Tree}
    (hc : (slot, c) ∈ t.slots) :
    c.WellFormed ∧ ∃ sort, (slot.key, sort) ∈ spec ∧ sort.admits c.kind = true :=
  ⟨h.child (mem_children_of_mem_slots hc), admits_of_hasFields h.hasFields hs hc⟩

/-- A node of one of these kinds has nothing below it. -/
theorem slots_of_atom (h : t.hasFields = true) (hk : t.kind = "Identifier" ∨ t.kind = "Literal") : t.slots = [] := by
  have hno {spec : List (String × FieldSort)} (hs : schema t.kind = some spec)
      (hadmits : ∀ entry ∈ spec, ∀ kind, entry.2.admits kind = false) : t.slots = [] := by
    refine List.eq_nil_iff_forall_not_mem.mpr fun x hx => ?_
    obtain ⟨sort, hm, ha⟩ := admits_of_hasFields h hs hx
    rw [hadmits _ hm] at ha
    cases ha
  rcases hk with hk | hk
  · exact @hno [("name", .text)] (by rw [hk]; rfl) (by simp [FieldSort.admits])
  · exact @hno [("value", .leaf)] (by rw [hk]; rfl) (by simp [FieldSort.admits])

theorem WellFormed.kindOf_eq (h : t.WellFormed) : (t.kindOf : Except Failure String) = .ok t.kind := by
  have hobj := h.isObj
  have htype := h.get?_type
  cases t with
  | obj l fields =>
    rw [get?_obj] at htype
    simp only [Tree.kindOf, Tree.textField, Tree.field, htype]
    rfl
  | _ => simp [Tree.isObj] at hobj

theorem WellFormed.field_eq (h : t.WellFormed) {sort : FieldSort}
    (hs : fieldSort t.kind key = some sort) : (t.field key : Except Failure Tree) = .ok (t.get key) := by
  have hobj := h.isObj
  obtain ⟨spec, hspec, hm⟩ := exists_of_fieldSort hs
  obtain ⟨value, hv, -⟩ := h.field hspec hm
  rw [get_of_get? hv]
  cases t with
  | obj l fields =>
    rw [get?_obj] at hv
    simp only [Tree.field, hv]
    rfl
  | _ => simp [Tree.isObj] at hobj

theorem WellFormed.held_items (h : t.WellFormed) (hs : fieldSort t.kind key = some (.nodes kinds)) :
    ∀ c ∈ (t.get key).items, c.Is kinds := by
  obtain ⟨items, hv, hi⟩ := h.held hs
  rw [hv]
  exact hi

theorem WellFormed.listField_eq (h : t.WellFormed) (hs : fieldSort t.kind key = some (.nodes kinds)) :
    (t.listField key : Except Failure (List Tree)) = .ok (t.get key).items := by
  obtain ⟨items, hv, -⟩ := h.held hs
  rw [listField, h.field_eq hs, hv]
  rfl

theorem WellFormed.textField_eq (h : t.WellFormed) (hs : fieldSort t.kind key = some .text) :
    (t.textField key : Except Failure String) = .ok ((t.get key).str?.getD "") := by
  obtain ⟨s, hv⟩ := h.held hs
  rw [textField, h.field_eq hs, hv]
  rfl

end Fields

/-! ### The names that a pattern declares -/

/-- The names that a pattern declares, from left to right; patterns nest `fuel` levels at most. -/
def boundWithin : Nat → Tree → List Tree
  | 0, _ => []
  | fuel + 1, t =>
    if t.isNull then []
    else
      match t.kind with
      | "Identifier" => [t]
      | "ObjectPattern" => (t.get "properties").items.flatMap fun p =>
        (if p.kind == "RestElement" then p.get "argument" else p.get "value").boundWithin fuel
      | "ArrayPattern" => (t.get "elements").items.flatMap (boundWithin fuel)
      | "AssignmentPattern" => (t.get "left").boundWithin fuel
      | "RestElement" => (t.get "argument").boundWithin fuel
      | _ => []

/-- The names that a pattern declares, from left to right. -/
def boundNodes (t : Tree) : List Tree := t.boundWithin t.height

theorem mapM_eq_ok {α β : Type} {f : α → Except Failure β} {g : α → β} {items : List α}
    (h : ∀ a ∈ items, f a = .ok (g a)) : items.mapM f = .ok (items.map g) := by
  induction items with
  | nil => rfl
  | cons a rest ih =>
    rw [List.mapM_cons, h a List.mem_cons_self, ih fun b hb => h b (List.mem_cons_of_mem _ hb)]
    rfl

/-- In a well-formed pattern the names that it declares are found. -/
theorem patternIdentifiersWithin_eq {t : Tree} (h : t = .null ∨ t.WellFormed) (fuel : Nat) :
    (t.patternIdentifiersWithin fuel : Except Failure (List Tree)) = .ok (t.boundWithin fuel) := by
  induction fuel generalizing t with
  | zero => rfl
  | succ fuel ih =>
    rcases h with rfl | h
    · rfl
    · have hnull : t.isNull = false := by
        have := h.isObj
        cases t <;> simp_all [isNull, isObj]
      rw [patternIdentifiersWithin, boundWithin]
      simp only [hnull, h.kindOf_eq, Bool.false_eq_true, if_false, bind, Except.bind]
      by_cases hname : t.kind = "Identifier"
      · simp only [hname]
        rfl
      by_cases hobject : t.kind = "ObjectPattern"
      · have hs : fieldSort t.kind "properties" = some (.nodes isPropertyPatternKind) := by
          rw [hobject]; rfl
        simp only [hobject, h.listField_eq hs]
        rw [mapM_eq_ok (g := fun p => (if p.kind == "RestElement" then p.get "argument"
          else p.get "value").boundWithin fuel)]
        · simp only [List.flatMap_def]
          rfl
        · intro p hp
          have hi := h.held_items hs p hp
          simp only [hi.2.kindOf_eq]
          rcases Bool.or_eq_true_iff.mp hi.kinds with hpk | hpk
          · have hps : fieldSort p.kind "value" = some .expression := by
              rw [beq_iff_eq.mp hpk]; rfl
            rw [if_neg (by simp [beq_iff_eq.mp hpk]), if_neg (by simp [beq_iff_eq.mp hpk]),
              hi.2.field_eq hps]
            exact ih (.inr (hi.2.held hps).2)
          · have hps : fieldSort p.kind "argument" = some .expression := by
              rw [beq_iff_eq.mp hpk]; rfl
            rw [if_pos hpk, if_pos hpk, hi.2.field_eq hps]
            exact ih (.inr (hi.2.held hps).2)
      by_cases harray : t.kind = "ArrayPattern"
      · have hs : fieldSort t.kind "elements" = some (.holes isExpressionKind) := by
          rw [harray]; rfl
        obtain ⟨items, hv, hi⟩ := h.held hs
        simp only [harray, listField, h.field_eq hs, hv, bind, Except.bind]
        rw [show (pure items : Except Failure (List Tree)) = .ok items from rfl]
        dsimp only
        rw [mapM_eq_ok (g := boundWithin fuel)]
        · simp only [List.flatMap_def]
          rfl
        · exact fun p hp => ih ((hi p hp).imp_right (·.2))
      by_cases hdefault : t.kind = "AssignmentPattern"
      · have hs : fieldSort t.kind "left" = some .expression := by
          rw [hdefault]; rfl
        simp only [hdefault, h.field_eq hs]
        exact ih (.inr (h.held hs).2)
      by_cases hrest : t.kind = "RestElement"
      · have hs : fieldSort t.kind "argument" = some .expression := by
          rw [hrest]; rfl
        simp only [hrest, h.field_eq hs]
        exact ih (.inr (h.held hs).2)
      -- nothing else declares a name
      repeat' split
      all_goals first
        | contradiction
        | rfl

theorem patternIdentifiers_eq {t : Tree} (h : t.WellFormed) :
    (t.patternIdentifiers : Except Failure (List Tree)) = .ok t.boundNodes :=
  patternIdentifiersWithin_eq (.inr h) t.height

@[simp] theorem boundWithin_null (fuel : Nat) : null.boundWithin fuel = [] := by
  cases fuel <;> rfl

theorem height_get_lt (t : Tree) (key : String) : t.get key = .null ∨ (t.get key).height < t.height := by
  cases hv : t.get? key with
  | none => exact .inl (by rw [get, hv]; rfl)
  | some value =>
    rw [get_of_get? hv]
    exact .inr (height_lt_of_mem_fields (mem_of_lookup hv))

theorem height_item_lt {t u : Tree} {key : String} (h : u ∈ (t.get key).items) :
    u.height < t.height := by
  have hu := height_lt_of_mem_items h
  rcases height_get_lt t key with hg | hg
  · rw [hg] at h
    simp [items] at h
  · omega

/-- Enough fuel is enough. -/
theorem boundWithin_eq {t : Tree} {fuel fuel' : Nat} (h : t.height ≤ fuel) (h' : t.height ≤ fuel') :
    t.boundWithin fuel = t.boundWithin fuel' := by
  induction fuel generalizing t fuel' with
  | zero => exact absurd (height_pos t) (by omega)
  | succ fuel ih =>
    cases fuel' with
    | zero => exact absurd (height_pos t) (by omega)
    | succ fuel' =>
      have below (u : Tree) (hu : u = .null ∨ u.height < t.height) :
          u.boundWithin fuel = u.boundWithin fuel' := by
        rcases hu with rfl | hu
        · simp
        · exact ih (by omega) (by omega)
      rw [boundWithin, boundWithin]
      split
      · rfl
      · split
        · rfl
        · rw [List.flatMap_def, List.flatMap_def]
          refine congrArg List.flatten (List.map_congr_left fun u hu => ?_)
          have hu := height_item_lt hu
          split
          · exact below _ ((height_get_lt u _).imp_right (Nat.lt_trans · hu))
          · exact below _ ((height_get_lt u _).imp_right (Nat.lt_trans · hu))
        · rw [List.flatMap_def, List.flatMap_def]
          exact congrArg List.flatten (List.map_congr_left fun u hu => below u (.inr (height_item_lt hu)))
        · exact below _ (height_get_lt t _)
        · exact below _ (height_get_lt t _)
        · rfl

theorem boundWithin_get {t : Tree} {fuel : Nat} (h : t.height ≤ fuel + 1) (key : String) :
    (t.get key).boundWithin fuel = (t.get key).boundNodes := by
  rcases height_get_lt t key with hg | hg
  · rw [hg, boundWithin_null, boundNodes, boundWithin_null]
  · exact boundWithin_eq (by omega) (Nat.le_refl _)

/-- The names that a part of a pattern declares; a property declares those of its value, and a
method would do so, if it could stand in a pattern. -/
def partNames (t : Tree) : List Tree :=
  if t.kind == "Property" || t.kind == "MethodDefinition" then (t.get "value").boundNodes
  else t.boundNodes

theorem partNames_eq {t : Tree} (h1 : t.kind ≠ "Property") (h2 : t.kind ≠ "MethodDefinition") :
    t.partNames = t.boundNodes := by
  simp [partNames, h1, h2]

/-- An expression is no property. -/
theorem Is.partNames_eq {t : Tree} (h : t.Is isExpressionKind) : t.partNames = t.boundNodes := by
  have hk := h.kinds
  refine Tree.partNames_eq (fun he => ?_) (fun he => ?_) <;> simp [he, isExpressionKind] at hk

/-- The names that a well-formed pattern declares, part by part. -/
theorem boundNodes_eq {t : Tree} (h : t.WellFormed) :
    t.boundNodes = match t.kind with
      | "Identifier" => [t]
      | "ObjectPattern" => (t.get "properties").items.flatMap partNames
      | "ArrayPattern" => (t.get "elements").items.flatMap boundNodes
      | "AssignmentPattern" => (t.get "left").boundNodes
      | "RestElement" => (t.get "argument").boundNodes
      | _ => [] := by
  induction hn : t.height using Nat.strongRecOn generalizing t with
  | _ n ih =>
    subst hn
    obtain ⟨fuel, hf⟩ : ∃ fuel, t.height = fuel + 1 := ⟨t.height - 1, by have := height_pos t; omega⟩
    have hnull : t.isNull = false := by
      have := h.isObj
      cases t <;> simp_all [isNull, isObj]
    rw [boundNodes, hf, boundWithin, hnull]
    simp only [Bool.false_eq_true, if_false]
    split
    · rfl
    · rename_i hk
      rw [List.flatMap_def, List.flatMap_def]
      refine congrArg List.flatten (List.map_congr_left fun p hp => ?_)
      have hs : fieldSort t.kind "properties" = some (.nodes isPropertyPatternKind) := by
        rw [hk]; rfl
      have hi := h.held_items hs p hp
      have hlt := height_item_lt hp
      rcases Bool.or_eq_true_iff.mp hi.kinds with hpk | hpk
      · have hpk := beq_iff_eq.mp hpk
        rw [if_neg (by simp [hpk]), boundWithin_get (by omega), partNames, if_pos (by simp [hpk])]
      · have hpk := beq_iff_eq.mp hpk
        rw [if_pos (by simp [hpk]), boundWithin_get (by omega),
          partNames_eq (by simp [hpk]) (by simp [hpk]), ih _ hlt hi.2 rfl, hpk]
        rfl
    · rename_i hk
      rw [List.flatMap_def, List.flatMap_def]
      refine congrArg List.flatten (List.map_congr_left fun p hp => ?_)
      have hlt := height_item_lt hp
      exact boundWithin_eq (by omega) (Nat.le_refl _)
    · exact boundWithin_get (by omega) _
    · exact boundWithin_get (by omega) _
    · rfl

theorem is_of_mem_boundNames {t n : Tree} (h : t.WellFormed) (hn : n ∈ t.boundNodes) :
    n.Is (· == "Identifier") := by
  induction hh : t.height using Nat.strongRecOn generalizing t with
  | _ height ih =>
    subst hh
    have below {key : String} {kinds : String → Bool}
        (hs : fieldSort t.kind key = some (.node kinds)) (hn : n ∈ (t.get key).boundNodes) :
        n.Is (· == "Identifier") := by
      rcases height_get_lt t key with hg | hg
      · rw [hg] at hn
        simp [boundNodes] at hn
      · exact ih _ hg (h.held hs).2 hn rfl
    -- one case for each kind of pattern; the parts of a pattern are less high than it
    rw [boundNodes_eq h] at hn
    split at hn
    · rename_i hk
      cases List.mem_singleton.mp hn
      exact is_iff.mpr ⟨h, by simp [hk]⟩
    · rename_i hk
      have hs : fieldSort t.kind "properties" = some (.nodes isPropertyPatternKind) := by
        rw [hk]; rfl
      obtain ⟨p, hp, hn⟩ := List.mem_flatMap.mp hn
      have hi := h.held_items hs p hp
      have hlt := height_item_lt hp
      rcases Bool.or_eq_true_iff.mp hi.kinds with hpk | hpk
      · have hpk := beq_iff_eq.mp hpk
        have hps : fieldSort p.kind "value" = some .expression := by
          rw [hpk]; rfl
        rw [partNames, if_pos (by simp [hpk])] at hn
        rcases height_get_lt p "value" with hg | hg
        · rw [hg] at hn
          simp [boundNodes] at hn
        · exact ih _ (Nat.lt_trans hg hlt) (hi.2.held hps).2 hn rfl
      · have hpk := beq_iff_eq.mp hpk
        rw [partNames_eq (by simp [hpk]) (by simp [hpk])] at hn
        exact ih _ hlt hi.2 hn rfl
    · rename_i hk
      have hs : fieldSort t.kind "elements" = some (.holes isExpressionKind) := by
        rw [hk]; rfl
      obtain ⟨items, hv, hi⟩ := h.held hs
      obtain ⟨p, hp, hn⟩ := List.mem_flatMap.mp hn
      have hlt := height_item_lt hp
      rw [hv] at hp
      rcases hi p hp with rfl | hi
      · simp [boundNodes] at hn
      · exact ih _ hlt hi.2 hn rfl
    · rename_i hk
      have hs : fieldSort t.kind "left" = some .expression := by
        rw [hk]; rfl
      exact below hs hn
    · rename_i hk
      have hs : fieldSort t.kind "argument" = some .expression := by
        rw [hk]; rfl
      exact below hs hn
    · cases hn

end Tree

/-! ### Sites -/

namespace Site

/-- Whether the kind of a node goes with its role. -/
def Fit (p : Site) : Prop :=
  p.node.WellFormed ∧ match p.role with
    | .declarator _ => p.node.kind = "VariableDeclarator"
    | .body => p.node.kind = "BlockStatement"
    | .names _ => p.node.kind = "Identifier"
    | .imported => isImportNameKind p.node.kind = true
    | .exported => isExportNameKind p.node.kind = true
    | .tag => isTagNameKind p.node.kind = true
    | .tagRoot => isTagObjectKind p.node.kind = true
    | .inert => True
    | _ => p.node.kind ≠ "VariableDeclarator"

/-- Nothing happens where names mean nothing. -/
theorem weigh_inert (φ : Event → Nat) {p : Site} (h : p.role = .inert) : p.weigh φ = 0 := by
  induction hn : p.node.height using Nat.strongRecOn generalizing p with
  | _ n ih =>
    subst hn
    have hevents : p.events = [] := by
      simp only [events, h, if_true]
      split <;> rfl
    rw [weigh_eq, hevents, List.map_nil, List.sum_nil, Nat.zero_add, List.sum_eq_zero_iff_forall_eq_nat]
    intro w hw
    obtain ⟨x, hx, rfl⟩ := List.mem_map.mp hw
    refine ih _ (Tree.height_lt_of_mem_children (Tree.mem_children_of_mem_slots hx)) ?_ rfl
    simp [below, roleAt, h]

/-- The weight of the children under a key. -/
def weighAt (φ : Event → Nat) (p : Site) (key : String) : Nat :=
  p.node.sumAt (fun key c => (p.below key c).weigh φ) key

/-- Nothing happens below a key where names mean nothing. -/
theorem weighAt_inert (φ : Event → Nat) {p : Site} {key : String} (h : p.roleAt key = .inert) :
    p.weighAt φ key = 0 := by
  rw [weighAt, Tree.sumAt, List.sum_eq_zero_iff_forall_eq_nat]
  intro w hw
  obtain ⟨c, -, rfl⟩ := List.mem_map.mp hw
  exact weigh_inert φ h

theorem weighAt_leaf (φ : Event → Nat) {p : Site} (h : p.node.WellFormed) {key : String}
    {sort : FieldSort} (hs : Tree.fieldSort p.node.kind key = some sort)
    (hsort : sort = .text ∨ sort = .flag ∨ sort = .leaf) : p.weighAt φ key = 0 :=
  h.sumAt_leaf hs hsort

/-- What happens at a site and, key by key, below it. -/
theorem weigh_eq_sum (φ : Event → Nat) {p : Site} (h : p.node.WellFormed)
    {spec : List (String × FieldSort)} (hs : schema p.node.kind = some spec) :
    p.weigh φ = (p.events.map φ).sum + (spec.map fun entry => p.weighAt φ entry.1).sum := by
  have hsum := h.sum_slots (g := fun key c => (p.below key c).weigh φ) hs
  rw [weigh_eq, hsum]
  rfl

/-- What happens at a name. -/
theorem weigh_identifier (φ : Event → Nat) {p : Site} (h : p.node.WellFormed)
    (hk : p.node.kind = "Identifier" ∨ p.node.kind = "JSXIdentifier") :
    p.weigh φ = (p.events.map φ).sum := by
  have hs : schema p.node.kind = some [("name", .text)] := by
    rcases hk with hk | hk <;> rw [hk] <;> rfl
  have hname : Tree.fieldSort p.node.kind "name" = some .text := by
    rw [Tree.fieldSort, hs]; rfl
  rw [weigh_eq_sum φ h hs, List.map_singleton, List.sum_singleton,
    weighAt_leaf φ h hname (.inl rfl), Nat.add_zero]

end Site

end Deminify
