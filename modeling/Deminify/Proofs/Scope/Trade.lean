import Deminify.Proofs.Scope.Change
import Deminify.Proofs.Scope.Global
import Deminify.Proofs.Tree.Exchange

/-!
# Names in the place of operations

Operations on a literal are exchanged for names (`Deminify.Tree.Trades`). A name can stand wherever an operation can,
and nothing that a node is asked for makes a difference between the two. So **the tree in which they are exchanged is
well formed** (`Deminify.Tree.Trades.wellFormed`). Values come first, then the fields of one node, and the tree by
induction over its nodes.

An operation on a literal opens no scope, and nothing happens at it or below it. So the program has the sites that it
had, but for those of the literals (`Deminify.Reaches.traded`, `Deminify.exists_of_reaches_traded`), and **what happens
in it is what happened before, together with what happens at the names that are new** (`Deminify.happens_traded_iff`).
If these stand where names are read, nothing else is declared, and **all other names mean what they meant**
(`Deminify.Traded.resolves_iff`).
-/

namespace Deminify

namespace Tree

variable {make : Nat → Tree → Tree} {new : Nat → Option Nat} {t n c v : Tree} {l m : Nat} {fields : List (String × Tree)}

/-- **Whether operations are exchanged for names**: what is given a new label is an operation on a literal, and what is
made of it is a name with that label. -/
structure Trades (make : Nat → Tree → Tree) (new : Nat → Option Nat) (t : Tree) : Prop where
  label : ∀ m n, (make m n).label = m
  kind : ∀ m n, (make m n).kind = "Identifier"
  conforms : ∀ m n, (make m n).conforms = true
  operation : ∀ n ∈ t.subtree, (new n.label).isSome = true → n.kind = "UnaryExpression"
  operand : ∀ n ∈ t.subtree, (new n.label).isSome = true → ∀ c ∈ n.children, c.kind = "Literal"

theorem isLeaf_of_isObj (h : t.isObj = true) : t.isLeaf = false := by
  cases t <;> first | rfl | cases h

/-- A node that stays has its fields changed. -/
theorem mapNodes_of_none (h : new l = none) : (obj l fields).mapNodes (exchangeNode make new) =
    obj l (mapNodesFields (exchangeNode make new) fields) := by
  rw [mapNodes, exchangeNode, label_obj, h]

/-- A node that is exchanged is made anew. -/
theorem mapNodes_of_some (h : new l = some m) : (obj l fields).mapNodes (exchangeNode make new) =
    make m (obj l (mapNodesFields (exchangeNode make new) fields)) := by
  rw [mapNodes, exchangeNode, label_obj, h]

namespace Trades

variable (h : Trades make new t)

include h

theorem hasFields (m : Nat) (n : Tree) : (make m n).hasFields = true := (Bool.and_eq_true_iff.mp (h.conforms m n)).1

theorem isNode_change (hn : n.isNode = true) : (exchangeNode make new n).isNode = true := by
  rw [exchangeNode]
  split
  · exact isNode_of_hasFields (h.hasFields _ _)
  · exact hn

theorem isObj_change (hn : n.isObj = true) : (exchangeNode make new n).isObj = true := by
  rw [exchangeNode]
  split
  · exact isObj_of_hasFields (h.hasFields _ _)
  · exact hn

/-- A name stands for itself and has nothing below it. -/
theorem slots_make (m : Nat) (n : Tree) : (make m n).slots = [] := slots_of_atom (h.hasFields m n) (.inl (h.kind m n))

/-- What is not an operation is not exchanged. -/
theorem new_eq_none (hn : n ∈ t.subtree) (hk : n.kind ≠ "UnaryExpression") : new n.label = none := by
  by_contra hne
  exact hk (h.operation n hn (Option.isSome_iff_ne_none.mpr hne))

/-! ### Values -/

/-- What tells neither lists of a length apart nor nodes is the same of a value and of what has become of it. -/
theorem value_congr {α : Type} {f : Tree → α}
    (hlist : ∀ items, f (list (items.map (mapNodesItem (exchangeNode make new)))) = f (list items))
    (hnode : ∀ v v', v.isNode = true → v'.isNode = true → f v' = f v) (v : Tree) :
    f (mapNodesValue (exchangeNode make new) v) = f v := by
  rw [mapNodesValue_eq]
  split
  · rename_i hl
    cases v with
    | list items => exact hlist items
    | _ => cases hl
  · rw [mapNodesItem_eq]
    split
    · rename_i hn
      exact hnode _ _ hn (isNode_mapNodes (fun _ => h.isNode_change) hn)
    · rfl

/-- What is there is still there. -/
theorem truthy_value (v : Tree) : (mapNodesValue (exchangeNode make new) v).truthy = v.truthy :=
  h.value_congr (fun items => by rw [truthy, truthy, List.isEmpty_map])
    (fun v v' hv hv' => by rw [truthy_of_isNode hv, truthy_of_isNode hv']) v

theorem isNull_value (v : Tree) : (mapNodesValue (exchangeNode make new) v).isNull = v.isNull :=
  h.value_congr (f := isNull) (fun _ => rfl)
    (fun v v' hv hv' => by cases v <;> first | cases hv | (cases v' <;> first | rfl | cases hv')) v

theorem isLeaf_value (v : Tree) : (mapNodesValue (exchangeNode make new) v).isLeaf = v.isLeaf :=
  h.value_congr (f := isLeaf) (fun _ => rfl)
    (fun v v' hv hv' => by rw [isLeaf_of_isObj (isObj_of_isNode hv), isLeaf_of_isObj (isObj_of_isNode hv')]) v

theorem isTrue_value (v : Tree) : (mapNodesValue (exchangeNode make new) v).isTrue = v.isTrue :=
  h.value_congr (f := isTrue) (fun _ => rfl)
    (fun v v' hv hv' => by cases v <;> first | cases hv | (cases v' <;> first | rfl | cases hv')) v

theorem str?_value (v : Tree) : (mapNodesValue (exchangeNode make new) v).str? = v.str? :=
  str?_mapNodesValue (fun _ => h.isObj_change) v

/-! ### Kinds -/

/-- An item is of the same kind, or it is an operation and becomes a name. -/
theorem isOf_item {kinds : String → Bool} (hc : c.isNode = true → c ∈ t.subtree)
    (hk : kinds "UnaryExpression" = true → kinds "Identifier" = true) (hof : c.isOf kinds = true) :
    (mapNodesItem (exchangeNode make new) c).isOf kinds = true := by
  have hn := isNode_of_isOf hof
  have hkind := kinds_of_isOf hof
  rw [mapNodesItem_eq, if_pos hn]
  cases c with
  | obj l fields =>
    cases hl : new l with
    | none =>
      obtain ⟨kind, -, htype, hp⟩ := isOf_iff.mp hof
      rw [mapNodes_of_none hl]
      refine isOf_iff.mpr ⟨kind, rfl, ?_, hp⟩
      rw [get?_obj] at htype
      rw [get?_obj, lookup_mapNodesFields, htype]
      rfl
    | some m =>
      rw [h.operation _ (hc hn) (Option.isSome_of_eq_some hl)] at hkind
      rw [mapNodes_of_some hl]
      exact isOf_iff.mpr ⟨"Identifier", isObj_of_hasFields (h.hasFields m _),
        (get?_type_of_hasFields (h.hasFields m _)).trans (by rw [h.kind]), hk hkind⟩
  | _ => cases hn

/-- What is neither an operation nor a name is what it was. -/
theorem isKind_item (hc : c.isNode = true → c ∈ t.subtree) {kind : String} (hold : kind ≠ "UnaryExpression")
    (hmade : kind ≠ "Identifier") : (mapNodesItem (exchangeNode make new) c).isKind kind = c.isKind kind := by
  rw [mapNodesItem_eq]
  split
  · rename_i hn
    cases c with
    | obj l fields =>
      cases hl : new l with
      | none => rw [mapNodes_of_none hl, isKind_mapNodesFields]
      | some m =>
        have hop := h.operation _ (hc hn) (Option.isSome_of_eq_some hl)
        have hnot : (obj l fields).isKind kind = false := by
          rw [Bool.eq_false_iff]
          intro hkind
          exact hold ((kind_of_get? (get?_of_isKind hkind)).symm.trans hop)
        rw [mapNodes_of_some hl, hnot, Bool.eq_false_iff, ne_eq, isKind_iff_of_hasFields (h.hasFields m _), h.kind]
        exact hmade.symm
    | _ => cases hn
  · rfl

/-- A value keeps its kind, unless it is one of those exchanged or made. -/
theorem isKind_value (hv : v.isNode = true → v ∈ t.subtree) {kind : String} (hold : kind ≠ "UnaryExpression")
    (hmade : kind ≠ "Identifier") : (mapNodesValue (exchangeNode make new) v).isKind kind = v.isKind kind := by
  rw [mapNodesValue_eq]
  split
  · rename_i hlist
    cases v with
    | list items => rfl
    | _ => cases hlist
  · exact h.isKind_item hv hold hmade

/-- What a field takes it still takes, if it takes a name in the place of an operation. -/
theorem takes_value {sort : FieldSort} (hv : ∀ c, c.isNode = true → c = v ∨ c ∈ v.items → c ∈ t.subtree)
    (hs : sort.admits "UnaryExpression" = true → sort.admits "Identifier" = true) (ht : sort.takes v = true) :
    sort.takes (mapNodesValue (exchangeNode make new) v) = true := by
  have hnode {kinds : String → Bool} (hk : kinds "UnaryExpression" = true → kinds "Identifier" = true)
      (hof : v.isOf kinds = true) : (mapNodesValue (exchangeNode make new) v).isOf kinds = true := by
    have hlist := isList_of_isNode (isNode_of_isOf hof)
    rw [mapNodesValue_eq, hlist, if_neg (by decide)]
    exact h.isOf_item (fun hn => hv v hn (.inl rfl)) hk hof
  cases sort with
  | text =>
    rw [FieldSort.takes, h.str?_value]
    exact ht
  | flag =>
    cases v <;> first | exact ht | cases ht
  | leaf => rwa [FieldSort.takes, h.isLeaf_value]
  | record =>
    rw [FieldSort.takes, Bool.and_eq_true, Bool.not_eq_true'] at ht
    have hsame : mapNodesValue (exchangeNode make new) v = v := by
      rw [mapNodesValue_eq, mapNodesItem_eq, ht.2]
      cases v <;> first | rfl | cases ht.1
    rw [hsame, FieldSort.takes, ht.1, ht.2]
    rfl
  | node kinds => exact hnode hs ht
  | optional kinds =>
    rw [FieldSort.takes, Bool.or_eq_true] at ht ⊢
    rw [h.isNull_value]
    exact ht.imp_right (hnode hs)
  | nodes kinds =>
    cases v with
    | list items =>
      rw [mapNodesValue, mapNodesItems_eq]
      refine List.all_eq_true.mpr fun x hx => ?_
      obtain ⟨c, hc, rfl⟩ := List.mem_map.mp hx
      exact h.isOf_item (fun hn => hv c hn (.inr hc)) hs (List.all_eq_true.mp ht c hc)
    | _ => cases ht
  | holes kinds =>
    cases v with
    | list items =>
      rw [mapNodesValue, mapNodesItems_eq]
      refine List.all_eq_true.mpr fun x hx => ?_
      obtain ⟨c, hc, rfl⟩ := List.mem_map.mp hx
      have hold := Bool.or_eq_true_iff.mp (List.all_eq_true.mp ht c hc)
      refine Bool.or_eq_true_iff.mpr (hold.imp (fun hnull => ?_) (h.isOf_item (fun hn => hv c hn (.inr hc)) hs))
      cases c <;> first | rfl | cases hnull
    | _ => cases ht

/-! ### The fields of a node that stays -/

section Fields

variable (hn : obj l fields ∈ t.subtree)

omit h in
include hn in
/-- What a node holds is in the tree. -/
theorem mem_of_value {key : String} (hv : (obj l fields).get? key = some v) (hkey : holdsChildren key = true)
    (hc : c.isNode = true) (hcv : c = v ∨ c ∈ v.items) : c ∈ t.subtree :=
  mem_subtree_of_mem_children hn (mem_children.mpr ⟨hc, key, v, mem_of_lookup hv, hkey, hcv⟩)

omit h in
/-- What a node that stays holds is changed in place. -/
theorem get?_mapNodesFields {key : String} (hkey : holdsChildren key = true) :
    (obj l (mapNodesFields (exchangeNode make new) fields)).get? key =
      ((obj l fields).get? key).map (mapNodesValue (exchangeNode make new)) := by
  rw [get?_obj, lookup_mapNodesFields, get?_obj]
  exact congrArg (Option.map · _) (funext fun v => if_pos hkey)

omit h in
theorem get_mapNodesFields {key : String} (hkey : holdsChildren key = true) :
    (obj l (mapNodesFields (exchangeNode make new) fields)).get key =
      mapNodesValue (exchangeNode make new) ((obj l fields).get key) := by
  rw [get, get?_mapNodesFields hkey, get]
  cases (obj l fields).get? key <;> rfl

/-- A key that stands for itself still does. -/
theorem isPlainKey_value (hv : v.isNode = true → v ∈ t.subtree) (hplain : v.isPlainKey = true) :
    (mapNodesValue (exchangeNode make new) v).isPlainKey = true := by
  have hn : v.isNode = true := by
    rw [isPlainKey, Bool.or_eq_true, Bool.and_eq_true] at hplain
    rcases hplain with hk | ⟨hk, -⟩
    all_goals
      rw [isNode, (kind_of_isKind hk).1, get?_of_isKind hk]
      rfl
  rw [mapNodesValue_eq, isList_of_isNode hn, if_neg (by decide), mapNodesItem_eq, if_pos hn]
  cases v with
  | obj l fields =>
    cases hl : new l with
    | none =>
      rw [mapNodes_of_none hl]
      rw [isPlainKey, Bool.or_eq_true, Bool.and_eq_true] at hplain ⊢
      rw [isKind_mapNodesFields, isKind_mapNodesFields, get_mapNodesFields rfl]
      refine hplain.imp_right (And.imp_right fun hvalue => ?_)
      cases hw : (obj l fields).get "value" <;> rw [hw] at hvalue <;> first | rfl | cases hvalue
    | some m =>
      rw [mapNodes_of_some hl, isPlainKey, (isKind_iff_of_hasFields (h.hasFields m _)).mpr (h.kind m _), Bool.true_or]
  | _ => cases hn

include hn

/-- A node that stays has the fields that it had. -/
theorem hasFields_mapNodesFields (hf : (obj l fields).hasFields = true) :
    (obj l (mapNodesFields (exchangeNode make new) fields)).hasFields = true := by
  obtain ⟨spec, hs⟩ := exists_schema_of_hasFields hf
  have table : ∀ entry ∈ schemaTable, ∀ field ∈ entry.2, field.2.admits "UnaryExpression" = true →
      field.2.admits "Identifier" = true := by decide +kernel
  have hall := hf
  simp only [Tree.hasFields, hs, Bool.and_eq_true, List.all_eq_true, Bool.or_eq_true] at hall
  simp only [Tree.hasFields, kind_mapNodesFields, hs, Bool.and_eq_true, List.all_eq_true, Bool.or_eq_true]
  refine ⟨⟨⟨?_, fun entry hentry => ?_⟩, fun field hfield => ?_⟩, ?_⟩
  · refine decide_eq_true ?_
    rw [fields_obj, DistinctKeys, mapNodesFields_eq, List.map_map]
    exact distinct_of_hasFields hf
  · obtain ⟨v, hv, ht⟩ := takes_of_hasFields hf hs (show (entry.1, entry.2) ∈ spec from hentry)
    have hkey := holdsChildren_of_schema hs (show (entry.1, entry.2) ∈ spec from hentry)
    rw [get?_mapNodesFields hkey, hv]
    exact h.takes_value (fun c hc hcv => mem_of_value hn hv hkey hc hcv)
      (table _ (mem_of_lookup hs) entry hentry) ht
  · rw [fields_obj, mapNodesFields_eq] at hfield
    obtain ⟨f, hf, rfl⟩ := List.mem_map.mp hfield
    have hknown := hall.1.2 f hf
    rw [isKnownField, Bool.or_eq_true, Bool.or_eq_true] at hknown ⊢
    refine hknown.imp_right fun hleaf => ?_
    dsimp only
    split
    · rwa [h.isLeaf_value]
    · exact hleaf
  · refine hall.2.imp_right fun hkeeps => ?_
    rw [keepsKey, Bool.or_eq_true] at hkeeps ⊢
    show ((obj l (mapNodesFields _ fields)).get? "computed").any isTrue = true ∨
      ((obj l (mapNodesFields _ fields)).get? "key").any isPlainKey = true
    rw [get?_mapNodesFields rfl, get?_mapNodesFields rfl, Option.any_map, Option.any_map]
    refine hkeeps.imp (fun hcomputed => ?_) fun hkey => ?_
    · obtain ⟨v, hv, htrue⟩ := (Option.any_eq_true _ _).mp hcomputed
      exact (Option.any_eq_true _ _).mpr ⟨v, hv, (h.isTrue_value v).trans htrue⟩
    · obtain ⟨v, hv, hplain⟩ := (Option.any_eq_true _ _).mp hkey
      exact (Option.any_eq_true _ _).mpr
        ⟨v, hv, h.isPlainKey_value (fun hnode => mem_of_value hn hv rfl hnode (.inl rfl)) hplain⟩

/-- What an import binds can still stand together. -/
theorem keepsImport_mapNodesFields (hf : (obj l fields).hasFields = true) (hk : (obj l fields).kind = "ImportDeclaration")
    (hi : keepsImport fields = true) : keepsImport (mapNodesFields (exchangeNode make new) fields) = true := by
  have hs : schema (obj l fields).kind =
      some [("specifiers", .nodes isImportNameKind), ("source", .node (· == "Literal"))] := by
    rw [hk]
    rfl
  obtain ⟨source, hsource, hliteral⟩ := takes_of_hasFields hf hs (List.mem_cons_of_mem _ List.mem_cons_self)
  obtain ⟨specifiers, hspecifiers, hlist⟩ := takes_of_hasFields hf hs List.mem_cons_self
  rw [keepsImport, Bool.and_eq_true, show fields.lookup "source" = some source from hsource,
    show fields.lookup "specifiers" = some specifiers from hspecifiers, Option.any_some, Option.any_some] at hi
  rw [keepsImport, Bool.and_eq_true]
  show ((obj l (mapNodesFields (exchangeNode make new) fields)).get? "source").any _ = true ∧
    ((obj l (mapNodesFields (exchangeNode make new) fields)).get? "specifiers").any _ = true
  rw [get?_mapNodesFields rfl, get?_mapNodesFields rfl, hsource, hspecifiers]
  refine ⟨?_, ?_⟩
  · -- the module is named by a literal, which stays
    have hnode : source.isNode = true := isNode_of_isOf hliteral
    have hkind : source.kind = "Literal" := by simpa using kinds_of_isOf hliteral
    have hnone := h.new_eq_none (mem_of_value hn hsource rfl hnode (.inl rfl)) (by rw [hkind]; decide)
    cases source with
    | obj l' fields' =>
      rw [label_obj] at hnone
      show ((mapNodesItem (exchangeNode make new) (obj l' fields')).get "value").str?.isSome = true
      rw [mapNodesItem_eq, if_pos hnode, mapNodes_of_none hnone, get_mapNodesFields rfl, h.str?_value]
      exact hi.1
    | _ => cases hnode
  · cases specifiers with
    | list items =>
      have hitem {kind : String} (hold : kind ≠ "UnaryExpression") (hmade : kind ≠ "Identifier") :
          ∀ c ∈ items, (mapNodesItem (exchangeNode make new) c).isKind kind = c.isKind kind := fun c hc =>
        h.isKind_item (fun hnode => mem_of_value hn hspecifiers rfl hnode (.inr hc)) hold hmade
      have hany {kind : String} (hold : kind ≠ "UnaryExpression") (hmade : kind ≠ "Identifier") :
          bindsKind (items.map (mapNodesItem (exchangeNode make new))) kind = bindsKind items kind := by
        rw [bindsKind, bindsKind, List.any_map, Bool.eq_iff_iff, List.any_eq_true, List.any_eq_true]
        exact exists_congr fun c => and_congr_right fun hc => by rw [Function.comp_apply, hitem hold hmade c hc]
      rw [Option.map_some, Option.any_some, mapNodesValue, mapNodesItems_eq]
      rw [items_list, bindsTogether] at hi ⊢
      rw [hany (by decide) (by decide), hany (by decide) (by decide), List.countP_map,
        List.countP_congr fun c hc => by rw [Function.comp_apply, hitem (by decide) (by decide) c hc]]
      exact hi.2
    | _ => cases hlist

end Fields

/-! ### The tree -/

/-- **The tree in which operations are exchanged for names** is well formed. -/
theorem wellFormed (hw : t.WellFormed) : (t.mapNodes (exchangeNode make new)).WellFormed := by
  refine @children_induct (fun n => (n.mapNodes (exchangeNode make new)).WellFormed) t fun n hn ih => ?_
  have hconforms := hw n hn
  cases n with
  | obj l fields =>
    cases hl : new l with
    | some m =>
      rw [mapNodes_of_some hl]
      refine wellFormed_iff.mpr ⟨h.conforms _ _, ?_⟩
      rw [children, h.slots_make]
      exact List.forall_mem_nil _
    | none =>
      rw [mapNodes_of_none hl]
      obtain ⟨hfields, himport⟩ := Bool.and_eq_true_iff.mp hconforms
      refine wellFormed_iff.mpr ⟨?_, ?_⟩
      · rw [Tree.conforms, h.hasFields_mapNodesFields hn hfields, kind_mapNodesFields, Bool.true_and]
        by_cases hk : (obj l fields).kind = "ImportDeclaration"
        · rw [hk] at himport ⊢
          exact h.keepsImport_mapNodesFields hn hfields hk himport
        · rw [bne_iff_ne.mpr hk, Bool.true_or]
      · rw [children_mapNodesFields fun _ => h.isNode_change]
        intro x hx
        obtain ⟨c, hc, rfl⟩ := List.mem_map.mp hx
        exact ih c hc
  | _ => cases isObj_of_hasFields (Bool.and_eq_true_iff.mp hconforms).1

end Trades

end Tree

open Deminify.Tree

variable {make : Nat → Tree → Tree} {new : Nat → Option Nat} {t n c : Tree} {l m : Nat} {p q q' : Site}

/-- The site of a node when operations are exchanged for names. -/
def Site.traded (make : Nat → Tree → Tree) (new : Nat → Option Nat) (p : Site) : Site :=
  ⟨p.node.mapNodes (exchangeNode make new), p.role, p.frames⟩

/-! ### Sites -/

namespace Tree.Trades

variable (h : Trades make new t)

include h

/-- A node that stays is alike in all that the sites below depend on. -/
theorem alike (hn : n ∈ t.subtree) (hobj : n.isObj = true) (hnew : new n.label = none) :
    Alike n (n.mapNodes (exchangeNode make new)) := by
  cases n with
  | obj l fields =>
    rw [mapNodes_of_none (l := l) hnew]
    refine ⟨rfl, kind_mapNodesFields l fields, ?_, ?_, ?_, ?_, ?_, ?_, ?_⟩
    · rw [get_mapNodesFields rfl, h.str?_value]
    · rw [get_mapNodesFields rfl, h.str?_value]
    · rw [get_mapNodesFields rfl, h.truthy_value]
    · rw [get_mapNodesFields rfl, h.isNull_value]
    · rw [get_mapNodesFields rfl, h.isKind_value (fun hnode => ?_) (by decide) (by decide)]
      exact mem_subtree_of_mem_children hn (mem_children_of_get hnode rfl (.inl rfl))
    · rw [get_mapNodesFields rfl, h.truthy_value]
    · rw [get_mapNodesFields rfl, h.isNull_value]
  | _ => cases hobj

/-- A node that stays keeps its places. -/
theorem slots_mapNodes (hobj : n.isObj = true) (hnew : new n.label = none) :
    (n.mapNodes (exchangeNode make new)).slots = n.slots.map fun x => (x.1, x.2.mapNodes (exchangeNode make new)) := by
  cases n with
  | obj l fields => rw [mapNodes_of_none (l := l) hnew, slots_mapNodesFields fun _ => h.isNode_change]
  | _ => cases hobj

/-- A node that is made has no children. -/
theorem slots_mapNodes_of_some (hobj : n.isObj = true) (hnew : new n.label = some m) :
    (n.mapNodes (exchangeNode make new)).slots = [] := by
  cases n with
  | obj l fields => rw [mapNodes_of_some (l := l) hnew, h.slots_make]
  | _ => cases hobj

/-- The sites below a node that stays are traded with it. -/
theorem below_traded (hp : p.node ∈ t.subtree) (hobj : p.node.isObj = true) (hnew : new p.node.label = none)
    (key : String) (c : Tree) :
    (p.traded make new).below key (c.mapNodes (exchangeNode make new)) = (p.below key c).traded make new := by
  rw [@Site.below_alike p (p.traded make new) (h.alike hp hobj hnew) rfl rfl]
  rfl

end Tree.Trades

section Sites

variable (h : Trades make new t) (hw : t.WellFormed)

include h hw

/-- **A node stands where it stood**, unless it is below one that is exchanged. -/
theorem Reaches.traded (hq : Reaches p q) (hp : p.node ∈ t.subtree) : Reaches (p.traded make new) (q.traded make new) ∨
    ∃ r slot c, Reaches p r ∧ (new r.node.label).isSome = true ∧ (slot, c) ∈ r.node.slots ∧
      Reaches (r.below slot.key c) q := by
  induction hq with
  | refl p => exact .inl (.refl _)
  | @step p q slot child hx hq ih =>
    have hobj : p.node.isObj = true := isObj_of_hasFields (Bool.and_eq_true_iff.mp (hw _ hp)).1
    cases hnew : new p.node.label with
    | some m => exact .inr ⟨p, slot, child, .refl p, Option.isSome_of_eq_some hnew, hx, hq⟩
    | none =>
      refine (ih (mem_subtree_of_mem_children hp (mem_children_of_mem_slots hx))).imp (fun hr => ?_) ?_
      · have hslot : (slot, child.mapNodes (exchangeNode make new)) ∈ (p.traded make new).node.slots := by
          rw [Site.traded, h.slots_mapNodes hobj hnew]
          exact List.mem_map_of_mem hx
        refine .step hslot ?_
        rw [h.below_traded hp hobj hnew]
        exact hr
      · rintro ⟨r, slot', c, hr, hrest⟩
        exact ⟨r, slot', c, .step hx hr, hrest⟩

/-- **What stands in the new program** stood in the old one. -/
theorem exists_of_reaches_traded (hq : Reaches (p.traded make new) q') (hp : p.node ∈ t.subtree) :
    ∃ q, Reaches p q ∧ q.traded make new = q' := by
  generalize hs : p.traded make new = s at hq
  induction hq generalizing p with
  | refl s => exact ⟨p, .refl p, hs⟩
  | @step s q' slot child hx hq ih =>
    subst hs
    have hobj : p.node.isObj = true := isObj_of_hasFields (Bool.and_eq_true_iff.mp (hw _ hp)).1
    have hslots : (slot, child) ∈ (p.node.mapNodes (exchangeNode make new)).slots := hx
    cases hnew : new p.node.label with
    | some m =>
      rw [h.slots_mapNodes_of_some hobj hnew] at hslots
      cases hslots
    | none =>
      rw [h.slots_mapNodes hobj hnew] at hslots
      obtain ⟨⟨slot', c⟩, hslot, he⟩ := List.mem_map.mp hslots
      cases he
      obtain ⟨q, hr, he⟩ := ih (mem_subtree_of_mem_children hp (mem_children_of_mem_slots hslot))
        (h.below_traded hp hobj hnew _ c).symm
      exact ⟨q, .step hslot hr, he⟩

/-! ### What happens -/

/-- What is below an operation that is exchanged is a literal. -/
theorem kind_below_operation {r : Site} (hr : r.node ∈ t.subtree) (hnew : (new r.node.label).isSome = true) {slot : Slot}
    (hx : (slot, c) ∈ r.node.slots) (hq : Reaches (r.below slot.key c) q) : q.node.kind = "Literal" := by
  have hc := mem_children_of_mem_slots hx
  have hliteral := h.operand _ hr hnew c hc
  cases hq with
  | refl => exact hliteral
  | @step _ _ slot' c' hx' _ =>
    have hslots : c.slots = [] :=
      slots_of_atom (Bool.and_eq_true_iff.mp (hw _ (mem_subtree_of_mem_children hr hc))).1 (.inr hliteral)
    have hnone : (slot', c') ∈ c.slots := hx'
    rw [hslots] at hnone
    cases hnone

omit h hw in
/-- Nothing happens at an operation or at a literal. -/
theorem events_of_kind (hk : q.node.kind = "UnaryExpression" ∨ q.node.kind = "Literal") : q.events = [] := by
  rcases hk with hk | hk <;> simp [Site.events, Site.opened, Site.openedKinds, hk]

variable (hroot : new t.label = none)

omit hw in
include hroot in
theorem root_traded : Site.root (t.mapNodes (exchangeNode make new)) = (Site.root t).traded make new := by
  have hlabel : (t.mapNodes (exchangeNode make new)).label = t.label := by
    cases t with
    | obj l fields => rw [mapNodes_of_none (l := l) hroot, label_obj, label_obj]
    | _ => rfl
  rw [Site.root, hlabel]
  rfl

include hroot

/-- **What happens in the new program** is what happened in the old one, and what happens at the names that are new. -/
theorem happens_traded_iff {e : Event} : Happens (t.mapNodes (exchangeNode make new)) e ↔ Happens t e ∨
    ∃ q, Stands t q ∧ (new q.node.label).isSome = true ∧ e ∈ (q.traded make new).events := by
  have hself := mem_subtree_self t
  have hobj {q : Site} (hq : Stands t q) : q.node.isObj = true :=
    isObj_of_hasFields (Bool.and_eq_true_iff.mp (hw _ hq.mem_subtree)).1
  have hsame {q : Site} (hq : Stands t q) (hnew : new q.node.label = none) : (q.traded make new).events = q.events :=
    @Site.events_alike q (q.traded make new) (h.alike hq.mem_subtree (hobj hq) hnew) rfl rfl
  constructor
  · rintro ⟨q', hq, he⟩
    rw [Stands, root_traded h hroot] at hq
    obtain ⟨q, hstands, rfl⟩ := exists_of_reaches_traded h hw hq hself
    replace hq : Stands t q := hstands
    cases hnew : new q.node.label with
    | none => exact .inl ⟨q, hq, by rwa [hsame hq hnew] at he⟩
    | some m => exact .inr ⟨q, hq, Option.isSome_of_eq_some hnew, he⟩
  · have htraded {q : Site} {e : Event} (hq : Stands t q) (hr : Reaches ((Site.root t).traded make new) (q.traded make new))
        (he : e ∈ (q.traded make new).events) : Happens (t.mapNodes (exchangeNode make new)) e := by
      refine ⟨_, ?_, he⟩
      rw [Stands, root_traded h hroot]
      exact hr
    rintro (⟨q, hq, he⟩ | ⟨q, hq, hnew, he⟩)
    · rcases Reaches.traded h hw hq hself with hr | ⟨r, slot, c, hr, hnew, hx, hbelow⟩
      · cases hnew : new q.node.label with
        | none => exact htraded hq hr (by rwa [hsame hq hnew])
        | some m =>
          rw [events_of_kind (.inl (h.operation _ hq.mem_subtree (Option.isSome_of_eq_some hnew)))] at he
          cases he
      · rw [events_of_kind (.inr (kind_below_operation h hw hr.mem_subtree hnew hx hbelow))] at he
        cases he
    · rcases Reaches.traded h hw hq hself with hr | ⟨r, slot, c, hr, habove, hx, hbelow⟩
      · exact htraded hq hr he
      · -- below an operation that is exchanged there is no other
        have hliteral := kind_below_operation h hw hr.mem_subtree habove hx hbelow
        rw [h.operation _ hq.mem_subtree hnew] at hliteral
        exact absurd hliteral (by decide)

end Sites

/-! ### What names mean -/

/-- **A program in which operations are exchanged for names** that stand where names are read. -/
structure Traded (make : Nat → Tree → Tree) (new : Nat → Option Nat) (name : String) (t : Tree) : Prop where
  trades : Trades make new t
  is : t.Is (· == "Program")
  name : ∀ m n, (make m n).get "name" = .str name
  labelled : (t.mapNodes (exchangeNode make new)).Labelled
  reads : ∀ q, Stands t q → (new q.node.label).isSome = true → q.role = .reads

namespace Traded

variable {name : String} (h : Traded make new name t)

include h

theorem root : new t.label = none :=
  h.trades.new_eq_none (mem_subtree_self t) (by rw [beq_iff_eq.mp h.is.kinds]; decide)

/-- A new name is used where it stands. -/
theorem events_traded (hq : Stands t q) (hnew : new q.node.label = some m) :
    (q.traded make new).events = [.use m name false q.frames] := by
  have hobj : q.node.isObj = true := isObj_of_hasFields (Bool.and_eq_true_iff.mp (h.is.2 _ hq.mem_subtree)).1
  have hrole := h.reads q hq (Option.isSome_of_eq_some hnew)
  obtain ⟨node, role, frames⟩ := q
  dsimp only at hrole hobj hnew
  cases node with
  | obj l fields =>
    rw [Site.traded, mapNodes_of_some (l := l) hnew, Site.events]
    dsimp only
    rw [h.trades.kind, h.trades.label, h.name, hrole]
    rfl
  | _ => cases hobj

/-- **What happens** is what happened, and the new names are used. -/
theorem happens_iff {e : Event} : Happens (t.mapNodes (exchangeNode make new)) e ↔ Happens t e ∨
    ∃ q m, Stands t q ∧ new q.node.label = some m ∧ e = .use m name false q.frames := by
  rw [happens_traded_iff h.trades h.is.2 h.root]
  refine or_congr_right ⟨?_, ?_⟩
  · rintro ⟨q, hq, hnew, he⟩
    obtain ⟨m, hm⟩ := Option.isSome_iff_exists.mp hnew
    rw [h.events_traded hq hm, List.mem_singleton] at he
    exact ⟨q, m, hq, hm, he⟩
  · rintro ⟨q, m, hq, hm, rfl⟩
    refine ⟨q, hq, Option.isSome_of_eq_some hm, ?_⟩
    rw [h.events_traded hq hm]
    exact List.mem_singleton_self _

/-- **What is declared is declared as before.** -/
theorem happens_declares_iff {l : Nat} {x : String} {home : Frame} {initializes : Bool} :
    Happens (t.mapNodes (exchangeNode make new)) (.declares l x home initializes) ↔
      Happens t (.declares l x home initializes) := by
  rw [h.happens_iff, or_iff_left]
  rintro ⟨_, _, -, -, he⟩
  cases he

/-- **All names belong to the scopes that they belonged to.** -/
theorem resolves_iff (x : String) (frames : List Frame) (found : Option Frame) :
    Resolves (t.mapNodes (exchangeNode make new)) x frames found ↔ Resolves t x frames found := by
  have hdeclared (f : Frame) : DeclaredIn (t.mapNodes (exchangeNode make new)) f x ↔ DeclaredIn t f x := by
    simp only [DeclaredIn, h.happens_declares_iff]
  exact ⟨.congr hdeclared, .congr fun f => (hdeclared f).symm⟩

/-- **What declares a name declared it before.** -/
theorem declaredBy_iff (x : String) (frames : List Frame) (d : Nat) :
    DeclaredBy (t.mapNodes (exchangeNode make new)) x frames d ↔ DeclaredBy t x frames d := by
  simp only [DeclaredBy, h.resolves_iff, h.happens_declares_iff]

open ScopeTree

/-- **What the scopes of the new program tell**: where its names are recorded, and that each name that was used is
declared by what declared it. -/
theorem exists_fresh {notes : List Note} (ht : Tells t notes) :
    ∃ fresh, build (t.mapNodes (exchangeNode make new)) = .ok fresh ∧
      (∀ q m, Stands t q → new q.node.label = some m → Resolves t name q.frames none →
        fresh.RecordedAs m (recordsOf name false none)) ∧
      ∀ l x writes frames, Happens t (.use l x writes frames) →
        ∀ d, d ∈ fresh.declarersOf l ↔ d ∈ (ofNotes t.label notes).declarersOf l := by
  have hkind : (t.mapNodes (exchangeNode make new)).kind = t.kind :=
    (h.trades.alike (mem_subtree_self t) h.is.2.isObj h.root).kind
  obtain ⟨notes', hwalk, ht'⟩ := ScopeTree.exists_tells
    (is_iff.mpr ⟨h.trades.wellFormed h.is.2, hkind ▸ h.is.kinds⟩) h.labelled
  refine ⟨ofNotes _ notes', by rw [build, hwalk]; rfl, fun q m hq hm hnone => ?_, fun l x writes frames hu d => ?_⟩
  · have hused := h.happens_iff.mpr (.inr ⟨q, m, hq, hm, rfl⟩)
    rcases ht'.recordedAs_of_happens hused with ⟨frame, b, hr, -⟩ | ⟨-, hrecorded⟩
    · cases ((h.resolves_iff name q.frames _).mp hr).unique hnone
    · exact hrecorded
  · rw [ht'.mem_declarersOf (h.happens_iff.mpr (.inl hu)), ht.mem_declarersOf hu, h.declaredBy_iff]

end Traded

end Deminify
