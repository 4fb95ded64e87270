import Deminify.Proofs.Tree.Edit

/-!
# The names that a program exports

A program exports the names that its export declarations declare, the names under which its specifiers
give something out, and `default`. They are found by going down from the program, and only through
parts that lead to them: the table `Deminify.exportParts` says which. What is passed on the way is the
*outline* of the program (`Deminify.Tree.outline`), and the exported names can be read off it
(`Deminify.Tree.exportedNames`).

An edit that does not touch the outline does not touch the names. This module says which changes of a
record keep the outline (`Deminify.Tree.outlineAt_set`), and which changes all over a tree keep the
names or the outline: those of its nodes (`Deminify.Tree.exportedNames_mapNodes`), and those of the
records with a label (`Deminify.Tree.outlineAt_edit_of_not_mem`, `Deminify.Tree.outlineAt_edit_of_mem`).
-/

namespace Deminify

/-- **The parts through which a program exports names**: the kind of a node, a key, whether the parts
under the key are in a list, and the kinds of those that count. Where no kinds are given, all do. -/
def exportParts : List (String × String × Bool × Option (List String)) := [
  ("", "", false, some ["Program"]),
  ("Program", "body", true, some ["ExportNamedDeclaration", "ExportDefaultDeclaration"]),
  ("ExportNamedDeclaration", "declaration", false,
    some ["VariableDeclaration", "FunctionDeclaration", "ClassDeclaration"]),
  ("ExportNamedDeclaration", "specifiers", true, some ["ExportSpecifier", "ExportDefaultSpecifier"]),
  ("ExportSpecifier", "exported", false, none),
  ("ExportDefaultSpecifier", "local", false, none),
  ("VariableDeclaration", "declarations", true, some ["VariableDeclarator"]),
  ("FunctionDeclaration", "id", false, none),
  ("ClassDeclaration", "id", false, none),
  ("VariableDeclarator", "id", false, none),
  -- patterns
  ("ObjectPattern", "properties", true, some ["Property", "RestElement"]),
  ("Property", "value", false, none),
  ("ArrayPattern", "elements", true, none),
  ("AssignmentPattern", "left", false, none),
  ("RestElement", "argument", false, none)]

/-- Whether a node of the kind exports names through what it has under the key. -/
def isExportKey (kind key : String) : Bool := exportParts.any fun part => part.1 == kind && part.2.1 == key

/-- Whether a part of the given kind counts there, in a list if `isItem` holds. -/
def leadsTo (kind key : String) (isItem : Bool) (part : String) : Bool :=
  exportParts.any fun (k, f, inList, parts) =>
    k == kind && f == key && inList == isItem && parts.all (·.contains part)

/-- Names are found under keys of exports only. -/
theorem isExportKey_of_leadsTo {kind key part : String} {isItem : Bool}
    (h : leadsTo kind key isItem part = true) : isExportKey kind key = true := by
  simp only [leadsTo, isExportKey, List.any_eq_true, Bool.and_eq_true] at h ⊢
  obtain ⟨entry, hmem, ⟨hkey, -⟩, -⟩ := h
  exact ⟨entry, hmem, hkey⟩

/-- No node exports names through a key that is not in the table. -/
theorem not_isExportKey {key : String} (h : ∀ part ∈ exportParts, part.2.1 ≠ key) (kind : String) :
    isExportKey kind key = false := by
  simp only [isExportKey, List.any_eq_false, Bool.and_eq_true, beq_iff_eq, not_and]
  exact fun part hmem _ => h part hmem

/-- The kinds of the nodes that are passed on the way to names. -/
def isNamingKind (kind : String) : Bool :=
  kind == "Identifier" || kind == "ExportDefaultDeclaration" || exportParts.any (·.1 == kind)

/-- A node that is passed on the way to exported names: its label, its kind, the names that it stands
for itself, and whether the fields that matter to its names stand there once each. -/
structure Passed where
  label : Nat
  kind : String
  names : List String
  isDistinct : Bool

/-- What is noted of a node apart from its label. -/
def Passed.face (p : Passed) : String × List String × Bool := (p.kind, p.names, p.isDistinct)

namespace Tree

/-- The names that a node of the outline stands for itself. -/
def ownNames (t : Tree) : List String :=
  if t.kind = "Identifier" then (t.get "name").str?.toList
  else if t.kind = "ExportDefaultDeclaration" then ["default"]
  else []

/-- Whether a field of a node of the kind matters to the names that it exports. -/
def isNamingKey (kind key : String) : Bool := isExportKey kind key || key == "name"

/-- The keys of the fields that matter to the names that a node exports. -/
def namingKeys (t : Tree) : List String := (t.fields.map (·.1)).filter (isNamingKey t.kind)

/-- What is noted of a node that is passed. -/
def passed (t : Tree) : Passed := ⟨t.label, t.kind, t.ownNames, decide t.namingKeys.Nodup⟩

mutual

/-- The nodes that are passed from a value under a key of a node of the given kind, or from an item
there. -/
def outlineAt (kind key : String) (isItem : Bool) (t : Tree) : List Passed :=
  match t with
  | .list items => if isItem then [] else outlineItems kind key items
  | .obj l fields =>
    if leadsTo kind key isItem (Tree.obj l fields).kind then
      (Tree.obj l fields).passed :: outlineFields (Tree.obj l fields).kind fields
    else []
  | _ => []
termination_by structural t

/-- The nodes that are passed from the items of a list. -/
def outlineItems (kind key : String) (items : List Tree) : List Passed :=
  match items with
  | [] => []
  | t :: rest => outlineAt kind key true t ++ outlineItems kind key rest
termination_by structural items

/-- The nodes that are passed from the fields of a node of the given kind. -/
def outlineFields (kind : String) (fields : List (String × Tree)) : List Passed :=
  match fields with
  | [] => []
  | (key, t) :: rest => outlineAt kind key false t ++ outlineFields kind rest
termination_by structural fields

end

/-- **The outline of a program**: the nodes that are passed on the way to the names it exports. -/
def outline (program : Tree) : List Passed := outlineAt "" "" false program

/-- The names that are exported through a value under a key of a node of the given kind. -/
def namesAt (kind key : String) (isItem : Bool) (t : Tree) : List String :=
  (outlineAt kind key isItem t).flatMap (·.names)

/-- **The names that a program exports.** -/
def exportedNames (program : Tree) : List String := namesAt "" "" false program

theorem outlineItems_eq (kind key : String) (items : List Tree) :
    outlineItems kind key items = items.flatMap (outlineAt kind key true) := by
  induction items with
  | nil => rfl
  | cons t rest ih => rw [outlineItems, ih, List.flatMap_cons]

theorem outlineFields_eq (kind : String) (fields : List (String × Tree)) :
    outlineFields kind fields = fields.flatMap fun f => outlineAt kind f.1 false f.2 := by
  induction fields with
  | nil => rfl
  | cons f rest ih => rw [outlineFields, ih, List.flatMap_cons]

section OutlineAt

variable {kind key : String} {isItem : Bool} {t : Tree}

theorem outlineAt_of_isLeaf (h : t.isLeaf = true) : outlineAt kind key isItem t = [] := by
  cases t <;> first | rfl | simp [isLeaf] at h

theorem outlineAt_list (items : List Tree) :
    outlineAt kind key false (.list items) = items.flatMap (outlineAt kind key true) := by
  rw [outlineAt, outlineItems_eq]
  rfl

/-- A list inside a list does not count. -/
theorem outlineAt_list_item (items : List Tree) : outlineAt kind key true (.list items) = [] := by
  rw [outlineAt, if_pos rfl]

/-- A node is on the outline if the key leads to names there. -/
theorem outlineAt_of_isObj (h : t.isObj = true) :
    outlineAt kind key isItem t = if leadsTo kind key isItem t.kind then
      t.passed :: outlineFields t.kind t.fields else [] := by
  cases t with
  | obj l fields => rw [outlineAt]; rfl
  | _ => simp [isObj] at h

/-- Nothing is passed from a record that does not count where it stands. -/
theorem outlineAt_of_not_leadsTo (h : t.isObj = true) (hnot : leadsTo kind key isItem t.kind = false) :
    outlineAt kind key isItem t = [] := by
  rw [outlineAt_of_isObj h, hnot]
  rfl

/-- Nothing is passed where no names are exported. -/
theorem outlineAt_of_not_isExportKey (h : isExportKey kind key = false) (t : Tree) :
    outlineAt kind key isItem t = [] := by
  induction t using Tree.induction generalizing isItem with
  | leaf t ht => exact outlineAt_of_isLeaf ht
  | list items ih =>
    cases isItem with
    | true => exact outlineAt_list_item items
    | false =>
      rw [outlineAt_list, List.flatMap_eq_nil_iff]
      exact fun t ht => ih t ht
  | obj l fields =>
    rw [outlineAt_of_isObj rfl, if_neg]
    intro hl
    rw [isExportKey_of_leadsTo hl] at h
    cases h

end OutlineAt

/-! ### Changing a field -/

section Set

variable {t value : Tree} {key : String}

theorem kind_set (h : key ≠ "type") : (t.set key value).kind = t.kind := by
  cases t with
  | obj l fields => rw [kind, kind, get?_set rfl, if_neg h.symm]
  | _ => rfl

/-- A node keeps its names when another field is set. -/
theorem ownNames_set (htype : key ≠ "type") (hname : key = "name" → value.str? = (t.get "name").str?) :
    (t.set key value).ownNames = t.ownNames := by
  cases t with
  | obj l fields =>
    have hget : (((obj l fields).set key value).get "name").str? = ((obj l fields).get "name").str? := by
      rw [get, get?_set rfl]
      split
      · rename_i hkey
        exact hname hkey.symm
      · rfl
    rw [ownNames, ownNames, kind_set htype, hget]
  | _ => rfl

/-- A node is passed as before when another field is set. -/
theorem passed_set (htype : key ≠ "type") (hname : key = "name" → value.str? = (t.get "name").str?) :
    (t.set key value).passed = t.passed := by
  have hkeys : (t.set key value).namingKeys.Nodup ↔ t.namingKeys.Nodup := by
    cases t with
    | obj l fields =>
      rw [namingKeys, namingKeys, kind_set htype, set, fields_obj, fields_obj, keys_putKey]
      split
      · rfl
      · rename_i hnew
        rw [List.filter_append, List.nodup_append]
        refine ⟨fun h => h.1, fun h => ⟨h, (List.nodup_singleton key).filter _, fun a ha b hb => ?_⟩⟩
        rw [List.mem_singleton.mp (List.mem_of_mem_filter hb)]
        exact fun hab => hnew (hab ▸ List.mem_of_mem_filter ha)
    | _ => rfl
  rw [passed, passed, label_set, kind_set htype, ownNames_set htype hname, decide_eq_decide.mpr hkeys]

/-- A field whose outline stays leaves that of the record. -/
theorem outlineFields_putKey {kind : String} {fields : List (String × Tree)}
    (h : outlineAt kind key false value = outlineAt kind key false ((fields.lookup key).getD .null)) :
    outlineFields kind (putKey fields key value) = outlineFields kind fields := by
  induction fields with
  | nil =>
    rw [putKey, outlineFields_eq, List.flatMap_singleton, h]
    rfl
  | cons f rest ih =>
    rw [lookup_cons_ite] at h
    rw [putKey]
    by_cases hk : key = f.1
    · rw [if_pos hk, Option.getD_some] at h
      subst hk
      rw [if_pos rfl, outlineFields, outlineFields, h]
    · rw [if_neg hk] at h
      rw [if_neg (Ne.symm hk), outlineFields, outlineFields, ih h]

/-- **Setting a field to a value with the outline of the old one keeps the outline.** -/
theorem outlineAt_set (h : outlineAt t.kind key false value = outlineAt t.kind key false (t.get key))
    (htype : key ≠ "type") (hname : key = "name" → value.str? = (t.get "name").str?)
    (kind' key' : String) (isItem : Bool) :
    outlineAt kind' key' isItem (t.set key value) = outlineAt kind' key' isItem t := by
  cases t with
  | obj l fields =>
    have hfields : outlineFields (obj l fields).kind ((obj l fields).set key value).fields =
        outlineFields (obj l fields).kind fields := outlineFields_putKey h
    rw [outlineAt_of_isObj rfl, outlineAt_of_isObj rfl, passed_set htype hname, kind_set htype, hfields]
    rfl
  | _ => rfl

/-- A field that exports nothing may be set to anything. -/
theorem outlineAt_set_of_not_isExportKey (h : isExportKey t.kind key = false) (htype : key ≠ "type")
    (hname : key = "name" → value.str? = (t.get "name").str?) (kind' key' : String) (isItem : Bool) :
    outlineAt kind' key' isItem (t.set key value) = outlineAt kind' key' isItem t :=
  outlineAt_set (by rw [outlineAt_of_not_isExportKey h, outlineAt_of_not_isExportKey h]) htype hname _ _ _

end Set

/-! ### Statements -/

/-- The outline of the statements of a program. -/
def statementOutline (items : List Tree) : List Passed := items.flatMap (outlineAt "Program" "body" true)

/-- The outline of a program is that of its statements. -/
theorem outlineAt_body (t : Tree) : outlineAt "Program" "body" false t = statementOutline t.items := by
  have hnot (part : String) : leadsTo "Program" "body" false part = false := rfl
  cases t with
  | list items => rw [outlineAt_list]; rfl
  | obj l fields => rw [outlineAt_of_isObj rfl, hnot]; rfl
  | _ => rfl

/-- Of the lists of statements, only that of the program exports names. -/
theorem kind_eq_program {kind key : String} (hkey : key = "body" ∨ key = "consequent")
    (h : isExportKey kind key = true) : kind = "Program" ∧ key = "body" := by
  have hall : ∀ part ∈ exportParts, part.2.1 = "body" ∨ part.2.1 = "consequent" →
      part.1 = "Program" ∧ part.2.1 = "body" := by decide
  simp only [isExportKey, List.any_eq_true, Bool.and_eq_true, beq_iff_eq] at h
  obtain ⟨part, hmem, rfl, rfl⟩ := h
  exact hall part hmem hkey

/-! ### Changing all nodes -/

section MapNodes

variable {change : Tree → Tree}

theorem mapNodesItems_eq (items : List Tree) :
    mapNodesItems change items = items.map (mapNodesItem change) := by
  induction items with
  | nil => rfl
  | cons t rest ih => rw [mapNodesItems, ih, List.map_cons]

theorem mapNodesFields_eq (fields : List (String × Tree)) : mapNodesFields change fields =
    fields.map fun f => (f.1, if holdsChildren f.1 then mapNodesValue change f.2 else f.2) := by
  induction fields with
  | nil => rfl
  | cons f rest ih => rw [mapNodesFields, ih, List.map_cons]

theorem lookup_mapNodesFields (fields : List (String × Tree)) (key : String) :
    (mapNodesFields change fields).lookup key =
      (fields.lookup key).map fun v => if holdsChildren key then mapNodesValue change v else v := by
  induction fields with
  | nil => rfl
  | cons f rest ih =>
    rw [mapNodesFields, lookup_cons_ite, lookup_cons_ite, ih]
    by_cases hk : key = f.1
    · rw [if_pos hk, if_pos hk, Option.map_some, hk]
    · rw [if_neg hk, if_neg hk]

theorem kind_mapNodesFields (l : Nat) (fields : List (String × Tree)) :
    (obj l (mapNodesFields change fields)).kind = (obj l fields).kind := by
  rw [kind, kind, get?_obj, lookup_mapNodesFields, get?_obj,
    show holdsChildren "type" = false from rfl]
  simp

variable (hobj : ∀ t, t.isObj = true → (change t).isObj = true)

include hobj in
theorem str?_mapNodesValue (t : Tree) : (mapNodesValue change t).str? = t.str? := by
  cases t with
  | obj l fields =>
    rw [mapNodesValue]
    split
    · exact str?_of_isObj (hobj _ rfl)
    · rfl
  | _ => rfl

include hobj in
theorem passed_mapNodesFields (l : Nat) (fields : List (String × Tree)) :
    (obj l (mapNodesFields change fields)).passed = (obj l fields).passed := by
  have hname : ((obj l (mapNodesFields change fields)).get "name").str? =
      ((obj l fields).get "name").str? := by
    rw [get, get, get?_obj, lookup_mapNodesFields, get?_obj, show holdsChildren "name" = true from rfl]
    cases fields.lookup "name" with
    | none => rfl
    | some v => exact str?_mapNodesValue hobj v
  have hkeys : (mapNodesFields change fields).map (·.1) = fields.map (·.1) := by
    rw [mapNodesFields_eq, List.map_map]
    rfl
  rw [passed, passed, ownNames, ownNames, namingKeys, namingKeys, kind_mapNodesFields, hname,
    fields_obj, fields_obj, hkeys]
  rfl

variable (h : ∀ t, t.isObj = true → ∀ kind key isItem,
  namesAt kind key isItem (change t) = namesAt kind key isItem t)

include hobj h in
theorem namesAt_change_mapNodesFields (l : Nat) {fields : List (String × Tree)}
    (ih : ∀ f ∈ fields, ∀ kind key isItem,
      namesAt kind key isItem (mapNodesValue change f.2) = namesAt kind key isItem f.2)
    (kind key : String) (isItem : Bool) :
    namesAt kind key isItem (change (.obj l (mapNodesFields change fields))) =
      namesAt kind key isItem (.obj l fields) := by
  have hfields (kind : String) : (outlineFields kind (mapNodesFields change fields)).flatMap (·.names) =
      (outlineFields kind fields).flatMap (·.names) := by
    rw [outlineFields_eq, outlineFields_eq, mapNodesFields_eq, List.flatMap_map, List.flatMap_assoc,
      List.flatMap_assoc]
    refine List.flatMap_congr fun f hf => ?_
    dsimp only
    split
    · exact ih f hf kind f.1 false
    · rfl
  rw [h _ rfl, namesAt, namesAt, outlineAt_of_isObj rfl, outlineAt_of_isObj rfl, kind_mapNodesFields,
    passed_mapNodesFields hobj, fields_obj, fields_obj]
  split
  · rw [List.flatMap_cons, List.flatMap_cons, hfields]
  · rfl

include hobj h in
/-- **A change of nodes that keeps names keeps all names.** -/
theorem namesAt_mapNodesValue (t : Tree) (kind key : String) (isItem : Bool) :
    namesAt kind key isItem (mapNodesValue change t) = namesAt kind key isItem t := by
  induction t using Tree.induction generalizing kind key isItem with
  | leaf t ht => cases t <;> first | rfl | simp [isLeaf] at ht
  | list items ih =>
    rw [mapNodesValue, mapNodesItems_eq, namesAt, namesAt]
    cases isItem with
    | true => rw [outlineAt_list_item, outlineAt_list_item]
    | false =>
      rw [outlineAt_list, outlineAt_list, List.flatMap_map, List.flatMap_assoc, List.flatMap_assoc]
      refine List.flatMap_congr fun t ht => ?_
      cases t with
      | obj l fields => exact ih _ ht kind key true
      | _ => rfl
  | obj l fields ih =>
    rw [mapNodesValue]
    split
    · exact namesAt_change_mapNodesFields hobj h l ih kind key isItem
    · rfl

include hobj h in
/-- **A change of all nodes that keeps the names of each keeps those of the program.** -/
theorem exportedNames_mapNodes (t : Tree) : (t.mapNodes change).exportedNames = t.exportedNames := by
  cases t with
  | obj l fields =>
    exact namesAt_change_mapNodesFields hobj h l
      (fun f _ => namesAt_mapNodesValue hobj h f.2) "" "" false
  | _ => rfl

end MapNodes

/-! ### Changing the records with a label -/

section Edit

variable {label : Nat} {change : Tree → Tree}

/-- Whether a change of records keeps them records of their kinds. -/
def KeepsKinds (change : Tree → Tree) : Prop :=
  ∀ t, t.isObj = true → (change t).isObj = true ∧ (change t).kind = t.kind

variable (hchange : KeepsKinds change)

include hchange in
theorem passed_editFields (l : Nat) (fields : List (String × Tree)) :
    (obj l (editFields label change fields)).passed = (obj l fields).passed := by
  have hobj (t : Tree) (ht : t.isObj = true) : (change t).isObj = true := (hchange t ht).1
  have hname : ((obj l (editFields label change fields)).get "name").str? =
      ((obj l fields).get "name").str? := by
    rw [get, get, get?_obj, lookup_editFields, get?_obj]
    cases fields.lookup "name" with
    | none => rfl
    | some v => exact str?_edit hobj v
  have hkeys : (editFields label change fields).map (·.1) = fields.map (·.1) := by
    rw [editFields_eq, List.map_map]
    rfl
  rw [passed, passed, ownNames, ownNames, namingKeys, namingKeys, kind_editFields hobj, hname,
    fields_obj, fields_obj, hkeys]
  rfl

variable {kind key : String} {isItem : Bool}

include hchange in
/-- An edit that leaves the outlines of the fields leaves that of the record. -/
theorem outlineAt_editFields (l : Nat) {fields : List (String × Tree)}
    (h : leadsTo kind key isItem (obj l fields).kind = true → ∀ f ∈ fields,
      outlineAt (obj l fields).kind f.1 false (f.2.edit label change) =
        outlineAt (obj l fields).kind f.1 false f.2) :
    outlineAt kind key isItem (.obj l (editFields label change fields)) =
      outlineAt kind key isItem (.obj l fields) := by
  rw [outlineAt_of_isObj rfl, outlineAt_of_isObj rfl, kind_editFields fun t ht => (hchange t ht).1,
    passed_editFields hchange]
  split
  · rename_i hl
    rw [fields_obj, outlineFields_eq, editFields_eq, List.flatMap_map, fields_obj, outlineFields_eq,
      List.flatMap_congr (h hl)]
  · rfl

include hchange in
/-- **An edit outside the outline keeps it.** -/
theorem outlineAt_edit_of_not_mem (t : Tree)
    (h : label ∉ (outlineAt kind key isItem t).map Passed.label) :
    outlineAt kind key isItem (t.edit label change) = outlineAt kind key isItem t := by
  induction t using Tree.induction generalizing kind key isItem with
  | leaf t ht => cases t <;> first | rfl | simp [isLeaf] at ht
  | list items ih =>
    rw [edit, editItems_eq]
    cases isItem with
    | true => rw [outlineAt_list_item, outlineAt_list_item]
    | false =>
      rw [outlineAt_list, List.map_flatMap, List.mem_flatMap] at h
      rw [outlineAt_list, outlineAt_list, List.flatMap_map]
      exact List.flatMap_congr fun t ht => ih t ht fun hl => h ⟨t, ht, hl⟩
  | obj l fields ih =>
    have hfields : outlineAt kind key isItem (.obj l (editFields label change fields)) =
        outlineAt kind key isItem (.obj l fields) := by
      refine outlineAt_editFields hchange l fun hl f hf => ih f hf fun hmem => h ?_
      rw [outlineAt_of_isObj rfl, if_pos hl, outlineFields_eq, List.map_cons, List.map_flatMap]
      exact List.mem_cons_of_mem _ (List.mem_flatMap.mpr ⟨f, hf, hmem⟩)
    rw [edit]
    split
    · rename_i hl
      -- the record has the label, so it is not passed, and its kind stays
      have hnot : leadsTo kind key isItem (obj l fields).kind = false := by
        rw [Bool.eq_false_iff]
        intro hleads
        rw [outlineAt_of_isObj rfl, if_pos hleads] at h
        exact h (by simp [passed, hl])
      obtain ⟨hobj, hkind⟩ := hchange (.obj l (editFields label change fields)) rfl
      rw [outlineAt_of_isObj hobj, outlineAt_of_isObj rfl, hkind,
        kind_editFields fun t ht => (hchange t ht).1, hnot]
      rfl
    · exact hfields

include hchange in
/-- **An edit of a record that occurs once keeps the outline if it keeps that of the record.** -/
theorem outlineAt_edit_of_mem {t : Tree} (hcount : t.labels.count label ≤ 1)
    (h : ∀ r ∈ t.records, r.label = label → ∀ kind' key' isItem',
      outlineAt kind' key' isItem' r ⊆ outlineAt kind key isItem t →
        outlineAt kind' key' isItem' (change r) = outlineAt kind' key' isItem' r) :
    outlineAt kind key isItem (t.edit label change) = outlineAt kind key isItem t := by
  induction t using Tree.induction generalizing kind key isItem with
  | leaf t ht => cases t <;> first | rfl | simp [isLeaf] at ht
  | list items ih =>
    rw [labels_list] at hcount
    rw [edit, editItems_eq]
    cases isItem with
    | true => rw [outlineAt_list_item, outlineAt_list_item]
    | false =>
      rw [outlineAt_list, outlineAt_list, List.flatMap_map]
      refine List.flatMap_congr fun t ht => ih t ht ?_ fun r hr hl kind' key' _ hsub => h r ?_ hl _ _ _ ?_
      · exact Nat.le_trans (count_le_count_flatMap ht label) hcount
      · rw [records, recordsItems_eq]
        exact List.mem_flatMap.mpr ⟨t, ht, hr⟩
      · rw [outlineAt_list]
        exact fun e he => List.mem_flatMap.mpr ⟨t, ht, hsub he⟩
  | obj l fields ih =>
    rw [labels, List.count_cons] at hcount
    rw [edit]
    split
    · rename_i hl
      -- the label does not occur below its record
      have hfields : label ∉ labelsFields fields := by
        rw [← List.count_eq_zero]
        simp only [hl, beq_self_eq_true, if_true] at hcount
        omega
      rw [editFields_of_not_mem hfields]
      exact h _ (mem_records_self rfl) hl kind key isItem fun e he => he
    · refine outlineAt_editFields hchange l fun hleads f hf =>
        ih f hf ?_ fun r hr hrl kind' key' _ hsub => h r ?_ hrl _ _ _ fun e he => ?_
      · rw [labelsFields_eq] at hcount
        exact Nat.le_trans (count_le_count_flatMap (f := fun f => f.2.labels) hf label) (by omega)
      · exact records_subset_of_mem_fields (t := obj l fields) hf hr
      · rw [outlineAt_of_isObj rfl, if_pos hleads, outlineFields_eq]
        exact List.mem_cons_of_mem _ (List.mem_flatMap.mpr ⟨f, hf, hsub he⟩)

end Edit

/-! ### What the names depend on -/

theorem isShapeKey_of_isExportKey {kind key : String} (h : isExportKey kind key = true) :
    isShapeKey key = true := by
  have hall : ∀ part ∈ exportParts, isShapeKey part.2.1 = true := by decide
  simp only [isExportKey, List.any_eq_true, Bool.and_eq_true, beq_iff_eq] at h
  obtain ⟨part, hmem, -, rfl⟩ := h
  exact hall part hmem

theorem isShapeKey_of_isNamingKey {kind key : String} (h : isNamingKey kind key = true) :
    isShapeKey key = true := by
  rcases Bool.or_eq_true_iff.mp h with h | h
  · exact isShapeKey_of_isExportKey h
  · rw [beq_iff_eq.mp h]
    rfl

theorem face_passed_core (t : Tree) : t.core.passed.face = t.passed.face := by
  have hname : (t.core.get "name").str? = (t.get "name").str? := by
    rw [get, get, get?_core _ rfl]
    cases t.get? "name" with
    | none => rfl
    | some v => exact str?_core v
  have hkeys : t.core.namingKeys = t.namingKeys := by
    rw [namingKeys, namingKeys, kind_core, fields_core, keys_coreFields, List.filter_filter]
    refine List.filter_congr fun key _ => ?_
    cases h : isNamingKey t.kind key with
    | false => rfl
    | true => rw [isShapeKey_of_isNamingKey h]; rfl
  rw [Passed.face, Passed.face, passed, passed, hkeys, ownNames, ownNames, kind_core, hname]

/-- The outline of a tree and that of its core differ in labels only. -/
theorem outlineAt_core (t : Tree) (kind key : String) (isItem : Bool) :
    (outlineAt kind key isItem t.core).map Passed.face =
      (outlineAt kind key isItem t).map Passed.face := by
  induction t using Tree.induction generalizing kind key isItem with
  | leaf t ht => cases t <;> first | rfl | simp [isLeaf] at ht
  | list items ih =>
    rw [core, coreItems_eq]
    cases isItem with
    | true => rw [outlineAt_list_item, outlineAt_list_item]
    | false =>
      rw [outlineAt_list, outlineAt_list, List.flatMap_map, List.map_flatMap, List.map_flatMap]
      exact List.flatMap_congr fun t ht => ih t ht kind key true
  | obj l fields ih =>
    have hfields (kind : String) : (outlineFields kind (coreFields fields)).map Passed.face =
        (outlineFields kind fields).map Passed.face := by
      induction fields with
      | nil => rfl
      | cons f rest ihr =>
        have hrest := ihr fun g hg => ih g (List.mem_cons_of_mem _ hg)
        rw [coreFields_cons, outlineFields, List.map_append]
        split
        · rw [outlineFields, List.map_append, ih f List.mem_cons_self, hrest]
        · rename_i hkey
          have hnot : isExportKey kind f.1 = false := by
            rw [Bool.eq_false_iff]
            exact fun h => hkey (isShapeKey_of_isExportKey h)
          rw [outlineAt_of_not_isExportKey hnot, hrest]
          rfl
    rw [outlineAt_of_isObj rfl, outlineAt_of_isObj rfl, kind_core, fields_core]
    split
    · rw [List.map_cons, List.map_cons, face_passed_core, fields_obj, hfields]
    · rfl

/-- The kinds and the names of the outline depend on the core only. -/
theorem outline_congr {t u : Tree} (h : t.core = u.core) :
    t.outline.map Passed.face = u.outline.map Passed.face := by
  rw [outline, outline, ← outlineAt_core t, h, outlineAt_core]

/-- **The exported names depend on the core alone.** -/
theorem exportedNames_congr {t u : Tree} (h : t.core = u.core) : t.exportedNames = u.exportedNames := by
  have hnames (t : Tree) : t.exportedNames = (t.outline.map Passed.face).flatMap (·.2.1) := by
    rw [exportedNames, namesAt, List.flatMap_map]
    rfl
  rw [hnames, hnames, outline_congr h]

end Tree

end Deminify
