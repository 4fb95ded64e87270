import Deminify.Proofs.Tree.Edit

/-!
# How the names of a document are spelled

A label may stand at several places of a document, in the tree and among the loose nodes, and an edit
by label reaches all of them. So a name with a label is spelled as told only if every record with the
label is (`Deminify.Document.Spells`). Looking a label up finds the first of these records
(`Deminify.Document.find?_eq`), so what is looked up is then spelled the same.

Renaming the names with given labels gives these the new spelling and leaves all others as they are
(`Deminify.Document.Spells.rename`).

A document *shows* a tree when every label of the tree leads to the same records in both
(`Deminify.Document.Shows`). What is looked up under such a label is then looked up in the tree
(`Deminify.Document.Shows.get_label`), wherever in the document the tree is, and whatever else is there.

Renaming names goes through a document label by label. So the document goes on to show a tree in which
the same names are renamed (`Deminify.Document.Shows.rename`), and it goes on to show the tree itself if
the names are elsewhere (`Deminify.Document.Shows.rename_apart`).
-/

namespace Deminify

namespace Tree

/-- **What a label finds** is the first record that has it. -/
theorem find?_eq (t : Tree) (l : Nat) : t.find? l = t.records.find? (·.label == l) := by
  induction t using Tree.induction with
  | leaf t ht => cases t <;> first | rfl | simp [isLeaf] at ht
  | list items ih =>
    rw [find?, records]
    induction items with
    | nil => rfl
    | cons t rest ihr =>
      rw [findItems?, recordsItems, List.find?_append, ih t List.mem_cons_self,
        ihr fun u hu => ih u (List.mem_cons_of_mem _ hu)]
  | obj label fields ih =>
    rw [find?, records, List.find?_cons, label_obj]
    by_cases hl : label = l
    · rw [if_pos hl, beq_iff_eq.mpr hl]
    · rw [if_neg hl, beq_eq_false_iff_ne.mpr hl]
      induction fields with
      | nil => rfl
      | cons f rest ihr =>
        rw [findFields?, recordsFields, List.find?_append, ih f List.mem_cons_self,
          ihr fun g hg => ih g (List.mem_cons_of_mem _ hg)]

theorem get?_of_str?_get {t : Tree} {key x : String} (h : (t.get key).str? = some x) :
    t.get? key = some (.str x) := by
  rw [get] at h
  cases hv : t.get? key with
  | none =>
    rw [hv] at h
    cases h
  | some v =>
    rw [hv, Option.getD_some] at h
    cases v <;> cases h
    rfl

/-- The records of a respelled tree are those of the tree, respelled: a text holds no records. -/
theorem records_respell (σ : Nat → String → String) (t : Tree) :
    (t.respell σ).records = t.records.map (respell σ) := by
  induction t using Tree.induction with
  | leaf t ht =>
    rw [respell_of_isLeaf σ ht]
    cases t <;> first | rfl | simp [isLeaf] at ht
  | list items ih =>
    rw [respell_list, records, records, recordsItems_eq, recordsItems_eq, List.map_flatMap,
      List.flatMap_map]
    exact List.flatMap_congr fun t ht => ih t ht
  | obj label fields ih =>
    have hfields : (fields.map fun f => (f.1, f.2.respell σ)).flatMap (·.2.records) =
        (fields.flatMap (·.2.records)).map (respell σ) := by
      rw [List.map_flatMap, List.flatMap_map]
      exact List.flatMap_congr fun f hf => ih f hf
    have hspell : (spellFields (σ label) (fields.map fun f => (f.1, f.2.respell σ))).flatMap
        (·.2.records) = (fields.flatMap (·.2.records)).map (respell σ) := by
      rw [← hfields]
      unfold spellFields
      split
      · rename_i x hx
        exact flatMap_putKey hx rfl
      · rfl
    rw [records, List.map_cons, respell_obj, records, recordsFields_eq, recordsFields_eq, hspell]

/-- Renaming does nothing where none of the labels occurs. -/
theorem respell_renamed_of_apart {t : Tree} {labels : List Nat} (h : ∀ l ∈ t.labels, l ∉ labels)
    (name : String) : t.respell (renamed labels name) = t := by
  induction t using Tree.induction with
  | leaf t ht => exact respell_of_isLeaf _ ht
  | list items ih =>
    rw [labels_list] at h
    rw [respell_list]
    congr 1
    refine (List.map_congr_left fun t ht => ?_).trans (List.map_id _)
    exact ih t ht fun l hl => h l (List.mem_flatMap.mpr ⟨t, ht, hl⟩)
  | obj label fields ih =>
    rw [Tree.labels, labelsFields_eq] at h
    have hfields : (fields.map fun f => (f.1, f.2.respell (renamed labels name))) = fields := by
      refine (List.map_congr_left fun f hf => ?_).trans (List.map_id _)
      rw [ih f hf fun l hl => h l (List.mem_cons_of_mem _ (List.mem_flatMap.mpr ⟨f, hf, hl⟩))]
      rfl
    rw [respell_obj, hfields, spellFields]
    split
    · rename_i x hx
      have hkept : renamed labels name label x = x :=
        if_neg (by simpa using h label List.mem_cons_self)
      rw [hkept, putKey_of_lookup hx]
    · rfl

end Tree

namespace Document

/-- The records of a document, in the tree and among the loose nodes. -/
def records (d : Document) : List Tree := d.root.records ++ d.loose.flatMap Tree.records

/-- The records with a label. -/
def recordsAt (d : Document) (l : Nat) : List Tree := d.records.filter (·.label == l)

/-- **Whether the name with a label is spelled as told**, wherever it stands. -/
def Spells (d : Document) (l : Nat) (name : String) : Prop :=
  d.recordsAt l ≠ [] ∧ ∀ r ∈ d.recordsAt l, (r.get "name").str? = some name

instance (d : Document) (l : Nat) (name : String) : Decidable (d.Spells l name) :=
  inferInstanceAs (Decidable (_ ∧ _))

/-- How the name with a label is spelled. -/
def spelling (d : Document) (l : Nat) : String := ((d.get l).get "name").str?.getD ""

theorem find?_eq (d : Document) (l : Nat) : d.find? l = (d.recordsAt l).head? := by
  have hloose : Tree.findItems? l d.loose = (d.loose.flatMap Tree.records).find? (·.label == l) := by
    rw [← Tree.recordsItems_eq]
    exact Tree.find?_eq (.list d.loose) l
  rw [find?, Tree.find?_eq, hloose, ← List.find?_append, recordsAt, List.head?_filter, records]

/-- The tree of a document in which names are renamed. -/
theorem root_rename {d : Document} {labels : List Nat}
    (hnames : ∀ r ∈ d.root.records, r.label ∈ labels → ∃ x, r.get? "name" = some (.str x)) (new : String) :
    (d.rename labels new).root = d.root.respell (Tree.renamed labels new) := by
  by_cases hne : labels = []
  · subst hne
    exact (Tree.respell_renamed_of_apart (fun _ _ => List.not_mem_nil) new).symm
  · rw [Document.rename, if_neg (by simpa using hne)]
    exact Tree.mapObjs_rename new hnames

/-- The records of a document in which names are renamed. -/
theorem records_rename {d : Document} {labels : List Nat}
    (hnames : ∀ r ∈ d.records, r.label ∈ labels → ∃ x, r.get? "name" = some (.str x)) (new : String) :
    (d.rename labels new).records = d.records.map (Tree.respell (Tree.renamed labels new)) := by
  by_cases hne : labels = []
  · subst hne
    refine ((List.map_congr_left fun r _ => ?_).trans (List.map_id _)).symm
    exact Tree.respell_renamed_of_apart (fun _ _ => List.not_mem_nil) new
  have hroot := root_rename (fun r hr => hnames r (List.mem_append_left _ hr)) new
  have hloose : (d.rename labels new).loose = d.loose.map (Tree.respell (Tree.renamed labels new)) := by
    rw [Document.rename, if_neg (by simpa using hne)]
    refine List.map_congr_left fun t ht => Tree.mapObjs_rename new fun r hr => hnames r ?_
    exact List.mem_append_right _ (List.mem_flatMap.mpr ⟨t, ht, hr⟩)
  rw [records, hroot, hloose, Tree.records_respell, List.flatMap_map, records, List.map_append,
    List.map_flatMap]
  simp only [Tree.records_respell]

theorem recordsAt_rename {d : Document} {labels : List Nat}
    (hnames : ∀ r ∈ d.records, r.label ∈ labels → ∃ x, r.get? "name" = some (.str x)) (new : String)
    (l : Nat) : (d.rename labels new).recordsAt l =
      (d.recordsAt l).map (Tree.respell (Tree.renamed labels new)) := by
  rw [recordsAt, records_rename hnames, List.filter_map, recordsAt]
  simp [Function.comp_def]

theorem mem_recordsAt {d : Document} {l : Nat} {r : Tree} :
    r ∈ d.recordsAt l ↔ r ∈ d.records ∧ r.label = l := by
  rw [recordsAt, List.mem_filter, beq_iff_eq]

namespace Spells

variable {d : Document} {l : Nat} {name : String} (h : d.Spells l name)

include h

/-- What is looked up is spelled as told. -/
theorem str?_get : ((d.get l).get "name").str? = some name := by
  obtain ⟨hne, hall⟩ := h
  rw [get, find?_eq]
  cases hr : d.recordsAt l with
  | nil => exact absurd hr hne
  | cons r rest =>
    rw [List.head?_cons, Option.getD_some]
    exact hall r (hr ▸ List.mem_cons_self)

theorem spelling_eq : d.spelling l = name := by
  rw [spelling, h.str?_get, Option.getD_some]

/-- **Renaming** gives the names with the given labels the new spelling, and leaves the others. -/
theorem rename {labels : List Nat} (hlabels : ∀ l ∈ labels, ∃ x, d.Spells l x) (new : String) :
    (d.rename labels new).Spells l (if l ∈ labels then new else name) := by
  have hat := recordsAt_rename (fun r hr hl => by
    obtain ⟨x, -, hall⟩ := hlabels _ hl
    exact ⟨x, Tree.get?_of_str?_get (hall r (mem_recordsAt.mpr ⟨hr, rfl⟩))⟩) new l
  obtain ⟨hsome, hall⟩ := h
  refine ⟨by rw [hat]; simpa using hsome, fun r' hr' => ?_⟩
  obtain ⟨r, hr, rfl⟩ := List.mem_map.mp (hat ▸ hr')
  have hname := Tree.get?_of_str?_get (hall r hr)
  rw [Tree.get, Tree.get?_respell_name, hname, (mem_recordsAt.mp hr).2]
  simp [Tree.spell, Tree.renamed, Tree.str?]

end Spells

end Document

namespace Tree

/-! ### Names -/

/-- Whether what a label of a tree leads to is a name. -/
def IsNameAt (t : Tree) (l : Nat) : Prop :=
  l ∈ t.labels ∧ ∀ r ∈ t.records, r.label = l → ∃ x, r.get? "name" = some (.str x)

section Respell

variable (σ : Nat → String → String) (t : Tree)

@[simp] theorem labels_respell : (t.respell σ).labels = t.labels := by
  rw [labels_eq_map_records, labels_eq_map_records, records_respell, List.map_map]
  exact List.map_congr_left fun r _ => label_respell σ r

theorem IsNameAt.respell {t : Tree} {l : Nat} (h : t.IsNameAt l) : (t.respell σ).IsNameAt l := by
  refine ⟨by rw [labels_respell]; exact h.1, fun r' hr' hl => ?_⟩
  rw [records_respell] at hr'
  obtain ⟨r, hr, rfl⟩ := List.mem_map.mp hr'
  rw [label_respell] at hl
  obtain ⟨x, hx⟩ := h.2 r hr hl
  exact ⟨σ r.label x, by rw [get?_respell_name, hx]; rfl⟩

end Respell

end Tree

namespace Document

/-- The records of a tree with a label. -/
def recordsIn (t : Tree) (l : Nat) : List Tree := t.records.filter (·.label == l)

/-- **Whether a document shows a tree**: the labels of the tree lead to its records. -/
def Shows (d : Document) (t : Tree) : Prop := ∀ l ∈ t.labels, d.recordsAt l = recordsIn t l

theorem recordsIn_respell (σ : Nat → String → String) (t : Tree) (l : Nat) :
    recordsIn (t.respell σ) l = (recordsIn t l).map (Tree.respell σ) := by
  rw [recordsIn, Tree.records_respell, List.filter_map, recordsIn]
  simp [Function.comp_def]

/-- A tree whose labels tell its records apart shows every tree inside it. -/
theorem shows_of_sublist {d : Document} {t : Tree} (hd : (d.records.map Tree.label).Nodup)
    (ht : t.records.Sublist d.records) : d.Shows t := by
  intro l hl
  have hone : (d.recordsAt l).length ≤ 1 := by
    rw [recordsAt, ← List.countP_eq_length_filter]
    have hcount := List.nodup_iff_count_le_one.mp hd l
    rwa [List.count, List.countP_map] at hcount
  have hsub : (recordsIn t l).Sublist (d.recordsAt l) := ht.filter _
  rw [Tree.labels_eq_map_records] at hl
  obtain ⟨r, hr, hrl⟩ := List.mem_map.mp hl
  have hsome : r ∈ recordsIn t l := List.mem_filter.mpr ⟨hr, beq_iff_eq.mpr hrl⟩
  exact (hsub.eq_of_length_le (Nat.le_trans hone (List.length_pos_of_mem hsome))).symm

namespace Shows

variable {d : Document} {t : Tree} (h : d.Shows t)

include h

theorem get {l : Nat} (hl : l ∈ t.labels) : d.get l = (recordsIn t l).head?.getD .null := by
  rw [Document.get, find?_eq, h l hl]

/-- A tree that is shown is found by its label. -/
theorem get_label (ht : t.isObj = true) : d.get t.label = t := by
  cases t with
  | obj label fields =>
    rw [h.get (by exact List.mem_cons_self), recordsIn, Tree.records,
      List.filter_cons_of_pos (by exact beq_self_eq_true label)]
    rfl
  | _ => simp [Tree.isObj] at ht

theorem exists_name {l : Nat} (hl : t.IsNameAt l) {r : Tree} (hr : r ∈ d.records) (hrl : r.label = l) :
    ∃ x, r.get? "name" = some (.str x) := by
  have hat : r ∈ recordsIn t l := by
    rw [← h l hl.1]
    exact mem_recordsAt.mpr ⟨hr, hrl⟩
  exact hl.2 r (List.mem_filter.mp hat).1 hrl

variable {labels : List Nat}

/-- **Names that are renamed** are renamed in the tree that is shown. -/
theorem rename (hlabels : ∀ l ∈ labels, t.IsNameAt l) (new : String) :
    (d.rename labels new).Shows (t.respell (Tree.renamed labels new)) := by
  intro l hl
  rw [Tree.labels_respell] at hl
  rw [recordsAt_rename (fun r hr hrl => h.exists_name (hlabels _ hrl) hr rfl), recordsIn_respell, h l hl]

/-- **Names that are renamed elsewhere** leave a tree that is shown as it is. -/
theorem rename_apart {other : Tree} (hother : d.Shows other) (hlabels : ∀ l ∈ labels, t.IsNameAt l)
    (hapart : t.labels.Disjoint other.labels) (new : String) : (d.rename labels new).Shows other := by
  intro l hl
  have hsame : other.respell (Tree.renamed labels new) = other :=
    Tree.respell_renamed_of_apart (fun l hl hm => hapart (hlabels l hm).1 hl) new
  rw [recordsAt_rename (fun r hr hrl => h.exists_name (hlabels _ hrl) hr rfl), hother l hl,
    ← recordsIn_respell, hsame]

end Shows

end Document

end Deminify
