import Deminify.Proofs.Interface.Declared
import Deminify.Proofs.Interface.DirectCall
import Deminify.Proofs.Interface.Replacement
import Deminify.Proofs.Interface.Statement
import Deminify.Proofs.Rule.Editing
import Deminify.Rules.ModuleName
import Deminify.Rules.Registry
import Deminify.Rules.StrictDirective

/-!
# The rules that keep the interface of a module

**Of the rules that edit the tree, all but two keep the exported names of every program that has been
read** (`Deminify.Rules.keepsExports_iff`): whatever the options are, and also when they fail on the
way. The names are those of the export declarations, of the specifiers, and `default`
(`Deminify.Tree.exportedNames`).

The two are inlining and elements. Both rename bindings, and neither asks whether the declaration of
the binding is exported by its own name.

Naming modules changes the whole tree at once, every node by itself, and numbers what is new
afterwards. Labels do not matter to it, so that it is enough to look at one node: the arguments of a call
lead to no names.
-/

namespace Deminify

/-- The exported names are the given ones. -/
def Document.Exports (names : List String) (d : Document) : Prop := d.root.exportedNames = names

open Document Editing

variable {names : List String}

/-- A change of the tree that keeps the exported names. -/
theorem Editing.keeps_changeRoot {f : Tree → Tree} (h : ∀ t, (f t).exportedNames = t.exportedNames) :
    Keeps (Exports names) (changeRoot f) fun _ => True := by
  refine keeps_root.bind ?_
  rintro _ ⟨d, hd, rfl⟩
  have hadopt := @keeps_adopt (Exports names) (f d.root) (fun _ hd => hd)
    (fun t => t.exportedNames = names)
    fun d' _ => (Tree.exportedNames_congr (Tree.core_number _ _)).trans ((h d.root).trans hd)
  exact hadopt.bind fun t ht => keeps_updateDoc fun _ _ => ht

namespace Rules

/-! ### Strict directives -/

namespace StrictDirective

theorem statementOutline_strip (body : List Tree) :
    Tree.statementOutline (strip body) = Tree.statementOutline body := by
  suffices ∀ fuel body index, Tree.statementOutline (stripFrom fuel body index) =
      Tree.statementOutline body from this _ _ _
  intro fuel
  induction fuel with
  | zero => exact fun _ _ => rfl
  | succ fuel ih =>
    intro body index
    rw [stripFrom]
    cases hi : body[index]? with
    | none => rfl
    | some statement =>
      dsimp only
      split
      · rename_i hdirective
        have hkind := (Bool.and_eq_true_iff.mp hdirective).1
        split
        · rw [ih, Tree.statementOutline_removeStatement hi (Tree.outlineAt_statement hkind rfl)]
        · exact ih _ _
      · rfl

theorem count_labels_strip (body : List Tree) (l : Nat) :
    ((strip body).flatMap Tree.labels).count l ≤ (body.flatMap Tree.labels).count l := by
  suffices ∀ fuel body index, ((stripFrom fuel body index).flatMap Tree.labels).count l ≤
      (body.flatMap Tree.labels).count l from this _ _ _
  intro fuel
  induction fuel with
  | zero => exact fun _ _ => Nat.le_refl _
  | succ fuel ih =>
    intro body index
    rw [stripFrom]
    cases body[index]? with
    | none => exact Nat.le_refl _
    | some statement =>
      dsimp only
      split
      · split
        · exact Nat.le_trans (ih _ _) (Tree.count_labels_removeStatement body index)
        · exact ih _ _
      · exact Nat.le_refl _

/-- **Taking out strict directives keeps the outline.** -/
theorem keeps_run {o : List Passed} : Keeps (Outlined o) run fun _ => True := by
  refine (keeps_root.forget).after fun root => (keeps_ask _).forget.after fun all => ?_
  refine (keeps_ask _).forget.after fun _ => (keeps_root.forget).after fun root => ?_
  refine (keeps_forIn (S := fun _ => True) trivial fun owner _ _ _ => ?_).after fun _ => keeps_pure trivial
  refine (keeps_updateDoc fun d hd => ?_).after fun _ => keeps_pure trivial
  refine hd.editStatements (.inl rfl) (fun items p _ => ?_) fun items _ => statementOutline_strip items
  rw [Tree.labels_list, Tree.labels_list]
  exact count_labels_strip items _

end StrictDirective

/-! ### Module names -/

namespace ModuleName

/-- The arguments of a call are all that changes. -/
theorem nameModule_cases (table : List (Tree × String)) (t : Tree) :
    nameModule table t = t ∨ ∃ value, nameModule table t = t.set "arguments" value := by
  unfold nameModule
  repeat' split
  all_goals first
    | exact .inl rfl
    | exact .inr ⟨_, rfl⟩

theorem keeps_required? {I : Document → Prop} (call : Tree) :
    Keeps I (required? (m := Editing) call) fun _ => True := by
  refine (keeps_listField call "arguments").forget.after fun arguments => ?_
  refine (keeps_field call "callee").forget.after fun callee => (keeps_isNamed callee _).after fun named => ?_
  split
  · exact keeps_pure trivial
  · split <;> exact keeps_pure trivial

/-- **Naming modules keeps the exported names.** -/
theorem keeps_run (options : Options) : Keeps (Exports names) (run options) fun _ => True := by
  unfold run
  split
  · exact keeps_pure trivial
  · refine keeps_root.forget.after fun root => ?_
    have hchecks : Keeps (Exports names) (forIn root.subtree PUnit.unit fun t _ => do
        if t.isKind "CallExpression" then discard (required? (m := Editing) t)
        pure (ForInStep.yield PUnit.unit)) fun _ => True := by
      refine keeps_forIn trivial fun t _ _ _ => ?_
      split
      · exact (keeps_required? t).discard.after fun _ => keeps_pure trivial
      · exact keeps_pure trivial
    refine hchecks.after fun _ => keeps_changeRoot fun t => ?_
    refine Tree.exportedNames_mapNodes (fun t ht => ?_) (fun t _ kind key isItem => ?_) t
    · rcases nameModule_cases options.table t with h | ⟨value, h⟩
      · rwa [h]
      · rwa [h, Tree.isObj_set]
    · rcases nameModule_cases options.table t with h | ⟨value, h⟩
      · rw [h]
      · rw [h, Tree.namesAt, Tree.outlineAt_set_of_not_isExportKey (not_isExportKey (by decide) _) (by decide)
          (fun h => absurd h (by decide))]
        rfl

end ModuleName

end Rules

/-! ### Interfaces that are kept -/

/-- **An edit keeps the interface of a module**: on a program that has been read, with any view of its
scopes, the names that are exported after it are those that were exported before. -/
def Editing.KeepsExports (edit : Editing Unit) : Prop :=
  ∀ source p, Program.read source = .ok p → ∀ c : Context, c.doc = ofTree p.tree p.next →
    ∀ name, name ∈ (edit.run.run c).2.doc.root.exportedNames ↔ name ∈ p.tree.exportedNames

/-- A rule that edits the tree keeps the interface of modules, with all parameters that it takes. -/
def Rule.KeepsExports (rule : Rule) : Prop :=
  ∀ prepare, rule.action = .tree prepare → ∀ params edit, prepare params = .ok edit → edit.KeepsExports

/-! ### Programs that have been read -/

theorem Tree.exportedNames_ofTree (t : Tree) (next : Nat) :
    (ofTree t next).root.exportedNames = t.exportedNames := Tree.exportedNames_congr (Tree.core_number t next)

/-- **The document of a program that has been read is outlined**, and the outline has names only. -/
theorem Program.outlined_of_read {source : String} {p : Program} (h : read source = .ok p) :
    (ofTree p.tree p.next).Outlined (ofTree p.tree p.next).root.outline ∧
      ∀ q ∈ (ofTree p.tree p.next).root.outline, isNamingKind q.kind = true := by
  have hwf := is_of_read h
  have hproper : p.tree.Proper := Tree.proper_of_items hwf.proper.1 hwf.proper.2
  refine ⟨outlined_ofTree (count_labels_of_read h) fun q hq => Tree.isDistinct_of_proper hproper hq, ?_⟩
  exact Tree.namedAt_congr (Tree.core_number p.tree p.next) (isNamingKind_of_read h)

/-! ### Edits -/

variable {edit : Editing Unit}

theorem Editing.keepsExports_of_exports (h : ∀ names, Keeps (Exports names) edit fun _ => True) :
    edit.KeepsExports := by
  intro source p hread c hc name
  have hexports : c.doc.root.exportedNames = p.tree.exportedNames := by
    rw [hc]
    exact Tree.exportedNames_ofTree _ _
  have hkept : (edit.run.run c).2.doc.root.exportedNames = p.tree.exportedNames := (h _ c hexports).1
  rw [hkept]

/-- **An edit that keeps outlines keeps the interface of modules.** -/
theorem Editing.keepsExports_of_outlined (h : ∀ o, (∀ q ∈ o, isNamingKind q.kind = true) →
    Keeps (Outlined o) edit fun _ => True) : edit.KeepsExports := by
  intro source p hread c hc name
  obtain ⟨houtlined, hnamed⟩ := Program.outlined_of_read hread
  have hkept := (h _ hnamed c (hc ▸ houtlined)).1
  rw [Tree.exportedNames, Tree.namesAt]
  rw [show Tree.outlineAt "" "" false _ = _ from hkept.outline]
  exact iff_of_eq (congrArg (name ∈ ·) (Tree.exportedNames_ofTree p.tree p.next))

/-- The names that a program exports, and those that it exports after an edit. -/
def interfaces (source : String) (edit : Editing Unit) : Option (List String × List String) :=
  match Program.read source with
  | .ok p =>
    let c : Context := { doc := ofTree p.tree p.next }
    some (p.tree.exportedNames, (edit.run.run c).2.doc.root.exportedNames)
  | .error _ => none

theorem Editing.KeepsExports.mem_iff (h : edit.KeepsExports) {source : String} {before after : List String}
    (hi : interfaces source edit = some (before, after)) (name : String) : name ∈ after ↔ name ∈ before := by
  delta interfaces at hi
  split at hi
  · rename_i p hread
    cases hi
    exact h source p hread _ rfl name
  · cases hi

/-! ### The rules -/

namespace Rules

/-- A rule without options keeps interfaces if its edit does. -/
theorem keepsExports_plain {rule : Rule} {edit : Editing Unit} (haction : rule.action = plain edit) :
    rule.KeepsExports ↔ edit.KeepsExports := by
  rw [plain] at haction
  constructor
  · exact fun h => h _ haction {} edit rfl
  · intro h prepare hprepare params edit' hedit
    cases haction.symm.trans hprepare
    cases hedit
    exact h

/-- A rule with options keeps interfaces if its edit does with all of them. -/
theorem keepsExports_options {rule : Rule} {Options : Type} {run : Options → Editing Unit}
    {ofParams : Params → Except Failure Options} (haction : rule.action = .tree fun params => run <$> ofParams params)
    (h : ∀ options, (run options).KeepsExports) : rule.KeepsExports := by
  intro prepare hprepare params edit hedit
  cases haction.symm.trans hprepare
  dsimp only at hedit
  cases ho : ofParams params with
  | ok options =>
    rw [ho] at hedit
    cases hedit
    exact h options
  | error failure =>
    rw [ho] at hedit
    cases hedit

/-- Inlining renames a variable to the property that it is read from, exported or not. -/
theorem interfaces_destructuring :
    interfaces "var t = e.x; export var t;" Destructuring.run = some (["t"], ["x"]) := by
  decide +kernel

theorem not_keepsExports_destructuring : ¬ Destructuring.run.KeepsExports := by
  intro h
  have hx := h.mem_iff interfaces_destructuring "x"
  exact absurd (hx.mp (List.mem_singleton.mpr rfl)) (by decide)

/-- A component is renamed to start with a capital letter, exported or not. -/
theorem interfaces_element :
    interfaces "export const foo = () => null; export const el = createElement(foo, null);"
      (Element.run {}) = some (["foo", "el"], ["Foo", "el"]) := by
  decide +kernel

theorem not_keepsExports_element : ¬ (Element.run {}).KeepsExports := by
  intro h
  have hfoo := h.mem_iff interfaces_element "Foo"
  exact absurd (hfoo.mp List.mem_cons_self) (by decide)

/-- **Of the rules that edit the tree, all but inlining and elements keep the interface of modules.** -/
theorem keepsExports_iff {rule : Rule} (h : rule ∈ all) (hkind : rule.kind = "tree") :
    rule.KeepsExports ↔ rule.name ≠ "smart-inline" ∧ rule.name ≠ "un-jsx" := by
  have keeps {rule : Rule} (hkept : rule.KeepsExports) (hinline : rule.name ≠ "smart-inline")
      (hjsx : rule.name ≠ "un-jsx") :
      rule.KeepsExports ↔ rule.name ≠ "smart-inline" ∧ rule.name ≠ "un-jsx" :=
    iff_of_true hkept ⟨hinline, hjsx⟩
  simp only [all, List.mem_cons, List.not_mem_nil, or_false] at h
  rcases h with rfl | rfl | rfl | rfl | rfl | rfl | rfl | rfl | rfl
  · exact keeps ((keepsExports_plain rfl).mpr (keepsExports_of_outlined fun _ _ => StrictDirective.keeps_run))
      (by decide) (by decide)
  · exact keeps (keepsExports_options rfl fun options =>
      keepsExports_of_exports fun _ => ModuleName.keeps_run options) (by decide) (by decide)
  · exact keeps ((keepsExports_plain rfl).mpr (keepsExports_of_outlined fun _ => Undefined.keeps_run))
      (by decide) (by decide)
  · exact keeps ((keepsExports_plain rfl).mpr (keepsExports_of_outlined fun _ => WhileLoop.keeps_run))
      (by decide) (by decide)
  · exact keeps (keepsExports_options rfl fun options =>
      keepsExports_of_outlined fun _ hnamed => ExtendsHelper.keeps_run hnamed options) (by decide) (by decide)
  · exact keeps ((keepsExports_plain rfl).mpr (keepsExports_of_outlined fun _ => DirectCall.keeps_run))
      (by decide) (by decide)
  · exact iff_of_false (fun h => not_keepsExports_destructuring ((keepsExports_plain rfl).mp h))
      fun h => h.1 rfl
  · exact iff_of_false (fun h => not_keepsExports_element (h _ rfl {} (Element.run {}) rfl)) fun h => h.2 rfl
  · exact absurd hkind (by decide)

/-- Writing `undefined` is one of those that do. -/
theorem keepsExports_undefined : ∃ rule ∈ all, rule.kind = "tree" ∧ rule.name = "un-undefined" ∧
    rule.KeepsExports := by
  refine ⟨all[2], List.getElem_mem _, rfl, rfl, ?_⟩
  exact (keepsExports_iff (List.getElem_mem _) rfl).mpr ⟨by decide, by decide⟩

/-- **Not every rule that edits the tree keeps the interface of modules.** -/
theorem not_keepsExports_all : ¬ ∀ rule ∈ all, rule.kind = "tree" → rule.KeepsExports := by
  intro h
  have helement := h all[7] (List.getElem_mem _) rfl
  exact not_keepsExports_element (helement _ rfl {} (Element.run {}) rfl)

end Rules

end Deminify
