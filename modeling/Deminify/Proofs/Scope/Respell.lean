import Deminify.Proofs.Scope.Account
import Deminify.Proofs.Tree.Respell

/-!
# The notes of a respelled program

The walk looks at the spelling of a name only to note it, and to tell markup from names in the tags of
elements. So if the tags are left alone in this respect (`Deminify.ScopeTree.TagKept`), **the walk
over a respelled program leaves the notes of the program, respelled**
(`Deminify.ScopeTree.walk_respell`).
-/

namespace Deminify

namespace ScopeTree

variable (σ : Nat → String → String)

/-- A use of a name that is spelled anew. -/
def Use.respell (u : Use) : Use := { u with name := σ u.label u.name }

/-- The visit of a respelled node. -/
def Visit.respell (v : Visit) : Visit := { v with node := v.node.respell σ }

/-- A note of names that are spelled anew. -/
def Note.respell : Note → Note
  | .declares scope hoisted label name kind node =>
    .declares scope hoisted label (σ label name) kind (node.respell σ)
  | .uses use => .uses (use.respell σ)
  | n => n

/-- What is found at a respelled node. -/
def Finding.respell (f : Finding) : Finding :=
  ⟨f.notes.map (Note.respell σ), f.below.map (Visit.respell σ)⟩

/-! ### Patterns -/

theorem mapM_map {α β γ δ : Type} {f : α → β} {h : γ → δ} {g : β → Except Failure δ}
    {k : α → Except Failure γ} (hg : ∀ a, g (f a) = h <$> k a) (xs : List α) :
    (xs.map f).mapM g = List.map h <$> xs.mapM k := by
  induction xs with
  | nil => rfl
  | cons a rest ih =>
    rw [List.map_cons, List.mapM_cons, List.mapM_cons, hg, ih]
    cases k a with
    | error e => rfl
    | ok b => cases rest.mapM k <;> rfl

theorem patternIdentifiersWithin_respell (fuel : Nat) (t : Tree) :
    (t.respell σ).patternIdentifiersWithin (m := Except Failure) fuel =
      List.map (Tree.respell σ) <$> t.patternIdentifiersWithin (m := Except Failure) fuel := by
  induction fuel generalizing t with
  | zero => rfl
  | succ fuel ih =>
    have hparts {g : Tree → Except Failure (List Tree)} {key : String} (hk : key ≠ "name")
        (hg : ∀ p, g (p.respell σ) = List.map (Tree.respell σ) <$> g p) :
        (do return (← (← (t.respell σ).listField key).mapM g).flatten) =
          List.map (Tree.respell σ) <$> (do return (← (← t.listField key).mapM g).flatten) := by
      rw [Tree.listField_respell σ t hk]
      simp only [map_bind, bind_map_left, mapM_map hg, map_pure, List.map_flatten]
    have hinner {key : String} (hk : key ≠ "name") :
        ((t.respell σ).field key >>= (·.patternIdentifiersWithin (m := Except Failure) fuel)) =
          List.map (Tree.respell σ) <$> (t.field key >>= (·.patternIdentifiersWithin fuel)) := by
      rw [Tree.field_respell σ t hk]
      simp only [map_bind, bind_map_left, ih]
    rw [Tree.patternIdentifiersWithin, Tree.patternIdentifiersWithin, Tree.isNull_respell,
      Tree.kindOf_respell]
    split
    · rfl
    · rw [map_bind]
      congr 1
      funext kind
      split
      · rfl
      · refine hparts (by decide) fun p => ?_
        rw [Tree.kindOf_respell, Tree.field_respell σ p (by decide), Tree.field_respell σ p (by decide)]
        rw [map_bind]
        congr 1
        funext kind
        split <;> simp only [bind_map_left, map_bind, ih]
      · exact hparts (by decide) ih
      · exact hinner (by decide)
      · exact hinner (by decide)
      · rfl

theorem patternIdentifiers_respell (t : Tree) :
    (t.respell σ).patternIdentifiers (m := Except Failure) =
      List.map (Tree.respell σ) <$> t.patternIdentifiers (m := Except Failure) := by
  rw [Tree.patternIdentifiers, Tree.height_respell]
  exact patternIdentifiersWithin_respell σ _ t

/-! ### Notes of names -/

theorem declaring_respell (scope : Nat) (hoisted : Bool) (name : Tree) (kind : String) (node : Tree) :
    declaring scope hoisted (name.respell σ) kind (node.respell σ) =
      Note.respell σ <$> declaring scope hoisted name kind node := by
  rw [declaring, declaring, Tree.textField_respell_name, Tree.label_respell]
  simp only [map_bind, bind_map_left, map_pure, Note.respell]

theorem declaringPattern_respell (scope : Nat) (hoisted : Bool) (pattern : Tree) (kind : String)
    (node : Tree) : declaringPattern scope hoisted (pattern.respell σ) kind (node.respell σ) =
      List.map (Note.respell σ) <$> declaringPattern scope hoisted pattern kind node := by
  rw [declaringPattern, declaringPattern, patternIdentifiers_respell, bind_map_left, map_bind]
  congr 1
  funext names
  exact mapM_map (fun name => declaring_respell σ scope hoisted name kind node) names

theorem using_respell (name : Tree) (parent : Nat × String) (scope : Nat) (writes : Bool) :
    using_ (name.respell σ) parent scope writes = Note.respell σ <$> using_ name parent scope writes := by
  rw [using_, using_, Tree.textField_respell_name, Tree.label_respell]
  simp only [map_bind, bind_map_left, map_pure, Note.respell, Use.respell]

/-! ### Children -/

theorem child_respell (t : Tree) (key : String) (node : Tree) (scope : Nat) (mode : Mode) :
    child (t.respell σ) key (node.respell σ) scope mode =
      (child t key node scope mode).map (Visit.respell σ) := by
  rw [child, child, Tree.truthy_respell, Tree.label_respell]
  split <;> rfl

theorem allChildren_respell (t : Tree) (scope : Nat) (mode : Mode) :
    allChildren (t.respell σ) scope mode = (allChildren t scope mode).map (Visit.respell σ) := by
  rw [allChildren, allChildren, Tree.slots_respell, List.map_map, List.map_map, Tree.label_respell]
  rfl

theorem part_respell (t : Tree) {key : String} (hk : key ≠ "name") (scope : Nat) (mode : Mode) :
    part (t.respell σ) key scope mode = List.map (Visit.respell σ) <$> part t key scope mode := by
  rw [part, part, Tree.field_respell σ t hk]
  simp only [map_bind, bind_map_left, map_pure, child_respell]

/-! ### Visits of each kind -/

theorem visitName_respell (v : Visit) : visitName (v.respell σ) = Finding.respell σ <$> visitName v := by
  have huse (writes : Bool) : using_ (v.node.respell σ) v.parent v.scope writes =
      Note.respell σ <$> using_ v.node v.parent v.scope writes := using_respell σ _ _ _ _
  unfold visitName
  dsimp only [Visit.respell]
  split <;> simp only [huse, map_bind, bind_map_left, map_pure] <;> rfl

theorem hasOwnName_respell (t : Tree) (kind : String) :
    hasOwnName (t.respell σ) kind = hasOwnName t kind := by
  rw [hasOwnName, hasOwnName, Tree.get_respell σ t (by decide), Tree.truthy_respell]

theorem namingFunction_respell (t : Tree) (kind : String) (scope next : Nat) :
    namingFunction (t.respell σ) kind scope next =
      List.map (Note.respell σ) <$> namingFunction t kind scope next := by
  unfold namingFunction
  rw [hasOwnName_respell, Tree.get_respell σ t (by decide)]
  dsimp only
  rw [Tree.truthy_respell, Tree.label_respell]
  split
  · simp only [declaring_respell, map_bind, bind_map_left, map_pure, List.map_cons, List.map_nil]
  · split
    · simp only [declaring_respell, map_bind, bind_map_left, map_pure, List.map_cons, List.map_nil]
      rfl
    · rfl

theorem visitFunction_respell (t : Tree) (kind : String) (scope next : Nat) :
    visitFunction (t.respell σ) kind scope next =
      Finding.respell σ <$> visitFunction t kind scope next := by
  unfold visitFunction
  rw [hasOwnName_respell, namingFunction_respell, Tree.listField_respell σ t (by decide),
    Tree.field_respell σ t (by decide), Tree.label_respell]
  simp only [map_bind, bind_map_left]
  congr 1
  funext named
  congr 1
  funext params
  rw [mapM_map fun p => declaringPattern_respell σ _ false p "param" t]
  simp only [bind_map_left, Tree.kindOf_respell]
  congr 1
  funext bound
  congr 1
  funext body
  congr 1
  funext bodyKind
  rw [map_pure]
  cases bodyKind == "BlockStatement" <;>
    simp [Finding.respell, Visit.respell, Note.respell, List.map_flatten, Function.comp_def]

theorem namingClass_respell (t : Tree) (kind : String) (scope next : Nat) :
    namingClass (t.respell σ) kind scope next =
      List.map (Note.respell σ) <$> namingClass t kind scope next := by
  unfold namingClass
  rw [Tree.get_respell σ t (by decide)]
  dsimp only
  rw [Tree.truthy_respell]
  split
  · split <;>
      simp only [declaring_respell, map_bind, bind_map_left, map_pure, List.map_cons, List.map_nil]
  · rfl

theorem visitClass_respell (t : Tree) (kind : String) (scope next : Nat) :
    visitClass (t.respell σ) kind scope next = Finding.respell σ <$> visitClass t kind scope next := by
  unfold visitClass
  rw [namingClass_respell, Tree.field_respell σ t (by decide), Tree.get_respell σ t (by decide),
    Tree.label_respell]
  simp only [map_bind, bind_map_left, map_pure, child_respell, Finding.respell, List.map_append,
    List.map_cons, Note.respell]

theorem visitDeclaration_respell (t : Tree) (scope : Nat) :
    visitDeclaration (t.respell σ) scope = Finding.respell σ <$> visitDeclaration t scope := by
  unfold visitDeclaration
  rw [Tree.textField_respell σ t (by decide), Tree.listField_respell σ t (by decide),
    Tree.label_respell]
  simp only [map_bind, bind_map_left]
  congr 1
  funext kind
  congr 1
  funext declarators
  rw [mapM_map (h := List.map (Note.respell σ)) (k := fun d => do
    declaringPattern scope (kind == "var") (← d.field "id") kind d)]
  · simp [Finding.respell, Visit.respell, List.map_flatten, Function.comp_def]
  · intro d
    rw [Tree.field_respell σ d (by decide), bind_map_left, map_bind]
    simp only [declaringPattern_respell]

theorem visitLoopOver_respell (t : Tree) (scope next : Nat) :
    visitLoopOver (t.respell σ) scope next = Finding.respell σ <$> visitLoopOver t scope next := by
  unfold visitLoopOver
  simp only [Tree.field_respell σ t (show "left" ≠ "name" by decide),
    Tree.field_respell σ t (show "right" ≠ "name" by decide),
    Tree.field_respell σ t (show "body" ≠ "name" by decide), Tree.label_respell, Tree.kindOf_respell,
    map_bind, bind_map_left, map_pure, child_respell, Finding.respell, List.map_append, List.map_cons,
    List.map_nil, Note.respell]

theorem visitCatch_respell (t : Tree) (scope next : Nat) :
    visitCatch (t.respell σ) scope next = Finding.respell σ <$> visitCatch t scope next := by
  unfold visitCatch
  rw [Tree.get_respell σ t (by decide), Tree.field_respell σ t (by decide), Tree.label_respell]
  dsimp only
  rw [Tree.truthy_respell]
  split
  · simp only [declaringPattern_respell, map_bind, bind_map_left, map_pure, child_respell,
      Finding.respell, List.map_append, List.map_cons, List.map_nil, Note.respell, Tree.label_respell]
  · simp only [pure_bind, map_bind, bind_map_left, map_pure, child_respell,
      Finding.respell, List.map_append, List.map_cons, List.map_nil, Note.respell, Tree.label_respell]

theorem visitSwitch_respell (t : Tree) (scope next : Nat) :
    visitSwitch (t.respell σ) scope next = Finding.respell σ <$> visitSwitch t scope next := by
  unfold visitSwitch
  rw [Tree.field_respell σ t (by decide), Tree.listField_respell σ t (by decide), Tree.label_respell]
  simp only [map_bind, bind_map_left, map_pure, child_respell, Finding.respell, List.map_append,
    List.map_cons, List.map_nil, Note.respell, List.map_map]
  rfl

theorem visitImport_respell (t : Tree) :
    visitImport (t.respell σ) = Finding.respell σ <$> visitImport t := by
  unfold visitImport
  rw [Tree.get_respell σ t (by decide), Tree.items_respell, mapM_map (h := Note.respell σ)
    (k := fun s => do declaring 0 false (← s.field "local") "module" s)]
  · simp only [map_bind, bind_map_left, map_pure]
    rfl
  · intro s
    rw [Tree.field_respell σ s (by decide), bind_map_left, map_bind]
    simp only [declaring_respell]

theorem visitExport_respell (t : Tree) (scope : Nat) :
    visitExport (t.respell σ) scope = Finding.respell σ <$> visitExport t scope := by
  unfold visitExport
  rw [Tree.get_respell σ t (by decide), Tree.get_respell σ t (by decide),
    Tree.get_respell σ t (by decide), child_respell, Tree.isNull_respell, Tree.items_respell]
  dsimp only
  split
  · rw [mapM_map (h := Visit.respell σ) (k := fun s => do
      return ⟨← s.field "local", (s.label, "local"), scope, .normal⟩)]
    · simp only [map_bind, bind_map_left, map_pure, Finding.respell, List.map_append, List.map_nil]
    · intro s
      rw [Tree.field_respell σ s (by decide), Tree.label_respell]
      simp only [map_bind, bind_map_left, map_pure, Visit.respell]
  · simp only [map_pure, Finding.respell, List.map_nil]

theorem visitDeclarator_respell (t : Tree) (scope : Nat) :
    visitDeclarator (t.respell σ) scope = Finding.respell σ <$> visitDeclarator t scope := by
  unfold visitDeclarator
  rw [part_respell σ t (by decide), Tree.get_respell σ t (by decide), child_respell]
  simp only [map_bind, bind_map_left, map_pure, Finding.respell, List.map_append, List.map_nil]

theorem visitBlock_respell (t : Tree) (scope next : Nat) (mode : Mode) :
    visitBlock (t.respell σ) scope next mode = Finding.respell σ <$> visitBlock t scope next mode := by
  unfold visitBlock
  simp only [allChildren_respell, Tree.label_respell]
  split <;> simp only [map_pure, Finding.respell, List.map_nil, List.map_cons, Note.respell]

theorem visitMember_respell (t : Tree) (scope : Nat) :
    visitMember (t.respell σ) scope = Finding.respell σ <$> visitMember t scope := by
  unfold visitMember
  rw [part_respell σ t (by decide), part_respell σ t (by decide), Tree.get_respell σ t (by decide),
    Tree.truthy_respell]
  simp only [map_bind, bind_map_left]
  congr 1
  funext object
  split <;> simp only [map_bind, map_pure, Finding.respell, List.map_append, List.map_nil]

theorem visitProperty_respell (t : Tree) (scope : Nat) (mode : Mode) :
    visitProperty (t.respell σ) scope mode = Finding.respell σ <$> visitProperty t scope mode := by
  unfold visitProperty
  rw [part_respell σ t (by decide), Tree.get_respell σ t (by decide), Tree.get_respell σ t (by decide),
    Tree.truthy_respell, child_respell]
  split <;>
    simp only [pure_bind, map_bind, bind_map_left, map_pure, Finding.respell, List.map_append,
      List.map_nil, List.nil_append]

theorem visitFallback_respell (t : Tree) (scope : Nat) (mode : Mode) :
    visitFallback (t.respell σ) scope mode = Finding.respell σ <$> visitFallback t scope mode := by
  unfold visitFallback
  rw [part_respell σ t (by decide), part_respell σ t (by decide)]
  simp only [map_bind, bind_map_left, map_pure, Finding.respell, List.map_append, List.map_nil]

theorem visitAssignment_respell (t : Tree) (scope : Nat) :
    visitAssignment (t.respell σ) scope = Finding.respell σ <$> visitAssignment t scope := by
  unfold visitAssignment
  rw [Tree.field_respell σ t (by decide)]
  simp only [part_respell σ t (show "left" ≠ "name" by decide),
    part_respell σ t (show "right" ≠ "name" by decide), Tree.kindOf_respell, map_bind, bind_map_left,
    map_pure, Finding.respell, List.map_append, List.map_nil]

theorem visitUpdate_respell (t : Tree) (scope : Nat) :
    visitUpdate (t.respell σ) scope = Finding.respell σ <$> visitUpdate t scope := by
  unfold visitUpdate
  rw [Tree.field_respell σ t (by decide)]
  simp only [part_respell σ t (show "argument" ≠ "name" by decide), Tree.kindOf_respell, map_bind,
    bind_map_left, map_pure, Finding.respell, List.map_nil]

/-! ### Tags -/

/-- Whether the tag of an element says the same of its name when it is spelled anew: that it is a name
and not markup, and that it is taken from a name. -/
structure TagKept (t : Tree) : Prop where
  plain : ∀ {name : Tree} {x : String}, t.field (m := Except Failure) "name" = .ok name →
    name.kindOf (m := Except Failure) = .ok "JSXIdentifier" →
      name.textField (m := Except Failure) "name" = .ok x →
        isMarkupName (σ name.label x) = isMarkupName x
  root : ∀ {name access root : Tree} {x : String}, t.field (m := Except Failure) "name" = .ok name →
    name.kindOf (m := Except Failure) = .ok "JSXMemberExpression" →
      innermostAccess name.height name = .ok access →
        access.field (m := Except Failure) "object" = .ok root →
          root.kindOf (m := Except Failure) = .ok "JSXIdentifier" →
            root.textField (m := Except Failure) "name" = .ok x →
              (σ root.label x == "this") = (x == "this")

theorem innermostAccess_respell (fuel : Nat) (t : Tree) :
    innermostAccess fuel (t.respell σ) = Tree.respell σ <$> innermostAccess fuel t := by
  induction fuel generalizing t with
  | zero => rfl
  | succ fuel ih =>
    rw [innermostAccess, innermostAccess, Tree.field_respell σ t (by decide)]
    simp only [map_bind, bind_map_left, Tree.kindOf_respell]
    congr 1
    funext object
    congr 1
    funext kind
    split
    · exact ih object
    · rfl

theorem usingTagName_respell {t : Tree} (h : TagKept σ t) {name : Tree}
    (hn : t.field (m := Except Failure) "name" = .ok name) (scope : Nat) :
    usingTagName (t.respell σ) (name.respell σ) scope =
      List.map (Note.respell σ) <$> usingTagName t name scope := by
  have huse (name : Tree) (parent : Nat × String) :
      (do return [← using_ (name.respell σ) parent scope false]) =
        List.map (Note.respell σ) <$> (do return [← using_ name parent scope false]) := by
    rw [using_respell]
    simp only [map_bind, bind_map_left, map_pure, List.map_cons, List.map_nil]
  -- both sides ask for the same things in turn and fail alike; they part only where a name is compared, and there the
  -- respelled name compares as the old one
  unfold usingTagName
  rw [Tree.kindOf_respell, map_bind]
  cases hkind : name.kindOf (m := Except Failure) with
  | error e => rfl
  | ok kind =>
    simp only [ok_bind]
    split
    · rw [Tree.textField_respell_name, bind_map_left, map_bind, Tree.label_respell]
      cases hx : name.textField (m := Except Failure) "name" with
      | error e => rfl
      | ok x =>
        simp only [ok_bind]
        rw [h.plain hn hkind hx]
        split
        · rfl
        · exact huse name _
    · rw [Tree.height_respell, innermostAccess_respell, bind_map_left, map_bind]
      cases ha : innermostAccess name.height name with
      | error e => rfl
      | ok access =>
        simp only [ok_bind]
        rw [Tree.field_respell σ access (by decide), bind_map_left, map_bind, Tree.label_respell]
        cases hr : access.field (m := Except Failure) "object" with
        | error e => rfl
        | ok root =>
          simp only [ok_bind]
          rw [Tree.kindOf_respell, map_bind]
          cases hk : root.kindOf (m := Except Failure) with
          | error e => rfl
          | ok rootKind =>
            simp only [ok_bind]
            by_cases hj : rootKind = "JSXIdentifier"
            · subst hj
              rw [Tree.textField_respell_name, bind_map_left]
              cases hx : root.textField (m := Except Failure) "name" with
              | error e => rfl
              | ok x =>
                simp only [ok_bind]
                rw [h.root hn hkind ha hr hk hx]
                by_cases ht : (x == "this") = true
                · simp [ht]
                · simp only [bne_self_eq_false, Bool.false_eq_true, if_false, ht]
                  exact huse root _
            · simp [hj]
    · rfl

theorem visitTag_respell {t : Tree} (h : TagKept σ t) (scope : Nat) :
    visitTag (t.respell σ) scope = Finding.respell σ <$> visitTag t scope := by
  unfold visitTag
  rw [Tree.get_respell σ t (by decide), Tree.items_respell, Tree.field_respell_name, Tree.label_respell,
    bind_map_left, map_bind]
  cases hn : t.field (m := Except Failure) "name" with
  | error e => rfl
  | ok name =>
    have hname : (name.respell σ).spell (σ t.label) = name.respell σ ∨ ∃ x, name = .str x := by
      cases name with
      | str x => exact .inr ⟨x, rfl⟩
      | _ => exact .inl rfl
    simp only [ok_bind]
    rcases hname with hname | ⟨x, rfl⟩
    · rw [hname, usingTagName_respell σ h hn]
      simp only [map_bind, bind_map_left, map_pure, Finding.respell, List.map_map]
      rfl
    · rfl

/-! ### Any node, and the walk -/

/-- Whether a node is the tag of an element. -/
def isTag (t : Tree) : Prop := t.kind = "JSXOpeningElement" ∨ t.kind = "JSXClosingElement"

/-- **What is found at a respelled node** is what is found at the node, respelled. -/
theorem visit_respell {v : Visit} (hw : v.node.WellFormed) (h : isTag v.node → TagKept σ v.node)
    (next : Nat) :
    visit (v.respell σ) next = Finding.respell σ <$> visit v next := by
  have hall (scope : Nat) (mode : Mode) := allChildren_respell σ v.node scope mode
  unfold visit
  dsimp only [Visit.respell]
  rw [Tree.kindOf_respell, hw.kindOf_eq]
  simp only [ok_bind, hall, Tree.label_respell]
  -- one case for each branch of the visit, in its order
  split
  · exact visitName_respell σ v
  · exact visitDeclaration_respell σ _ _
  · exact visitDeclarator_respell σ _ _
  · exact visitFunction_respell σ _ _ _ _
  · exact visitFunction_respell σ _ _ _ _
  · exact visitFunction_respell σ _ _ _ _
  · exact visitClass_respell σ _ _ _ _
  · exact visitClass_respell σ _ _ _ _
  · exact visitBlock_respell σ _ _ _ _
  · exact visitBlock_respell σ _ _ _ _
  · rfl
  · exact visitLoopOver_respell σ _ _ _
  · exact visitLoopOver_respell σ _ _ _
  · exact visitCatch_respell σ _ _ _
  · exact visitSwitch_respell σ _ _ _
  · exact visitImport_respell σ _
  · exact visitExport_respell σ _ _
  · rfl
  · exact visitMember_respell σ _ _
  · exact visitProperty_respell σ _ _ _
  · exact visitProperty_respell σ _ _ _
  · exact visitProperty_respell σ _ _ _
  · rfl
  · rfl
  · rfl
  · exact visitFallback_respell σ _ _ _
  · exact visitAssignment_respell σ _ _
  · exact visitUpdate_respell σ _ _
  · rw [part_respell σ _ (by decide)]
    simp only [map_bind, bind_map_left, map_pure]
    rfl
  · rfl
  · rfl
  · rfl
  · exact visitTag_respell σ (h (.inl ‹_›)) _
  · exact visitTag_respell σ (h (.inr ‹_›)) _
  · rw [Tree.get_respell σ _ (by decide), child_respell]
    rfl
  · rfl

theorem openings_respell (notes : List Note) : openings (notes.map (Note.respell σ)) = openings notes := by
  rw [openings, openings, List.countP_map]
  refine List.countP_congr fun n _ => ?_
  cases n <;> rfl

/-- **The walk over a respelled program.** -/
theorem walk_respell {program : Tree} (h : ∀ t ∈ program.subtree, isTag t → TagKept σ t) {fuel : Nat}
    {visits : List Visit} {next : Nat} {frames : Nat → List Frame} {site : Visit → Site}
    (hs : ∀ v ∈ visits, v.scope < next) (ha : ∀ v ∈ visits, Agrees frames v (site v))
    (hin : ∀ v ∈ visits, v.node ∈ program.subtree) :
    walk fuel (visits.map (Visit.respell σ)) next =
      List.map (Note.respell σ) <$> walk fuel visits next := by
  induction fuel generalizing visits next frames site with
  | zero => rfl
  | succ fuel ih =>
    rw [walk, walk]
    -- within a level the induction is on its visits; a respelled one opens as many scopes as it did before
    induction visits generalizing next with
    | nil => rfl
    | cons v rest ihr =>
      obtain ⟨f, frames', hf, hr, hbelow⟩ :=
        (ha v List.mem_cons_self).visit (hs v List.mem_cons_self)
      have hp := ha v List.mem_cons_self
      have hinside : ∀ w ∈ f.below, w.node ∈ program.subtree := by
        intro w hw
        refine Tree.subtree_subset (hin v List.mem_cons_self) ?_
        rw [Tree.subtree_eq, hp.node]
        exact List.mem_cons_of_mem _ (hr.inside w hw)
      have hvisit := visit_respell σ (hp.node ▸ hp.fit.1) (h v.node (hin v List.mem_cons_self)) next
      rw [hf] at hvisit
      have hinner := ih hr.scopes hbelow hinside
      have hopen : openings (Finding.respell σ f).notes = openings f.notes := openings_respell σ f.notes
      rw [List.map_cons, walkEach, walkEach, hvisit, hf, ok_bind,
        show Finding.respell σ <$> (.ok f : Except Failure Finding) = .ok (f.respell σ) from rfl, ok_bind,
        hopen, show (f.respell σ).below = f.below.map (Visit.respell σ) from rfl, hinner, bind_map_left,
        map_bind]
      cases walk fuel f.below (next + openings f.notes) with
      | error e => rfl
      | ok inner =>
        let notes := .stands v.node.label v.scope :: f.notes ++ inner
        have hnotes : .stands (v.respell σ).node.label (v.respell σ).scope :: (f.respell σ).notes ++
            inner.map (Note.respell σ) = notes.map (Note.respell σ) := by
          simp [notes, Finding.respell, Visit.respell, Note.respell]
        have hrest := @ihr (next + openings notes)
          (fun w hw => Nat.lt_add_right _ (hs w (List.mem_cons_of_mem _ hw)))
          (fun w hw => ha w (List.mem_cons_of_mem _ hw))
          (fun w hw => hin w (List.mem_cons_of_mem _ hw))
        simp only [ok_bind, hnotes, openings_respell, hrest, map_bind, bind_map_left, map_pure]
        simp only [notes, List.map_append]

/-- **The scopes of a respelled program** come from the notes of the program, respelled. -/
theorem build_respell {program : Tree} (hp : program.Is (· == "Program"))
    (h : ∀ t ∈ program.subtree, isTag t → TagKept σ t) {notes : List Note}
    (hw : walk program.height (allChildren program 0 .normal) 1 = .ok notes) :
    build (program.respell σ) = .ok (ofNotes program.label (notes.map (Note.respell σ))) := by
  have hin : ∀ v ∈ allChildren program 0 .normal, v.node ∈ program.subtree := by
    intro v hv
    obtain ⟨x, hx, rfl⟩ := List.mem_map.mp hv
    exact Tree.subtree_subset_of_mem_children (Tree.mem_children_of_mem_slots hx)
      (Tree.mem_subtree_self _)
  rw [build, Tree.height_respell, Tree.label_respell, allChildren_respell,
    walk_respell σ h (scope_allChildren program)
      (@agrees_allChildren program hp (fun _ => [⟨program.label, "program"⟩]) rfl) hin, hw]
  rfl

end ScopeTree

end Deminify
