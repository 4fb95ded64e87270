import Deminify.Proofs.Bundle.Call
import Deminify.Proofs.Bundle.Factory
import Deminify.Proofs.Bundle.Unpacked
import Deminify.Proofs.Program
import Deminify.Proofs.Scope.Excerpt
import Deminify.Proofs.Scope.Global

/-!
# The entry of a runtime

What a runtime does besides requiring modules is made into a program of its own: of the statements of the
function that is called, those that belong to the runtime are left out, and a function without parameters
that is called right away gives way to its statements. All of these are statements of the program, each of
them read where it stands (`Deminify.Bundle.childReadIn_of_mem_entry`): whatever is looked through on the
way to them is an expression, and what a function holds stands in the scope that the function opens.

So **the entry is an excerpt of the program** (`Deminify.Bundle.excerpts_entry`), and what is known of
excerpts is known of it.

The entry of a runtime that is a module of its own is printed from the statements that are left of the
runtime. The names in it belong to scopes as they do in the bundle, save that all scopes around the
statements have become one, the scope of the entry. This module says which declarations a name has then
(`Deminify.Bundle.names_of_inlined_entry`, in terms of `Deminify.Bundle.Runtime.Carries`):

* a name that belongs to a scope of the entry has the declarations that it had;
* any other name has all declarations of that name that the scope of the entry receives, be they from the
  body of the runtime or from functions that have given way to their statements.

The entry is therefore self-contained where no declaration has been taken away with the runtime and no two
of the scopes that have become one declare the same name.

## Where the entry is not self-contained

A statement belongs to the runtime as a whole if one of its declarators does, and takes what else it declares
with it (`Deminify.Bundle.not_declared_in_entry`).
-/

namespace Deminify

namespace Tree

/-! ### Parts that are read -/

/-- Whether all that is below a node of a kind, in a field, is read. -/
def readsAt (kind key : String) : Bool :=
  ["BlockStatement", "ExpressionStatement", "UnaryExpression", "SequenceExpression",
    "CallExpression"].contains kind || kind == "Program" || (kind == "AssignmentExpression" && key == "right")

theorem roleAt_of_readsAt {t : Tree} {key : String} (h : readsAt t.kind key = true) {role : NameRole}
    (hr : role = .reads ∨ role = .body) (frames : List Frame) :
    (⟨t, role, frames⟩ : Site).roleAt key = .reads := by
  have hkind : (⟨t, role, frames⟩ : Site).roleByKind key = .reads := by
    simp only [readsAt, List.contains_cons, Bool.or_eq_true, Bool.and_eq_true, beq_iff_eq,
      List.contains_nil, Bool.false_eq_true, or_false] at h
    rcases h with (hk | hk) | ⟨hk, rfl⟩
    · rcases hk with hk | hk | hk | hk | hk <;> simp [Site.roleByKind, hk]
    · simp [Site.roleByKind, hk]
    · simp [Site.roleByKind, hk]
  rcases hr with rfl | rfl <;> exact hkind

/-- **A part of a program that is read** where it stands. -/
structure ReadIn (root t : Tree) : Prop where
  within : Within root t
  stands : ∃ frames, Stands root ⟨t, .reads, frames⟩

/-- A child that is read, with what it is a child of. -/
def ChildReadIn (root t : Tree) : Prop :=
  ∃ p slot, Stands root p ∧ (slot, t) ∈ p.node.slots ∧ p.roleAt slot.key = .reads

theorem ChildReadIn.stands {root t : Tree} (h : ChildReadIn root t) :
    ∃ frames, Stands root ⟨t, .reads, frames⟩ := by
  obtain ⟨p, slot, hp, hslot, hrole⟩ := h
  refine ⟨p.framesAt slot.key, Reaches.trans hp ?_⟩
  rw [← hrole]
  exact .step hslot (.refl _)

namespace ReadIn

variable {root t c : Tree} {kind key : String} {kinds : String → Bool} (h : ReadIn root t)

include h

theorem kind_eq (hk : t.isKind kind = true) : t.kind = kind := h.within.kind_eq hk

/-- What a field holds. -/
theorem node (hk : t.kind = kind) (hs : fieldSort kind key = some (.node kinds))
    (hr : readsAt kind key = true) : ReadIn root (t.get key) := by
  subst hk
  obtain ⟨frames, hp⟩ := h.stands
  refine ⟨h.within.node rfl hs, ?_⟩
  have hbelow := Reaches.field hp h.within.wellFormed hs
  rw [Site.below, roleAt_of_readsAt hr (.inl rfl)] at hbelow
  exact ⟨_, hbelow⟩

/-- An item of the list that a field holds. -/
theorem item (hk : t.kind = kind) (hs : fieldSort kind key = some (.nodes kinds))
    (hr : readsAt kind key = true) (hc : c ∈ (t.get key).items) : ReadIn root c := by
  subst hk
  obtain ⟨frames, hp⟩ := h.stands
  refine ⟨h.within.item rfl hs hc, ChildReadIn.stands ?_⟩
  have hmem : c ∈ t.nodesAt key := by rwa [h.within.wellFormed.nodesAt_nodes hs]
  obtain ⟨slot, rfl, hslot⟩ := ScopeTree.mem_slots_of_mem_nodesAt hmem
  exact ⟨_, slot, hp, hslot, roleAt_of_readsAt hr (.inl rfl) frames⟩

end ReadIn

/-! ### Programs of statements -/

/-- A program that consists of statements. -/
def standalone (next : Nat) (statements : List Tree) : Tree :=
  .obj next [("type", .str "Program"), ("body", .list statements), ("sourceType", .str "script")]

section Standalone

variable {next : Nat} {statements : List Tree}

theorem labels_standalone :
    (standalone next statements).labels = next :: (list statements).labels := by
  simp [standalone, labels, labelsFields]

theorem ofTree_program (h : (list statements).Settled next) :
    Document.ofTree (program statements) next = ⟨standalone next statements, [], next + 1⟩ := by
  have hbody : (list statements).number (next + 1) = (list statements, next + 1) :=
    number_of_labelled (fun h0 => absurd (h.given 0 h0).1 (Nat.lt_irrefl 0)) _
  rw [number] at hbody
  simpa [Document.ofTree, program, node, number, numberFields, standalone] using hbody

theorem nodup_standalone (h : (list statements).Settled next) :
    (standalone next statements).labels.Nodup := by
  rw [labels_standalone]
  exact List.nodup_cons.mpr ⟨fun hm => Nat.lt_irrefl _ (h.given next hm).2, h.nodup⟩

theorem is_standalone (h : ∀ s ∈ statements, s.Is isStatementKind) :
    (standalone next statements).Is (· == "Program") := by
  refine is_of_fits rfl rfl ⟨.of_nodup (by simp), ?_, (absurd · (by decide)), (absurd · (by decide))⟩
  simpa [schema, schemaTable, isKnownField, holdsChildren, childlessFields] using h

theorem mem_children_standalone (h : ∀ s ∈ statements, s.Is isStatementKind) {c : Tree} :
    c ∈ (standalone next statements).children ↔ c ∈ statements := by
  rw [mem_children]
  constructor
  · rintro ⟨hnode, key, value, hm, -, hc⟩
    simp only [standalone, fields_obj, List.mem_cons, List.not_mem_nil, or_false, Prod.mk.injEq] at hm
    -- a text is no node and has no items
    rcases hm with ⟨rfl, rfl⟩ | ⟨rfl, rfl⟩ | ⟨rfl, rfl⟩
    · simp [items] at hc
      simp [hc, isNode, isObj] at hnode
    · rcases hc with rfl | hc
      · simp [isNode, isObj] at hnode
      · exact hc
    · simp [items] at hc
      simp [hc, isNode, isObj] at hnode
  · intro hc
    exact ⟨(h c hc).isNode, "body", .list statements, .tail _ (.head _), by decide, .inr hc⟩

end Standalone

end Tree

namespace Bundle

/-! ### What is called right away -/

section Body

variable {root : Tree}

/-- The calls that may be a bundle are read. -/
theorem readIn_of_mem_candidateCalls (hroot : root.Is (· == "Program")) {call : Tree}
    (h : call ∈ candidateCalls (root.get "body").items) :
    Tree.ReadIn root call ∧ call.isKind "CallExpression" = true := by
  have hself : Tree.ReadIn root root := ⟨⟨hroot.2, .refl _⟩, _, .refl _⟩
  refine candidateCalls_induct (fun ht hk => ht.node (ht.kind_eq hk) rfl rfl)
    (fun ht hk => ht.node (ht.kind_eq hk) rfl rfl) (fun ht hk e he => ht.item (ht.kind_eq hk) rfl rfl he)
    (fun s hs hk => ?_) h
  have hstatement := hself.item (beq_iff_eq.mp hroot.kinds) rfl rfl hs
  exact hstatement.node (hstatement.kind_eq hk) rfl rfl

/-- The statements of a function are children that are read. -/
theorem childReadIn_of_plainBody? {callee : Tree} (h : Tree.ReadIn root callee) {body : List Tree}
    (hb : plainBody? callee = some body) : (∀ s ∈ body, Tree.ChildReadIn root s ∧ Tree.Within root s ∧
      s.Is isStatementKind) ∧ (body.flatMap Tree.records).Sublist callee.records := by
  obtain ⟨hfunction, hblock, rfl⟩ := eq_of_plainBody? hb
  obtain ⟨frames, hp⟩ := h.stands
  obtain ⟨kinds, hs⟩ : ∃ kinds, Tree.fieldSort callee.kind "body" = some (.node kinds) := by
    rcases hfunction with hk | hk <;> rw [h.kind_eq hk] <;> exact ⟨_, rfl⟩
  have hwithin := h.within.node rfl hs
  have hk := hwithin.kind_eq hblock
  -- the block shares the scope of the function, and what it holds is read
  have hrole : (⟨callee, .reads, frames⟩ : Site).roleAt "body" = .body := by
    rcases hfunction with hkind | hkind <;> simp [Site.roleAt, Site.roleByKind, h.kind_eq hkind, hblock]
  have hbelow := Reaches.field hp h.within.wellFormed hs
  rw [Site.below, hrole] at hbelow
  refine ⟨fun s hmem => ⟨?_, hwithin.item hk rfl hmem, hwithin.is_item hk rfl hmem⟩, ?_⟩
  · have hsort : Tree.fieldSort (callee.get "body").kind "body" = some (.nodes isStatementKind) := by
      rw [hk]
      rfl
    obtain ⟨slot, he, hslot⟩ := @ScopeTree.mem_slots_of_mem_nodesAt (callee.get "body") "body" s
      (by rwa [hwithin.wellFormed.nodesAt_nodes hsort])
    refine ⟨_, slot, hbelow, hslot, ?_⟩
    rw [he]
    exact Tree.roleAt_of_readsAt (by rw [hk]; rfl) (.inr rfl) _
  · exact ((Tree.sublist_records_items _).trans (Tree.sublist_records_get _ "body")).trans
      (Tree.sublist_records_get callee "body")

/-- The function of a call is read. -/
theorem readIn_callee {call : Tree} (h : Tree.ReadIn root call) (hk : call.isKind "CallExpression" = true) :
    Tree.ReadIn root (call.get "callee") := h.node (h.kind_eq hk) rfl rfl

theorem exists_of_calledBody? {statement : Tree} {body : List Tree} (h : calledBody? statement = some body) :
    statement.isKind "ExpressionStatement" = true ∧ ∃ call, call.isKind "CallExpression" = true ∧
      plainBody? (call.get "callee") = some body ∧ (call = statement.get "expression" ∨
        (statement.get "expression").isKind "UnaryExpression" = true ∧
          call = (statement.get "expression").get "argument") := by
  obtain ⟨hk, h⟩ := guard_bind_eq_some.mp h
  obtain ⟨hcall, hb⟩ := guard_bind_eq_some.mp h
  refine ⟨hk, _, (Bool.and_eq_true_iff.mp hcall).1, hb, ?_⟩
  split
  · rename_i hmarked
    exact .inr ⟨(Bool.and_eq_true_iff.mp hmarked).1, rfl⟩
  · exact .inl rfl

/-- What a statement stands for in the entry: itself, or the statements of the function that it calls. -/
def standsFor (statement : Tree) : List Tree := (calledBody? statement).getD [statement]

theorem childReadIn_of_mem_standsFor {statement : Tree} (h : Tree.ChildReadIn root statement)
    (hw : Tree.Within root statement) (hi : statement.Is isStatementKind) :
    (∀ s ∈ standsFor statement, Tree.ChildReadIn root s ∧ Tree.Within root s ∧ s.Is isStatementKind) ∧
      ((standsFor statement).flatMap Tree.records).Sublist statement.records := by
  rw [standsFor]
  cases hb : calledBody? statement with
  | none =>
    refine ⟨fun s hs => ?_, ?_⟩
    · cases List.mem_singleton.mp hs
      exact ⟨h, hw, hi⟩
    · simp
  | some body =>
    obtain ⟨hk, call, hcall, hplain, hwhere⟩ := exists_of_calledBody? hb
    have hstatement : Tree.ReadIn root statement := ⟨hw, h.stands⟩
    have hexpression : Tree.ReadIn root (statement.get "expression") :=
      hstatement.node (hstatement.kind_eq hk) rfl rfl
    have hrecords := Tree.sublist_records_get statement "expression"
    -- the call is the expression or, behind a mark, its argument
    obtain ⟨hread, hsub⟩ : Tree.ReadIn root call ∧ call.records.Sublist statement.records := by
      rcases hwhere with rfl | ⟨hunary, rfl⟩
      · exact ⟨hexpression, hrecords⟩
      · exact ⟨hexpression.node (hexpression.kind_eq hunary) rfl rfl,
          (Tree.sublist_records_get _ "argument").trans hrecords⟩
    obtain ⟨hall, hbody⟩ := childReadIn_of_plainBody? (readIn_callee hread hcall) hplain
    exact ⟨hall, (hbody.trans (Tree.sublist_records_get call "callee")).trans hsub⟩

end Body

/-! ### The entry -/

/-- What is left of a runtime when what belongs to it is taken away. -/
def Runtime.rest (runtime : Runtime) : List Tree := runtime.body.filter (!isRuntimeStatement runtime ·)

/-- Whether the entry is a module of its own: it does more than require modules. -/
def Runtime.inlines (runtime : Runtime) : Bool :=
  !(runtime.rest.map (entryOf? runtime.require)).all Option.isSome

/-- The statements that the entry consists of. -/
def Runtime.entry (runtime : Runtime) : List Tree := runtime.rest.flatMap standsFor

/-- Whether a label is that of a node of the entry. -/
def Runtime.Keeps (runtime : Runtime) (l : Nat) : Prop := ∃ s ∈ runtime.entry, ∃ n ∈ s.subtree, n.label = l

section Entry

variable {root call : Tree} {runtime : Runtime}

/-- **The statements of the entry** are statements of the program that are read where they stand, and they
lie apart. -/
theorem childReadIn_of_mem_entry (hroot : root.Is (· == "Program"))
    (hcall : call ∈ candidateCalls (root.get "body").items) (hr : runtimeOf? call = some runtime) :
    (∀ s ∈ runtime.entry, Tree.ChildReadIn root s ∧ s.Is isStatementKind) ∧
      (runtime.entry.flatMap Tree.records).Sublist root.records := by
  obtain ⟨hread, hk⟩ := readIn_of_mem_candidateCalls hroot hcall
  have hcallee := readIn_callee hread hk
  obtain ⟨hbody, hsub⟩ := childReadIn_of_plainBody? hcallee (exists_of_runtimeOf? hr).1
  have hrest {s : Tree} (hs : s ∈ runtime.rest) := hbody s (List.mem_filter.mp hs).1
  constructor
  · intro s hs
    obtain ⟨statement, hstatement, hs⟩ := List.mem_flatMap.mp hs
    obtain ⟨hchild, hw, hi⟩ := hrest hstatement
    obtain ⟨hchild, -, hi⟩ := (childReadIn_of_mem_standsFor hchild hw hi).1 s hs
    exact ⟨hchild, hi⟩
  · have hstands : (runtime.entry.flatMap Tree.records).Sublist (runtime.rest.flatMap Tree.records) := by
      rw [Runtime.entry, List.flatMap_assoc]
      refine List.Sublist.flatMap_right _ fun s hs => ?_
      obtain ⟨hchild, hw, hi⟩ := hrest hs
      exact (childReadIn_of_mem_standsFor hchild hw hi).2
    have hfilter := (List.filter_sublist (p := fun s => !isRuntimeStatement runtime s)
      (l := runtime.body)).flatMap Tree.records
    exact hstands.trans (hfilter.trans (hsub.trans hcallee.within.records))

/-- A program that consists of the statements of the entry. -/
def Runtime.entryTree (runtime : Runtime) (next : Nat) : Tree := .standalone next runtime.entry

theorem keeps_iff (hi : ∀ s ∈ runtime.entry, s.Is isStatementKind) {next l : Nat} :
    l ∈ (runtime.entryTree next).excerpt.kept ↔ runtime.Keeps l := by
  rw [mem_kept, Runtime.Keeps]
  simp only [Runtime.entryTree, Tree.mem_children_standalone hi]

variable {source : String} {p : Program} (hread : Program.read source = .ok p)
  (hcall : call ∈ candidateCalls (p.tree.get "body").items) (hr : runtimeOf? call = some runtime)

include hread hcall hr

theorem settled_entry : (Tree.list runtime.entry).Settled p.next := by
  obtain ⟨-, hsub⟩ := childReadIn_of_mem_entry (Program.is_of_read hread) hcall hr
  have hlabels : (Tree.list runtime.entry).labels.Sublist p.tree.labels := by
    rw [Tree.labels_eq_map_records, Tree.labels_eq_map_records, Tree.records, Tree.recordsItems_eq]
    exact hsub.map _
  refine ⟨(Program.nodup_labels_of_read hread).sublist hlabels, fun l hl => ?_⟩
  have hcount := (Program.count_labels_of_read hread l).2.1
  exact hcount (List.count_pos_iff.mpr (hlabels.subset hl))

/-- **The entry is made of statements of the program.** -/
theorem excerpts_entry : Excerpts p.tree (runtime.entryTree p.next) := by
  obtain ⟨hall, -⟩ := childReadIn_of_mem_entry (Program.is_of_read hread) hcall hr
  have hi : ∀ s ∈ runtime.entry, s.Is isStatementKind := fun s hs => (hall s hs).2
  have his : (runtime.entryTree p.next).Is (· == "Program") := Tree.is_standalone hi
  refine ⟨Program.labelled_of_read hread, his, ?_, fun s hs => ?_⟩
  · exact (Tree.nodup_standalone (settled_entry hread hcall hr)).sublist (Tree.labels_subtree his.2.isObj)
  · exact (hall s ((Tree.mem_children_standalone hi).mp hs)).1

end Entry

/-! ### The entry as a module -/

/-- **The program that the entry is printed from**: the require function, where it is not declared, is
called by one name that is free. -/
def Runtime.entryProgram (runtime : Runtime) (next : Nat) (view : ScopeTree) : Tree :=
  let tree := runtime.entryTree next
  let name := view.generateName "require" 0
  if runtime.require == "require" then tree
  else tree.respell (Tree.renamed (view.renameGlobal runtime.require name).2 name)

/-- The module of the entry that is printed from a program. -/
def entryModule (source : String) (program : Tree) : Except Failure Module := do
  return ⟨.name "entry", ← program.print (some source), true, none⟩

section Inlined

variable {source : String} {p : Program} {call : Tree} {runtime : Runtime}
  (hread : Program.read source = .ok p) (hcall : call ∈ candidateCalls (p.tree.get "body").items)
  (hr : runtimeOf? call = some runtime)

include hread hcall hr

/-- The notes of the entry, and that it can be read as a program. -/
theorem exists_tells_entry : ∃ notes,
    ScopeTree.build (runtime.entryTree p.next) = .ok (.ofNotes (runtime.entryTree p.next).label notes) ∧
      ScopeTree.Tells (runtime.entryTree p.next) notes := by
  have hexcerpts := excerpts_entry hread hcall hr
  obtain ⟨notes, hwalk, ht⟩ := ScopeTree.exists_tells hexcerpts.is hexcerpts.own
  exact ⟨notes, by rw [ScopeTree.build, hwalk]; rfl, ht⟩

/-- **What the entry is printed from.** -/
theorem inlineEntry_eq {view : ScopeTree} (hv : ScopeTree.build (runtime.entryTree p.next) = .ok view) :
    inlineEntry ⟨source, p.next⟩ runtime.rest runtime.require =
      entryModule source (runtime.entryProgram p.next view) := by
  have hdocument := Tree.ofTree_program (settled_entry hread hcall hr)
  have hflat : (runtime.rest.flatMap fun statement => (calledBody? statement).getD [statement]) =
      runtime.entry := rfl
  rw [inlineEntry, hflat, hdocument, Runtime.entryProgram]
  by_cases hname : (runtime.require == "require") = true
  · rw [if_pos hname]
    simp only [hname, if_true]
    rfl
  · rw [if_neg hname]
    simp only [hname]
    rw [show ScopeTree.build (Tree.standalone p.next runtime.entry) = .ok view from hv]
    obtain ⟨notes, hbuild, ht⟩ := exists_tells_entry hread hcall hr
    obtain rfl := Except.ok.inj (hv.symm.trans hbuild)
    have hexcerpts := excerpts_entry hread hcall hr
    let view := ScopeTree.ofNotes (runtime.entryTree p.next).label notes
    let name := view.generateName "require" 0
    have hused : UsedOnly _ (view.renameGlobal runtime.require name).2 := ht.usedOnly_renameGlobal
      hexcerpts.is (Tree.nodup_standalone (settled_entry hread hcall hr)) runtime.require name
    have hroot := @Document.root_rename ⟨runtime.entryTree p.next, [], p.next + 1⟩
      (view.renameGlobal runtime.require name).2 (fun r => hused.exists_name) name
    show ((Document.rename _ _ _).root.print (some source) >>= fun code => _) = _
    exact congrArg (entryModule source) hroot

/-- The scopes of what the entry is printed from give each name the declarations that it has before the
require function is renamed. -/
theorem exists_build_entryProgram {notes : List ScopeTree.Note}
    (ht : ScopeTree.Tells (runtime.entryTree p.next) notes)
    (hv : ScopeTree.build (runtime.entryTree p.next) = .ok (.ofNotes (runtime.entryTree p.next).label notes)) :
    let view := ScopeTree.ofNotes (runtime.entryTree p.next).label notes
    ∃ inlined, ScopeTree.build (runtime.entryProgram p.next view) = .ok inlined ∧
      ∀ {u x writes around}, Happens (runtime.entryTree p.next) (.use u x writes around) →
        ∀ d, d ∈ inlined.declarersOf u ↔ d ∈ view.declarersOf u := by
  intro view
  rw [Runtime.entryProgram]
  split
  · exact ⟨view, hv, fun _ _ => .rfl⟩
  · exact ht.exists_renameGlobal (excerpts_entry hread hcall hr).is
      (Tree.nodup_standalone (settled_entry hread hcall hr)) runtime.require "require"

end Inlined

/-! ### What names mean in the entry -/

/-- A declaration that the scope of the entry receives: one of the entry, in a scope that is not one of
the entry. -/
def Runtime.Pours (runtime : Runtime) (program : Tree) (x : String) (d : Nat) : Prop :=
  runtime.Keeps d ∧ ∃ f initializes, ¬runtime.Keeps f.node ∧ Happens program (.declares d x f initializes)

/-- **What becomes of a use of a name in the entry**, by the declarations that it has in the bundle and in
the program that the entry is printed from. -/
structure Runtime.Carries (runtime : Runtime) (program : Tree) (view entryView inlined : ScopeTree)
    (u : Nat) (x : String) (frames : List Frame) : Prop where
  /-- What belongs to a scope of the entry has the declarations that it had. -/
  own : ∀ {f}, Resolves program x frames (some f) → runtime.Keeps f.node →
    ∀ d, d ∈ inlined.declarersOf u ↔ d ∈ view.declarersOf u
  /-- What does not has all declarations of its name that the scope of the entry receives. -/
  shared : (∀ f, Resolves program x frames (some f) → ¬runtime.Keeps f.node) →
    ∀ d, d ∈ inlined.declarersOf u ↔ runtime.Pours program x d
  /-- They are those that it had if and only if none of these has been taken away, and no others are
  received. -/
  same : (∀ f, Resolves program x frames (some f) → ¬runtime.Keeps f.node) →
    ((∀ d, d ∈ inlined.declarersOf u ↔ d ∈ view.declarersOf u) ↔
      (∀ d ∈ view.declarersOf u, runtime.Keeps d) ∧
        ∀ d, runtime.Pours program x d → d ∈ view.declarersOf u)
  /-- It gets the new name if it is called like the require function and has no declarations. -/
  renamed : u ∈ (entryView.renameGlobal runtime.require (entryView.generateName "require" 0)).2 ↔
    x = runtime.require ∧ ∀ d, d ∉ inlined.declarersOf u

section Names

variable {source : String} {p : Program} {call : Tree} {runtime : Runtime}
  (hread : Program.read source = .ok p) (hcall : call ∈ candidateCalls (p.tree.get "body").items)
  (hr : runtimeOf? call = some runtime)

include hread hcall hr

/-- **The names of the entry.** -/
theorem carries_entry {view inlined : ScopeTree} {notes : List ScopeTree.Note}
    (hv : ScopeTree.build p.tree = .ok view) (ht : ScopeTree.Tells (runtime.entryTree p.next) notes)
    (hinlined : ∀ {u x writes around}, Happens (runtime.entryTree p.next) (.use u x writes around) → ∀ d,
      d ∈ inlined.declarersOf u ↔ d ∈ (ScopeTree.ofNotes (runtime.entryTree p.next).label notes).declarersOf u)
    {u : Nat} {x : String} {writes : Bool} {frames : List Frame} (hk : runtime.Keeps u)
    (hu : Happens p.tree (.use u x writes frames)) :
    runtime.Carries p.tree view (.ofNotes (runtime.entryTree p.next).label notes) inlined u x frames := by
  have hexcerpts := excerpts_entry hread hcall hr
  have hi : ∀ s ∈ runtime.entry, s.Is isStatementKind := fun s hs =>
    ((childReadIn_of_mem_entry (Program.is_of_read hread) hcall hr).1 s hs).2
  let taken := (runtime.entryTree p.next).excerpt
  have hkept {l : Nat} : l ∈ taken.kept ↔ runtime.Keeps l := keeps_iff hi
  have hhas {f : Frame} : taken.has f = true ↔ runtime.Keeps f.node := by
    rw [Excerpt.has, decide_eq_true_iff, hkept]
  have hhasNot {f : Frame} : taken.has f = false ↔ ¬runtime.Keeps f.node := by
    rw [← hhas, Bool.not_eq_true]
  have hcuts : taken.Cuts frames := hexcerpts.cuts_of_use (hkept.mpr hk) hu
  have hentry : Happens (runtime.entryTree p.next) (.use u x writes (taken.around frames)) :=
    hexcerpts.happens_use_iff.mpr ⟨hkept.mpr hk, frames, hu, rfl⟩
  -- both views tell which names are declared where the name belongs to
  obtain ⟨notes', -, ht', rfl⟩ := ScopeTree.exists_notes hread hv
  have hbefore (d : Nat) := ht'.mem_declarersOf hu d
  have hafter (d : Nat) := (hinlined hentry d).trans (ht.mem_declarersOf hentry d)
  have hshared (hout : ∀ f, Resolves p.tree x frames (some f) → ¬runtime.Keeps f.node) (d : Nat) :
      d ∈ inlined.declarersOf u ↔ runtime.Pours p.tree x d := by
    rw [hafter, hexcerpts.declaredBy_iff_of_not hcuts (fun f hf => hhasNot.mpr (hout f hf)), hkept]
    exact and_congr_right fun _ => exists₂_congr fun f _ => and_congr_left fun _ => hhasNot
  refine ⟨fun {f} hf hkeeps d => ?_, hshared, fun hout => ?_, ?_⟩
  · rw [hafter, hexcerpts.declaredBy_iff_of_has hcuts (hhas.mpr hkeeps) hf, hbefore]
  · constructor
    · intro hsame
      refine ⟨fun d hd => ?_, fun d hd => ?_⟩
      · exact ((hshared hout d).mp ((hsame d).mpr hd)).1
      · exact (hsame d).mp ((hshared hout d).mpr hd)
    · rintro ⟨hkeeps, hno⟩ d
      rw [hshared hout]
      refine ⟨hno d, fun hd => ⟨hkeeps d hd, ?_⟩⟩
      obtain ⟨f, initializes, hf, hdeclares⟩ := (hbefore d).mp hd
      exact ⟨f, initializes, hout f hf, hdeclares⟩
  · -- what is renamed belongs to no scope of the entry, and so has no declarations
    rw [ht.mem_renameGlobal]
    constructor
    · rintro ⟨writes', around, he, hnone⟩
      cases eq_use_of_happens hexcerpts.own hentry he rfl
      exact ⟨rfl, fun d hd => resolves_none_iff.mp hnone d ((hafter d).mp hd)⟩
    · rintro ⟨rfl, hno⟩
      exact ⟨writes, _, hentry, resolves_none_iff.mpr fun d hd => hno d ((hafter d).mpr hd)⟩

end Names

/-! ### Bundles with an entry of their own -/

/-- The bundle of a runtime whose entry is a module of its own has that as its last module. -/
theorem exists_inlineEntry_of_readRuntime? {origin : Origin} {call : Tree} {b : Bundle}
    (h : readRuntime? origin call = .ok (some b)) : ∃ runtime, runtimeOf? call = some runtime ∧
      (runtime.inlines = true → ∃ entry m, inlineEntry origin runtime.rest runtime.require = .ok entry ∧
        b.modules.getLast? = some m ∧ m.id = entry.id ∧ m.code = entry.code) := by
  rw [readRuntime?] at h
  split at h
  · cases h
  rename_i runtime hr
  refine ⟨runtime, hr, fun hinlines => ?_⟩
  obtain ⟨r, -, h⟩ := bind_eq_ok.mp h
  simp only [Runtime.inlines, Bool.not_eq_true'] at hinlines
  have hrest : runtime.body.filter (!isRuntimeStatement runtime ·) = runtime.rest := rfl
  simp only [hrest, hinlines] at h
  obtain ⟨entry, hentry, h⟩ := bind_eq_ok.mp h
  cases h
  -- the bundle notes of each module whether it is an entry, and its path
  let noted : Module := { entry with
    isEntry := [ModuleId.name "entry"].contains entry.id, path := r.paths.lookup entry.id }
  refine ⟨entry, noted, hentry, ?_, rfl, rfl⟩
  rw [Registry.bundle, List.map_append, List.map_singleton, List.getLast?_concat]

/-- **What the names of an inlined entry mean.** A bundle that is read as one with a runtime is read off one of
the calls of the program. If the entry of that runtime is a module of its own, it is the last module, and it is
printed from the statements that are left of the runtime. Every name that is used in them is carried over as
`Deminify.Bundle.Runtime.Carries` says. -/
theorem names_of_inlined_entry {source : String} {b : Bundle} (h : unpack source = .ok b)
    (hb : b.bundler = "webpack5") :
    ∃ p call runtime, Program.read source = .ok p ∧ call ∈ candidateCalls (p.tree.get "body").items ∧
      runtimeOf? call = some runtime ∧ (runtime.inlines = true → ∃ m view entryView inlined,
        b.modules.getLast? = some m ∧ m.id = .name "entry" ∧
        (runtime.entryProgram p.next entryView).print (some source) = .ok m.code ∧
        ScopeTree.build p.tree = .ok view ∧ ScopeTree.build (runtime.entryTree p.next) = .ok entryView ∧
        ScopeTree.build (runtime.entryProgram p.next entryView) = .ok inlined ∧
        ∀ {u x writes frames}, runtime.Keeps u → Happens p.tree (.use u x writes frames) →
          runtime.Carries p.tree view entryView inlined u x frames) := by
  obtain ⟨p, hread, call, hcall, hread5⟩ := exists_of_unpack h
  have hruntime : readRuntime? ⟨source, p.next⟩ call = .ok (some b) := by
    rcases readCall?_cases hread5 with h | h | h
    · rw [bundler_of_readDefinitions? h] at hb
      exact absurd hb (by decide)
    · rw [bundler_of_readBootstrap? h] at hb
      exact absurd hb (by decide)
    · exact h
  obtain ⟨runtime, hr, hinlines⟩ := exists_inlineEntry_of_readRuntime? hruntime
  refine ⟨p, call, runtime, hread, hcall, hr, fun hi => ?_⟩
  obtain ⟨entry, m, hentry, hlast, hid, hcode⟩ := hinlines hi
  obtain ⟨notes, hbuild, ht⟩ := exists_tells_entry hread hcall hr
  obtain ⟨inlined, hinlined, hsame⟩ := exists_build_entryProgram hread hcall hr ht hbuild
  obtain ⟨notes', hwalk, -⟩ := ScopeTree.exists_tells (Program.is_of_read hread) (Program.labelled_of_read hread)
  have hview : ScopeTree.build p.tree = .ok (.ofNotes p.tree.label notes') := by
    rw [ScopeTree.build, hwalk]
    rfl
  rw [inlineEntry_eq hread hcall hr hbuild] at hentry
  obtain ⟨code, hprint, he⟩ := bind_eq_ok.mp hentry
  cases he
  refine ⟨m, _, _, inlined, hlast, hid, hcode ▸ hprint, hview, hbuild, hinlined, fun hk hu => ?_⟩
  exact carries_entry hread hcall hr hview ht hsame hk hu

/-- A runtime whose entry uses what it declares and requires a module. -/
def requiringRuntime : String :=
  "(() => \x7b var m = \x7b1: (a) => \x7b\x7d\x7d; function r(i) \x7b return m[i](); \x7d " ++
    "const s = 5; f(s, r(1)); \x7d)()"

theorem names_of_inlined_entry_requiring : ∃ b p call runtime m view entryView inlined,
    unpack requiringRuntime = .ok b ∧ b.bundler = "webpack5" ∧ Program.read requiringRuntime = .ok p ∧
      runtimeOf? call = some runtime ∧ b.modules.getLast? = some m ∧
      m.code = "const s = 5;\nf(s, require(1));\n" ∧ ScopeTree.build p.tree = .ok view ∧
      ScopeTree.build (runtime.entryProgram p.next entryView) = .ok inlined ∧
      ∀ {u x writes frames}, runtime.Keeps u → Happens p.tree (.use u x writes frames) →
        runtime.Carries p.tree view entryView inlined u x frames := by
  -- One check, so that the program is read once.
  have hcheck : ((unpack requiringRuntime).toOption.any (fun b => b.bundler == "webpack5" &&
        b.modules.getLast?.all fun m => m.code == "const s = 5;\nf(s, require(1));\n") &&
      (Program.read requiringRuntime).toOption.all fun p =>
        (candidateCalls (p.tree.get "body").items).all fun call =>
          (runtimeOf? call).all Runtime.inlines) = true := by decide +kernel
  obtain ⟨hunpacked, hinlines⟩ := Bool.and_eq_true_iff.mp hcheck
  obtain ⟨b, hb, hcheck⟩ := exists_of_unpacked hunpacked
  simp only [Bool.and_eq_true, beq_iff_eq] at hcheck
  obtain ⟨hbundler, hcode⟩ := hcheck
  obtain ⟨p, call, runtime, hp, hcall, hr, hinlined⟩ := names_of_inlined_entry hb hbundler
  rw [hp] at hinlines
  have hi : runtime.inlines = true := by
    have hall := List.all_eq_true.mp hinlines call hcall
    rwa [hr] at hall
  obtain ⟨m, view, entryView, inlined, hlast, -, -, hview, -, hbuild, hnames⟩ := hinlined hi
  rw [hlast] at hcode
  exact ⟨b, p, call, runtime, m, view, entryView, inlined, hb, hbundler, hp, hr, hlast,
    beq_iff_eq.mp hcode, hview, hbuild, hnames⟩

/-- A runtime that declares a name along with its cache. -/
def sharingRuntime : String :=
  "(() => \x7b var modules = \x7b1: (m) => \x7b\x7d\x7d; var cache = \x7b\x7d, shared = 5; " ++
    "function req(id) \x7b return modules[id](cache); \x7d console.log(shared); \x7d)()"

/-- **A name that is not declared any more.** The statement that declares it declares the cache as well, and
so belongs to the runtime. -/
theorem not_declared_in_entry : ∃ b p call runtime view entryView inlined n,
    unpack sharingRuntime = .ok b ∧ b.bundler = "webpack5" ∧ Program.read sharingRuntime = .ok p ∧
      call ∈ candidateCalls (p.tree.get "body").items ∧ runtimeOf? call = some runtime ∧
      runtime.inlines = true ∧ ScopeTree.build p.tree = .ok view ∧
      ScopeTree.build (runtime.entryTree p.next) = .ok entryView ∧
      ScopeTree.build (runtime.entryProgram p.next entryView) = .ok inlined ∧
      n ∈ (runtime.entryProgram p.next entryView).subtree ∧ isName n "shared" = true ∧
      ((view.bindingOf? n.label).bind fun binding => view.scopes[binding.scope]?).map (·.node) =
        some (call.get "callee").label ∧
      inlined.declarersOf n.label = [] := by
  have hcheck : ((unpack sharingRuntime).toOption.any (fun b => b.bundler == "webpack5") &&
      (Program.read sharingRuntime).toOption.any fun p =>
      (candidateCalls (p.tree.get "body").items).any fun call => (runtimeOf? call).any fun runtime =>
        runtime.inlines && (ScopeTree.build p.tree).toOption.any fun view =>
          (ScopeTree.build (runtime.entryTree p.next)).toOption.any fun entryView =>
            (ScopeTree.build (runtime.entryProgram p.next entryView)).toOption.any fun inlined =>
              (runtime.entryProgram p.next entryView).subtree.any fun n => isName n "shared" &&
                (((view.bindingOf? n.label).bind fun binding => view.scopes[binding.scope]?).map (·.node) ==
                  some (call.get "callee").label && inlined.declarersOf n.label == [])) = true := by
    decide +kernel
  obtain ⟨hunpacked, hcheck⟩ := Bool.and_eq_true_iff.mp hcheck
  obtain ⟨b, hb, hbundler⟩ := exists_of_unpacked hunpacked
  simp only [Option.any_eq_true, List.any_eq_true, Bool.and_eq_true, beq_iff_eq] at hcheck
  obtain ⟨p, hp, call, hcall, runtime, hr, hi, view, hview, entryView, hentry, inlined, hinlined, n, hn, hname,
    hscope, hnone⟩ := hcheck
  exact ⟨b, p, call, runtime, view, entryView, inlined, n, hb, beq_iff_eq.mp hbundler, eq_ok_of_toOption hp, hcall,
    hr, hi, eq_ok_of_toOption hview, eq_ok_of_toOption hentry, eq_ok_of_toOption hinlined, hn, hname, hscope, hnone⟩

end Bundle

end Deminify
