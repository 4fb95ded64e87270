import Deminify.Bundle.Unpack
import Deminify.Proofs.Tree.Respell

/-!
# The calls that may be bundles

What is recognized as a bundle is a call of the program, and what is read of it is a part of the program
(`Deminify.Tree.Within`): well formed, and with no records but those of the program. That carries over
from a node to what its fields hold, and so from the program to the calls among its statements
(`Deminify.Bundle.within_of_mem_candidateCalls`), and from a call to its registry
(`Deminify.Bundle.within_of_runtimeOf?`).
-/

namespace Deminify

namespace Tree

/-! ### Parts of a tree -/

/-- **A well-formed part of a tree.** -/
structure Within (root t : Tree) : Prop where
  wellFormed : t.WellFormed
  records : t.records.Sublist root.records

namespace Within

variable {root t c : Tree} {kind key : String} {kinds : String → Bool} (h : Within root t)

include h

theorem kind_eq (hk : t.isKind kind = true) : t.kind = kind := h.wellFormed.isKind_iff.mp hk

theorem node (hk : t.kind = kind) (hs : fieldSort kind key = some (.node kinds)) :
    Within root (t.get key) := by
  subst hk
  exact ⟨(h.wellFormed.held hs).2, (sublist_records_get t key).trans h.records⟩

/-- A list that a field holds keeps its items apart. -/
theorem sublist_items (key : String) : ((t.get key).items.flatMap Tree.records).Sublist root.records :=
  ((sublist_records_items _).trans (sublist_records_get t key)).trans h.records

theorem is_item (hk : t.kind = kind) (hs : fieldSort kind key = some (.nodes kinds))
    (hc : c ∈ (t.get key).items) : c.Is kinds := by
  subst hk
  obtain ⟨items, hitems, hall⟩ := h.wellFormed.held hs
  rw [hitems] at hc
  exact hall c hc

theorem item (hk : t.kind = kind) (hs : fieldSort kind key = some (.nodes kinds))
    (hc : c ∈ (t.get key).items) : Within root c :=
  ⟨(h.is_item hk hs hc).2, (sublist_records_item hc).trans ((sublist_records_get t key).trans h.records)⟩

end Within

end Tree

namespace Bundle

/-! ### The calls of a program -/

section Calls

variable {root call : Tree}

/-- **What holds of the calls that may be a bundle**: all that holds of the expressions of the program's
statements and is passed on by whatever is looked through. -/
theorem candidateCalls_induct {P : Tree → Prop}
    (unary : ∀ {t}, P t → t.isKind "UnaryExpression" = true → P (t.get "argument"))
    (assignment : ∀ {t}, P t → t.isKind "AssignmentExpression" = true → P (t.get "right"))
    (sequence : ∀ {t}, P t → t.isKind "SequenceExpression" = true → ∀ e ∈ (t.get "expressions").items, P e)
    {body : List Tree}
    (statement : ∀ s ∈ body, s.isKind "ExpressionStatement" = true → P (s.get "expression"))
    (h : call ∈ candidateCalls body) : P call ∧ call.isKind "CallExpression" = true := by
  have among {fuel : Nat} {pending : List Tree} (hp : ∀ t ∈ pending, P t)
      (hcall : call ∈ callsAmong fuel pending) : P call ∧ call.isKind "CallExpression" = true := by
    induction fuel generalizing pending with
    | zero => simp [callsAmong] at hcall
    | succ fuel ih =>
      cases pending with
      | nil => simp [callsAmong] at hcall
      | cons t rest =>
        have ht := hp t List.mem_cons_self
        have hrest : ∀ t ∈ rest, P t := fun t hm => hp t (List.mem_cons_of_mem _ hm)
        have hmore {more : List Tree} (hm : ∀ t ∈ more, P t) : ∀ t ∈ rest ++ more, P t :=
          List.forall_mem_append.mpr ⟨hrest, hm⟩
        rw [callsAmong] at hcall
        split at hcall
        · rename_i hk
          split at hcall
          · exact ih (hmore (List.forall_mem_singleton.mpr (unary ht hk))) hcall
          · exact ih hrest hcall
        split at hcall
        · rename_i hk
          exact ih (hmore (List.forall_mem_singleton.mpr (assignment ht hk))) hcall
        split at hcall
        · rename_i hk
          exact ih (hmore (sequence ht hk)) hcall
        split at hcall
        · rename_i hk
          rcases List.mem_cons.mp hcall with rfl | hcall
          · exact ⟨ht, hk⟩
          · exact ih hrest hcall
        · exact ih hrest hcall
  obtain ⟨s, hs, h⟩ := List.mem_flatMap.mp h
  split at h
  · rename_i hk
    exact among (List.forall_mem_singleton.mpr (statement s hs hk)) h
  · cases h

/-- The calls that may be a bundle are parts of the program. -/
theorem within_of_mem_candidateCalls (hroot : root.Is (· == "Program"))
    (h : call ∈ candidateCalls (root.get "body").items) :
    Tree.Within root call ∧ call.kind = "CallExpression" := by
  have hself : Tree.Within root root := ⟨hroot.2, .refl _⟩
  obtain ⟨hcall, hk⟩ := candidateCalls_induct (P := Tree.Within root)
    (fun ht hk => ht.node (ht.kind_eq hk) rfl) (fun ht hk => ht.node (ht.kind_eq hk) rfl)
    (fun ht hk e he => ht.item (ht.kind_eq hk) rfl he)
    (fun s hs hk => by
      have hstatement := hself.item (beq_iff_eq.mp hroot.kinds) rfl hs
      exact hstatement.node (hstatement.kind_eq hk) rfl) h
  exact ⟨hcall, hcall.kind_eq hk⟩

end Calls

/-! ### What is recognized -/

section Recognized

variable {root call : Tree}

theorem eq_of_definitionOf? {property : Tree} {d : Definition} (h : definitionOf? property = some d) :
    property.isKind "Property" = true ∧ (property.get "value").isKind "ArrayExpression" = true ∧
      ∃ dependencies, ((property.get "value").get "elements").items = [d.factory, dependencies] ∧
        isFunction d.factory = true := by
  obtain ⟨hkinds, h⟩ := guard_bind_eq_some.mp h
  obtain ⟨hproperty, harray⟩ := Bool.and_eq_true_iff.mp hkinds
  split at h
  · rename_i factory dependencies helements
    obtain ⟨hfactory, h⟩ := guard_bind_eq_some.mp h
    obtain ⟨id, -, h⟩ := Option.bind_eq_some_iff.mp h
    cases h
    exact ⟨hproperty, harray, dependencies, helements, (Bool.and_eq_true_iff.mp hfactory).1⟩
  · cases h

theorem exists_of_definitionsOf? {found : List Definition} {entries : List Tree}
    (h : definitionsOf? call = some (found, entries)) : ∃ modules cache list,
      (call.get "arguments").items = [modules, cache, list] ∧ modules.isKind "ObjectExpression" = true ∧
        (modules.get "properties").items.mapM definitionOf? = some found := by
  rw [definitionsOf?] at h
  split at h
  · rename_i modules cache list harguments
    obtain ⟨hkinds, h⟩ := guard_bind_eq_some.mp h
    obtain ⟨-, h⟩ := guard_bind_eq_some.mp h
    obtain ⟨definitions, hdefinitions, h⟩ := Option.bind_eq_some_iff.mp h
    obtain ⟨-, h⟩ := guard_bind_eq_some.mp h
    cases h
    simp only [Bool.and_eq_true] at hkinds
    exact ⟨modules, cache, list, harguments, hkinds.1.1, hdefinitions⟩
  · cases h

theorem isKind_of_bootstrapOf? {found : Tree × String} {registry : Tree} {rest : List Tree}
    (h : bootstrapOf? call = some found) (harguments : (call.get "arguments").items = registry :: rest) :
    registry.isKind "ArrayExpression" = true ∨ registry.isKind "ObjectExpression" = true := by
  obtain ⟨-, h⟩ := guard_bind_eq_some.mp h
  rw [harguments] at h
  split at h
  · rename_i hregistry
    cases hregistry
    obtain ⟨hkinds, -⟩ := guard_bind_eq_some.mp h
    exact Bool.or_eq_true_iff.mp hkinds
  · cases h

theorem exists_of_runtimeOf? {runtime : Runtime} (h : runtimeOf? call = some runtime) :
    plainBody? (call.get "callee") = some runtime.body ∧ ∃ statement,
      requiresFrom? (registriesOf runtime.body) statement = some runtime.registry := by
  obtain ⟨-, h⟩ := guard_bind_eq_some.mp h
  obtain ⟨body, hbody, h⟩ := Option.bind_eq_some_iff.mp h
  obtain ⟨statement, -, h⟩ := List.exists_of_findSome?_eq_some h
  obtain ⟨registry, hregistry, rfl⟩ := Option.map_eq_some_iff.mp h
  exact ⟨hbody, statement, hregistry⟩

theorem eq_of_plainBody? {callee : Tree} {body : List Tree} (h : plainBody? callee = some body) :
    (callee.isKind "ArrowFunctionExpression" = true ∨ callee.isKind "FunctionExpression" = true) ∧
      (callee.get "body").isKind "BlockStatement" = true ∧
        body = ((callee.get "body").get "body").items := by
  obtain ⟨hkind, h⟩ := guard_bind_eq_some.mp h
  obtain ⟨-, h⟩ := guard_bind_eq_some.mp h
  obtain ⟨hblock, h⟩ := guard_bind_eq_some.mp h
  cases h
  exact ⟨Bool.or_eq_true_iff.mp hkind, hblock, rfl⟩

theorem exists_of_requiresFrom? {registries : List (String × Tree)} {statement registry : Tree}
    (h : requiresFrom? registries statement = some registry) :
    ∃ name, (name, registry) ∈ registries := by
  obtain ⟨-, h⟩ := guard_bind_eq_some.mp h
  split at h
  · obtain ⟨-, h⟩ := guard_bind_eq_some.mp h
    obtain ⟨name, -, h⟩ := Option.bind_eq_some_iff.mp h
    obtain ⟨⟨name, declarator⟩, hfound, h⟩ := Option.bind_eq_some_iff.mp h
    cases h
    exact ⟨name, List.mem_of_find?_eq_some hfound⟩
  · cases h

theorem exists_of_mem_registriesOf {body : List Tree} {entry : String × Tree}
    (h : entry ∈ registriesOf body) : ∃ statement ∈ body,
      statement.isKind "VariableDeclaration" = true ∧ entry.2 ∈ (statement.get "declarations").items ∧
        (entry.2.get "init").isKind "ObjectExpression" = true := by
  have hfold {declarators : List Tree} {table : List (String × Tree)}
      (h : entry ∈ declarators.foldl (fun table declarator =>
        putKey table (((declarator.get "id").get "name").str?.getD "") declarator) table) :
      entry ∈ table ∨ entry.2 ∈ declarators := by
    induction declarators generalizing table with
    | nil => exact .inl h
    | cons declarator rest ih =>
      rcases ih h with h | h
      · exact (mem_of_mem_putKey h).imp_right fun he => by rw [he]; exact List.mem_cons_self
      · exact .inr (List.mem_cons_of_mem _ h)
  rcases hfold h with h | h
  · cases h
  obtain ⟨hmem, hregistry⟩ := List.mem_filter.mp h
  obtain ⟨statement, hstatement, hdeclarator⟩ := List.mem_flatMap.mp hmem
  obtain ⟨hbody, hkind⟩ := List.mem_filter.mp hstatement
  simp only [isRegistry, Bool.and_eq_true] at hregistry
  exact ⟨statement, hbody, hkind, hdeclarator, hregistry.1.1.2⟩

/-- The registry of a runtime is an object in it. -/
theorem within_of_runtimeOf? {runtime : Runtime} (hcall : Tree.Within root call)
    (hk : call.kind = "CallExpression") (h : runtimeOf? call = some runtime) :
    Tree.Within root (runtime.registry.get "init") ∧
      (runtime.registry.get "init").kind = "ObjectExpression" := by
  obtain ⟨hbody, requiring, hrequires⟩ := exists_of_runtimeOf? h
  obtain ⟨hfunction, hblock, hitems⟩ := eq_of_plainBody? hbody
  rw [hitems] at hrequires
  obtain ⟨name, hregistry⟩ := exists_of_requiresFrom? hrequires
  obtain ⟨statement, hstatement, hdeclaration, hdeclarator, hobject⟩ :=
    exists_of_mem_registriesOf hregistry
  have hcallee := @Tree.Within.node _ _ _ "callee" _ hcall hk rfl
  have hbody : Tree.Within root ((call.get "callee").get "body") := by
    rcases hfunction with hfunction | hfunction <;> exact hcallee.node (hcallee.kind_eq hfunction) rfl
  have hs := hbody.item (hbody.kind_eq hblock) rfl hstatement
  have hkind := hs.kind_eq hdeclaration
  have hd := hs.item hkind rfl hdeclarator
  have hvariable : runtime.registry.Is (· == "VariableDeclarator") := hs.is_item hkind rfl hdeclarator
  have init : Tree.fieldSort runtime.registry.kind "init" = some (.optional isExpressionKind) := by
    rw [beq_iff_eq.mp hvariable.kinds]; rfl
  rcases hd.wellFormed.held init with hnull | hinit
  · rw [hnull] at hobject
    simp [Tree.isKind, Tree.isObj] at hobject
  · exact ⟨⟨hinit.2, (Tree.sublist_records_get _ _).trans hd.records⟩, hinit.2.isKind_iff.mp hobject⟩

end Recognized

end Bundle

end Deminify
