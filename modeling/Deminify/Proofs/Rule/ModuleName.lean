import Deminify.Command.Unpack
import Deminify.Proofs.Bundle.Named
import Deminify.Proofs.Interface.Rules
import Deminify.Proofs.Printer.Yield
import Deminify.Proofs.Rule.Ending
import Deminify.Proofs.Tree.Mapped

/-!
# Modules named twice

A rule puts the file name of a module in the place of its id wherever the module is required. File names are
texts, as some ids are, so that a name could be taken for an id when the rule is applied again.
**With the names of a webpack bundle that changes nothing** (`Deminify.Rules.ModuleName.run_twice`).

A table is *settled* if no file name in it is given another file name (`Deminify.Rules.ModuleName.Settled`), as
that of a webpack bundle is. With a settled table every call is done once it has been changed
(`Deminify.Rules.ModuleName.Done`), and a tree of which all calls are done stays as it is.
-/

namespace Deminify

namespace Rules.ModuleName

open Deminify.Bundle

variable {table : List (Tree × String)}

/-! ### Settled tables -/

/-- **A file name is given no other file name.** -/
def Settled (table : List (Tree × String)) : Prop :=
  ∀ key name other, target? table key = some name → target? table (.str name) = some other → other = name

/-- The key of a module in a table. -/
def keyOf (id : ModuleId) : Tree := Tree.ofJson (Command.idJson id)

theorem eq_of_sameScalar_keyOf {id other : ModuleId} (h : (keyOf id).sameScalar (keyOf other) = true) : id = other := by
  cases id <;> cases other <;> simp_all [keyOf, Command.idJson, Tree.ofJson, Tree.sameScalar, Tree.sameScalar.asNumber]

theorem eq_of_sameScalar_str {id : ModuleId} {s : String} (h : (keyOf id).sameScalar (.str s) = true) : id = .name s :=
  eq_of_sameScalar_keyOf h

theorem mem_of_target? {key : Tree} {name : String} (h : target? table key = some name) :
    ∃ entry ∈ table, entry.2 = name ∧ (entry.1.sameScalar key = true ∨ entry.1.sameScalar (.str key.display) = true) := by
  have hfound {key : Tree} (h : (table.find? fun entry => entry.1.sameScalar key).map (·.2) = some name) :
      ∃ entry ∈ table, entry.2 = name ∧ entry.1.sameScalar key = true := by
    obtain ⟨entry, hentry, rfl⟩ := Option.map_eq_some_iff.mp h
    have hkey := List.find?_some hentry
    exact ⟨entry, List.mem_of_find?_eq_some hentry, rfl, hkey⟩
  rcases Option.or_eq_some_iff.mp h with h | ⟨-, h⟩
  · obtain ⟨entry, hentry, rfl, hkey⟩ := hfound h
    exact ⟨entry, hentry, rfl, .inl hkey⟩
  · obtain ⟨entry, hentry, rfl, hkey⟩ := hfound h
    exact ⟨entry, hentry, rfl, .inr hkey⟩

/-- Whether a table has its entries from the names of modules. -/
def IsFrom (names : List (ModuleId × String)) {α : Type} (value : String → α) (table : List (Tree × α)) : Prop :=
  ∀ entry ∈ table, ∃ id name, (id, name) ∈ names ∧ entry = (keyOf id, value name)

theorem IsFrom.putScalar {names : List (ModuleId × String)} {α : Type} {value : String → α} {table : List (Tree × α)}
    (h : IsFrom names value table) {id : ModuleId} {name : String} (hmem : (id, name) ∈ names) :
    IsFrom names value (Params.putScalar table (keyOf id) (value name)) := by
  induction table with
  | nil =>
    intro entry hentry
    exact ⟨id, name, hmem, List.mem_singleton.mp hentry⟩
  | cons first rest ih =>
    obtain ⟨hfirst, hrest⟩ := List.forall_mem_cons.mp h
    obtain ⟨id', name', hmem', rfl⟩ := hfirst
    rw [Params.putScalar]
    split
    · rename_i hsame
      cases eq_of_sameScalar_keyOf hsame
      exact List.forall_mem_cons.mpr ⟨⟨_, name, hmem, rfl⟩, hrest⟩
    · exact List.forall_mem_cons.mpr ⟨⟨id', name', hmem', rfl⟩, ih hrest⟩

theorem exists_tableTexts {names : List (ModuleId × String)} {table : List (Tree × Json)}
    (h : IsFrom names Json.str table) :
    ∃ texts, Params.tableTexts table = .ok texts ∧ IsFrom names (fun name => name) texts := by
  induction table with
  | nil => exact ⟨[], rfl, nofun⟩
  | cons first rest ih =>
    obtain ⟨hfirst, hrest⟩ := List.forall_mem_cons.mp h
    obtain ⟨id, name, hmem, rfl⟩ := hfirst
    obtain ⟨texts, htexts, hfrom⟩ := ih hrest
    refine ⟨(keyOf id, name) :: texts, ?_, List.forall_mem_cons.mpr ⟨⟨id, name, hmem, rfl⟩, hfrom⟩⟩
    rw [Params.tableTexts, htexts]
    rfl

theorem isFrom_entries (names : List (ModuleId × String)) : IsFrom names Json.str
    ((names.map fun (id, name) => (Command.idJson id, Json.str name)).foldl
      (fun table (k, v) => Params.putScalar table (Tree.ofJson k) v) []) := by
  rw [List.foldl_map]
  have hfold (rest : List (ModuleId × String)) (hrest : rest ⊆ names) (table : List (Tree × Json))
      (h : IsFrom names Json.str table) : IsFrom names Json.str (rest.foldl (fun table entry =>
        Params.putScalar table (Tree.ofJson (Command.idJson entry.1)) (Json.str entry.2)) table) := by
    induction rest generalizing table with
    | nil => exact h
    | cons entry rest ih =>
      obtain ⟨hentry, hrest⟩ := List.cons_subset.mp hrest
      exact ih hrest _ (h.putScalar hentry)
  exact hfold names (List.Subset.refl _) [] fun _ h => absurd h List.not_mem_nil

/-- The options of a run with the names of a bundle. -/
theorem exists_options (config : Config) (b : Bundle) :
    ∃ options, Options.ofParams (Command.unpackParams config b) = .ok options ∧ IsFrom b.names (fun name => name) options.table := by
  obtain ⟨texts, htexts, hfrom⟩ := exists_tableTexts (isFrom_entries b.names)
  refine ⟨⟨texts⟩, ?_, hfrom⟩
  rw [Options.ofParams, Params.moduleTable]
  simp only [Command.unpackParams]
  rw [htexts]
  rfl

/-- **The table of a webpack bundle is settled.** -/
theorem settled_of_unpack {source : String} {b : Bundle} (h : unpack source = .ok b) (hb : b.bundler ≠ "browserify")
    (hfrom : IsFrom b.names (fun name => name) table) : Settled table := by
  intro key name other hname hother
  obtain ⟨entry, hentry, rfl, -⟩ := mem_of_target? hname
  obtain ⟨id, name, hmem, rfl⟩ := hfrom entry hentry
  obtain ⟨entry, hentry, rfl, hkey⟩ := mem_of_target? hother
  obtain ⟨id', other, hmem', rfl⟩ := hfrom entry hentry
  obtain rfl : id' = .name name := eq_of_sameScalar_str (hkey.elim (fun h => h) fun h => h)
  exact eq_of_mem_names h hb hmem hmem'

/-! ### Calls that are done -/

/-- Whether a callee is the name `require`. -/
def isRequire (callee : Tree) : Bool := callee.isIdentifier && (callee.get "name").str? == some "require"

/-- The literal that stands alone among arguments and can be the key of a module. -/
def soleKey? : List Tree → Option Tree
  | [argument] => if argument.isLiteral && isKey (argument.get "value") then some argument else none
  | _ => none

/-- A call that can be asked what it requires. -/
structure Asks (t : Tree) (arguments : List Tree) (callee : Tree) : Prop where
  arguments_eq : t.get? "arguments" = some (.list arguments)
  callee_eq : t.get? "callee" = some callee
  named : callee.isIdentifier = true → (callee.get? "name").isSome = true

/-- Whether a call requires no module by another key than the name that the table gives it. -/
def Named (table : List (Tree × String)) (arguments : List Tree) (callee : Tree) : Prop :=
  isRequire callee = true → ∀ argument name, soleKey? arguments = some argument →
    target? table (argument.get "value") = some name → (argument.get "value").str? = some name

/-- **A call is done** if the module that it requires is named. -/
def Done (table : List (Tree × String)) (t : Tree) : Prop :=
  t.isKind "CallExpression" = true → ∃ arguments callee, Asks t arguments callee ∧ Named table arguments callee

section Asks

variable {m : Type → Type} [Monad m] [LawfulMonad m] [MonadExceptOf Failure m] {t u callee : Tree}
  {arguments : List Tree} {answer : Option Tree}

theorem isNamed_eq (h : callee.isIdentifier = true → (callee.get? "name").isSome = true) :
    (callee.isNamed "require" : m Bool) = pure (isRequire callee) := by
  unfold Tree.isNamed isRequire
  split
  · rename_i hid
    obtain ⟨name, hname⟩ := Option.isSome_iff_exists.mp (h hid)
    rw [Tree.field_of_get? hname, Tree.get_of_get? hname, hid, Bool.true_and, pure_bind]
    cases name <;> rfl
  · rename_i hid
    rw [Bool.not_eq_true] at hid
    rw [hid]
    rfl

/-- What a call answers that can be asked. -/
theorem Asks.required?_eq (h : Asks t arguments callee) :
    required? (m := m) t = pure (if isRequire callee then soleKey? arguments else none) := by
  rw [required?, Tree.listField_of_get? h.arguments_eq, Tree.field_of_get? h.callee_eq, pure_bind, pure_bind,
    isNamed_eq h.named, pure_bind]
  cases isRequire callee with
  | false => rfl
  | true =>
    match arguments with
    | [] | [_] | _ :: _ :: _ => rfl

/-! ### Changing a call -/

/-- What a call becomes that can be asked. -/
theorem nameModule_of_asks (hcall : t.isKind "CallExpression" = true) (h : Asks t arguments callee) :
    nameModule table t =
      match if isRequire callee then soleKey? arguments else none with
      | some argument =>
        match target? table (argument.get "value") with
        | some name => if (argument.get "value").str? == some name then t
          else t.set "arguments" (.list [(Tree.stringLiteral name).withCommentsOf argument])
        | none => t
      | none => t := by
  have hanswer : (required? t : Except Failure (Option Tree)) =
      .ok (if isRequire callee then soleKey? arguments else none) := h.required?_eq
  rw [nameModule, if_pos hcall, hanswer]
  cases (if isRequire callee then soleKey? arguments else none) <;> rfl

/-- A call whose module is named stays as it is. -/
theorem nameModule_of_named (hcall : t.isKind "CallExpression" = true) (h : Asks t arguments callee)
    (hnamed : Named table arguments callee) : nameModule table t = t := by
  rw [nameModule_of_asks hcall h]
  split
  · rename_i argument hanswer
    split
    · rename_i name hname
      rw [Option.ite_none_right_eq_some] at hanswer
      rw [if_pos (beq_iff_eq.mpr (hnamed hanswer.1 argument name hanswer.2 hname))]
    · rfl
  · rfl

/-- A call whose module is not named gets the name for its argument. -/
theorem nameModule_of_not_named (hcall : t.isKind "CallExpression" = true) (h : Asks t arguments callee)
    (hnamed : ¬Named table arguments callee) : ∃ argument name key, target? table key = some name ∧
      nameModule table t = t.set "arguments" (.list [(Tree.stringLiteral name).withCommentsOf argument]) := by
  simp only [Named, not_forall, exists_prop] at hnamed
  obtain ⟨hrequire, argument, name, hsole, hname, hother⟩ := hnamed
  refine ⟨argument, name, _, hname, ?_⟩
  rw [nameModule_of_asks hcall h, if_pos hrequire, hsole]
  simp only [hname]
  rw [if_neg fun hsame => hother (beq_iff_eq.mp hsame)]

/-- A call that is done stays as it is. -/
theorem nameModule_of_done (h : Done table t) : nameModule table t = t := by
  by_cases hcall : t.isKind "CallExpression" = true
  · obtain ⟨arguments, callee, hasks, hnamed⟩ := h hcall
    exact nameModule_of_named hcall hasks hnamed
  · rw [nameModule, if_neg hcall]

/-! ### The name that is put in -/

theorem core_set_of_not_isShapeKey {key : String} (hk : Tree.isShapeKey key = false) (t value : Tree) :
    (t.set key value).core = t.core := by
  cases t with
  | obj l fields => rw [Tree.set, Tree.core, Tree.core, Tree.coreFields_putKey hk]
  | _ => rfl

theorem core_withCommentsOf (t other : Tree) : (t.withCommentsOf other).core = t.core := by
  have hkept {key : String} (hk : Tree.isShapeKey key = false) (t : Tree) : (t.withCommentsAt other key).core = t.core := by
    rw [Tree.withCommentsAt]
    split
    · exact core_set_of_not_isShapeKey hk t _
    · rfl
  rw [Tree.withCommentsOf, hkept (by decide), hkept (by decide)]

/-- The name is what is written. -/
theorem value_name (name : String) (argument : Tree) :
    ((Tree.stringLiteral name).withCommentsOf argument).get "value" = .str name := by
  have hcore : (((Tree.stringLiteral name).withCommentsOf argument).get "value").core = .str name := by
    rw [← Tree.get_core _ (by decide), core_withCommentsOf]
    rfl
  cases hv : ((Tree.stringLiteral name).withCommentsOf argument).get "value" <;> rw [hv] at hcore <;> cases hcore
  rfl

theorem soleKey?_name (name : String) (argument : Tree) {found : Tree}
    (h : soleKey? [(Tree.stringLiteral name).withCommentsOf argument] = some found) : found.get "value" = .str name := by
  rw [soleKey?, Option.ite_none_right_eq_some] at h
  rw [← Option.some.inj h.2]
  exact value_name name argument

theorem not_isKind_name (name : String) (argument : Tree) :
    ¬((Tree.stringLiteral name).withCommentsOf argument).isKind "CallExpression" = true := by
  rw [← Tree.isKind_core, core_withCommentsOf]
  exact nofun

/-- The name has nothing below it. -/
theorem children_name (name : String) (argument : Tree) :
    ((Tree.stringLiteral name).withCommentsOf argument).children = [] := by
  refine List.eq_nil_iff_forall_not_mem.mpr fun c hc => ?_
  have hcore := Tree.mem_children_core.mpr ⟨c, hc, rfl⟩
  rw [core_withCommentsOf] at hcore
  cases hcore

/-- With a settled table a call is done once it has been changed. -/
theorem done_nameModule (hs : Settled table)
    (h : t.isKind "CallExpression" = true → ∃ arguments callee, Asks t arguments callee) :
    Done table (nameModule table t) := by
  by_cases hcall : t.isKind "CallExpression" = true
  · obtain ⟨arguments, callee, hasks⟩ := h hcall
    by_cases hnamed : Named table arguments callee
    · rw [nameModule_of_named hcall hasks hnamed]
      exact fun _ => ⟨arguments, callee, hasks, hnamed⟩
    · obtain ⟨argument, name, key, hname, heq⟩ := nameModule_of_not_named hcall hasks hnamed
      have hobj : t.isObj = true := (Bool.and_eq_true_iff.mp hcall).1
      rw [heq]
      refine fun _ => ⟨[(Tree.stringLiteral name).withCommentsOf argument], callee, ⟨?_, ?_, hasks.named⟩,
        fun _ found other hfound hother => ?_⟩
      · rw [Tree.get?_set hobj, if_pos rfl]
      · rw [Tree.get?_set hobj, if_neg (by decide), hasks.callee_eq]
      · rw [soleKey?_name name argument hfound] at hother ⊢
        rw [hs key name other hname hother]
        rfl
  · rw [nameModule, if_neg hcall]
    exact fun hcall' => absurd hcall' hcall

end Asks

/-! ### All calls of a tree -/

section Calls

variable {t u : Tree} {l : Nat} {fields : List (String × Tree)}

theorem isNode_nameModule (h : t.isNode = true) : (nameModule table t).isNode = true := by
  rcases nameModule_cases table t with heq | ⟨value, heq⟩
  · rwa [heq]
  · have hobj := Tree.isObj_of_isNode h
    rw [Tree.isNode, Bool.and_eq_true] at h ⊢
    rw [heq, Tree.isObj_set, Tree.get?_set hobj, if_neg (by decide)]
    exact h

/-- All that changes of a call is that its arguments become the name of a module. -/
theorem nameModule_eq (table : List (Tree × String)) (t : Tree) : nameModule table t = t ∨ ∃ name argument,
    nameModule table t = t.set "arguments" (.list [(Tree.stringLiteral name).withCommentsOf argument]) := by
  unfold nameModule
  repeat' split
  all_goals first
    | exact .inl rfl
    | exact .inr ⟨_, _, rfl⟩

/-- What is no list of arguments is there before and after. -/
theorem isSome_get?_mapNodesItem {key : String} (hk : key ≠ "arguments") (t : Tree) :
    ((Tree.mapNodesItem (nameModule table) t).get? key).isSome = (t.get? key).isSome := by
  rw [Tree.mapNodesItem_eq]
  split
  · cases t with
    | obj l fields =>
      rw [Tree.mapNodes]
      have hfields : ((Tree.obj l (Tree.mapNodesFields (nameModule table) fields)).get? key).isSome =
          ((Tree.obj l fields).get? key).isSome := by
        rw [Tree.get?_obj, Tree.get?_obj, Tree.lookup_mapNodesFields, Option.isSome_map]
      rcases nameModule_eq table (.obj l (Tree.mapNodesFields (nameModule table) fields)) with heq | ⟨_, _, heq⟩
      · rw [heq, hfields]
      · rw [heq, Tree.get?_set rfl, if_neg hk, hfields]
    | _ => rfl
  · rfl

theorem isKind_mapNodesItem (t : Tree) (kind : String) :
    (Tree.mapNodesItem (nameModule table) t).isKind kind = t.isKind kind := by
  rw [Tree.mapNodesItem_eq]
  split
  · cases t with
    | obj l fields =>
      rw [Tree.mapNodes, ← @Tree.isKind_mapNodesFields (nameModule table) l fields]
      rcases nameModule_eq table (.obj l (Tree.mapNodesFields (nameModule table) fields)) with heq | ⟨_, _, heq⟩
      · rw [heq]
      · rw [heq, Tree.isKind, Tree.isObj_set, Tree.get?_set rfl, if_neg (by decide), Tree.isKind]
    | _ => rfl
  · rfl

/-- A call can still be asked when the nodes below it have been changed. -/
theorem exists_asks_mapNodesFields {arguments : List Tree} {callee : Tree} (h : Asks (.obj l fields) arguments callee) :
    ∃ arguments' callee', Asks (.obj l (Tree.mapNodesFields (nameModule table) fields)) arguments' callee' := by
  have hlookup {key : String} {value : Tree} (hk : Tree.holdsChildren key = true)
      (hv : (Tree.obj l fields).get? key = some value) :
      (Tree.obj l (Tree.mapNodesFields (nameModule table) fields)).get? key =
        some (Tree.mapNodesValue (nameModule table) value) := by
    rw [Tree.get?_obj] at hv
    rw [Tree.get?_obj, Tree.lookup_mapNodesFields, hv, Option.map_some, if_pos hk]
  have harguments := hlookup (by decide) h.arguments_eq
  rw [Tree.mapNodesValue] at harguments
  refine ⟨_, _, harguments, hlookup (by decide) h.callee_eq, fun hid => ?_⟩
  rw [Tree.mapNodesValue_eq] at hid ⊢
  split at hid
  · cases hid
  · rename_i hlist
    rw [if_neg hlist, isSome_get?_mapNodesItem (by decide)]
    exact h.named ((isKind_mapNodesItem callee _).symm.trans hid)

/-- The children of a call that has been changed are those that it had, and the name of the module. -/
theorem mem_children_nameModule {c : Tree} (h : c ∈ (nameModule table t).children) :
    c ∈ t.children ∨ (¬c.isKind "CallExpression" = true ∧ c.children = []) := by
  rcases nameModule_eq table t with heq | ⟨name, argument, heq⟩ <;> rw [heq] at h
  · exact .inl h
  · obtain ⟨hn, key, value, hf, hk, hc⟩ := Tree.mem_children.mp h
    cases t with
    | obj l fields =>
      rcases mem_of_mem_putKey hf with hf | rfl
      · exact .inl (Tree.mem_children.mpr ⟨hn, key, value, hf, hk, hc⟩)
      · rcases hc with rfl | hc
        · cases hn
        · rw [List.mem_singleton.mp hc]
          exact .inr ⟨not_isKind_name name argument, children_name name argument⟩
    | _ => cases hf

/-- **With a settled table all calls of a tree are done** once they have been changed. -/
theorem done_mapNodes (hs : Settled table) (t : Tree)
    (h : ∀ n ∈ t.subtree, n.isKind "CallExpression" = true → ∃ arguments callee, Asks n arguments callee) :
    ∀ n ∈ (t.mapNodes (nameModule table)).subtree, Done table n := by
  refine @Tree.children_induct (fun t => ∀ n ∈ (t.mapNodes (nameModule table)).subtree, Done table n) t ?_
  intro n hn ih m hm
  cases n with
  | obj l fields =>
    rw [Tree.mapNodes] at hm
    rcases Tree.mem_subtree.mp hm with rfl | ⟨c, hc, hm⟩
    · refine done_nameModule hs fun hcall => ?_
      obtain ⟨arguments, callee, hasks⟩ := h _ hn ((Tree.isKind_mapNodesFields l fields _).symm.trans hcall)
      exact exists_asks_mapNodesFields hasks
    · rcases mem_children_nameModule hc with hc | ⟨hkind, hchildren⟩
      · rw [Tree.children_mapNodesFields fun t => isNode_nameModule] at hc
        obtain ⟨d, hd, rfl⟩ := List.mem_map.mp hc
        exact ih d hd m hm
      · rw [Tree.subtree_eq, hchildren] at hm
        rw [List.mem_singleton.mp hm]
        exact fun hcall => absurd hcall hkind
  | _ =>
    obtain rfl := List.mem_singleton.mp hm
    exact fun hcall => absurd hcall Bool.false_ne_true

/-- The key of a module has no labels and no comments. -/
theorem eq_of_isKey {v w : Tree} (hcore : v.core = w.core) (h : isKey v = true) : w = v := by
  cases v <;> cases w <;> simp_all [Tree.core, isKey]

theorem isRequire_congr {callee callee' : Tree} (hcore : callee.core = callee'.core) :
    isRequire callee = isRequire callee' := by
  rw [isRequire, isRequire, Tree.isIdentifier, Tree.isIdentifier, ← Tree.isKind_core, ← Tree.isKind_core callee', hcore,
    ← Tree.str?_core, ← Tree.str?_core (callee'.get "name"), ← Tree.get_core _ (by decide),
    ← Tree.get_core _ (by decide), hcore]

theorem soleKey?_congr {arguments arguments' : List Tree}
    (hcore : arguments.map Tree.core = arguments'.map Tree.core) {found' : Tree}
    (h : soleKey? arguments' = some found') :
    ∃ found, soleKey? arguments = some found ∧ found'.get "value" = found.get "value" := by
  match arguments', h with
  | [argument'], h =>
    obtain ⟨argument, rfl, hargument⟩ : ∃ argument, arguments = [argument] ∧ argument.core = argument'.core := by
      obtain ⟨argument, rest, rfl, hargument, hrest⟩ := List.map_eq_cons_iff.mp hcore
      obtain rfl := List.map_eq_nil_iff.mp hrest
      exact ⟨argument, rfl, hargument⟩
    have hvalue : (argument.get "value").core = (argument'.get "value").core := by
      rw [← Tree.get_core _ (by decide), ← Tree.get_core _ (by decide), hargument]
    rw [soleKey?, Option.ite_none_right_eq_some, Bool.and_eq_true] at h
    obtain ⟨⟨hliteral, hkey⟩, hfound⟩ := h
    have hsame : argument.get "value" = argument'.get "value" := eq_of_isKey hvalue.symm hkey
    refine ⟨argument, ?_, by rw [← Option.some.inj hfound, hsame]⟩
    rw [soleKey?, hsame, hkey, if_pos]
    rw [Bool.and_true, Tree.isLiteral, ← Tree.isKind_core, hargument, Tree.isKind_core]
    exact hliteral

/-- Whether a call is done does not depend on labels and comments. -/
theorem Done.congr (h : Done table t) (hcore : t.core = u.core) : Done table u := by
  intro hcall
  rw [← Tree.isKind_core, ← hcore, Tree.isKind_core] at hcall
  obtain ⟨arguments, callee, hasks, hnamed⟩ := h hcall
  have hget {key : String} {value : Tree} (hk : Tree.isShapeKey key = true) (hv : t.get? key = some value) :
      ∃ value', u.get? key = some value' ∧ value'.core = value.core := by
    have hu := Tree.get?_core u hk
    rw [← hcore, Tree.get?_core t hk, hv, Option.map_some] at hu
    obtain ⟨value', hvalue', heq⟩ := Option.map_eq_some_iff.mp hu.symm
    exact ⟨value', hvalue', heq⟩
  obtain ⟨list', harguments, hlist⟩ := hget (by decide) hasks.arguments_eq
  obtain ⟨callee', hcallee, hcore'⟩ := hget (by decide) hasks.callee_eq
  obtain ⟨arguments', rfl⟩ : ∃ arguments', list' = .list arguments' := by
    have hisList := (Tree.isList_core list').symm.trans ((congrArg Tree.isList hlist).trans rfl)
    cases list' with
    | list arguments' => exact ⟨arguments', rfl⟩
    | _ => cases hisList
  have hitems : arguments.map Tree.core = arguments'.map Tree.core := by
    rw [← Tree.items_list arguments, ← Tree.items_core, ← hlist, Tree.items_core, Tree.items_list]
  refine ⟨arguments', callee', ⟨harguments, hcallee, fun hid => ?_⟩, fun hrequire argument' name hsole hname => ?_⟩
  · have hid' : callee.isIdentifier = true := by
      rw [Tree.isIdentifier, ← Tree.isKind_core, ← hcore', Tree.isKind_core]
      exact hid
    have hname := hasks.named hid'
    rw [← Option.isSome_map (f := Tree.core), ← Tree.get?_core _ (by decide), ← hcore', Tree.get?_core _ (by decide),
      Option.isSome_map] at hname
    exact hname
  · obtain ⟨argument, hsole', hvalue⟩ := soleKey?_congr hitems hsole
    rw [hvalue] at hname ⊢
    exact hnamed ((isRequire_congr hcore'.symm).trans hrequire) argument name hsole' hname

end Calls

/-! ### Runs -/

section Run

open Editing

variable {c : Context} {options : Options}

/-- The calls of a tree are asked what they require, for what goes wrong. -/
def askCalls (nodes : List Tree) : Editing PUnit :=
  forIn nodes PUnit.unit fun t _ => do
    if t.isKind "CallExpression" then discard (required? (m := Editing) t)
    pure (ForInStep.yield PUnit.unit)

theorem run_eq (h : options.table.isEmpty = false) :
    run options = (do
      let root ← Editing.root
      askCalls root.subtree
      Editing.changeRoot (·.mapNodes (nameModule options.table))) := by
  unfold run
  rw [h]
  rfl

theorem run_of_isEmpty (h : options.table.isEmpty = true) : run options = pure () := by
  unfold run
  rw [h]
  rfl

/-- A field is there, or looking for it ends the run. -/
theorem field_or_throws (t : Tree) (key : String) :
    (∃ v, t.get? key = some v) ∨ ∃ e, t.field (m := Editing) key = throw e := by
  unfold Tree.field
  cases t with
  | obj l fields =>
    dsimp only
    split
    · rename_i v hv
      exact .inl ⟨v, hv⟩
    · exact .inr ⟨_, rfl⟩
  | _ => exact .inr ⟨_, rfl⟩

/-- A call can be asked, or asking it ends the run. -/
theorem asks_or_throws (t : Tree) : (∃ arguments callee, Asks t arguments callee) ∨
    ∃ e, required? (m := Editing) t = throw e := by
  rcases field_or_throws t "arguments" with ⟨list, hlist⟩ | ⟨e, he⟩
  case inr =>
    refine .inr ⟨e, ?_⟩
    rw [required?, Tree.listField, he]
    rfl
  by_cases hitems : ∃ arguments, list = .list arguments
  case neg =>
    refine .inr ⟨Failure.shape s!"{list.sort} is no list", ?_⟩
    rw [required?, Tree.listField, Tree.field_of_get? hlist, pure_bind]
    cases list <;> first | rfl | exact absurd ⟨_, rfl⟩ hitems
  obtain ⟨arguments, rfl⟩ := hitems
  rcases field_or_throws t "callee" with ⟨callee, hcallee⟩ | ⟨e, he⟩
  case inr =>
    refine .inr ⟨e, ?_⟩
    rw [required?, Tree.listField_of_get? hlist, pure_bind, he]
    rfl
  by_cases hid : callee.isIdentifier = true
  case neg => exact .inl ⟨arguments, callee, hlist, hcallee, fun h => absurd h hid⟩
  rcases field_or_throws callee "name" with ⟨name, hname⟩ | ⟨e, he⟩
  · exact .inl ⟨arguments, callee, hlist, hcallee, fun _ => hname ▸ rfl⟩
  · refine .inr ⟨e, ?_⟩
    rw [required?, Tree.listField_of_get? hlist, pure_bind, Tree.field_of_get? hcallee, pure_bind, Tree.isNamed,
      if_pos hid, he]
    rfl

theorem askCalls_cons (t : Tree) (rest : List Tree) : askCalls (t :: rest) =
    (if t.isKind "CallExpression" then discard (required? (m := Editing) t) else pure PUnit.unit) >>=
      fun _ => askCalls rest := by
  rw [askCalls, List.forIn_cons]
  split
  · simp only [bind_assoc, pure_bind]
    rfl
  · rfl

/-- Calls that can be asked leave the program alone. -/
theorem askCalls_of_asks {nodes : List Tree}
    (h : ∀ n ∈ nodes, n.isKind "CallExpression" = true → ∃ arguments callee, Asks n arguments callee) :
    askCalls nodes = pure PUnit.unit := by
  induction nodes with
  | nil => rfl
  | cons t rest ih =>
    obtain ⟨ht, hrest⟩ := List.forall_mem_cons.mp h
    rw [askCalls_cons, ih hrest]
    split
    · rename_i hcall
      obtain ⟨arguments, callee, hasks⟩ := ht hcall
      rw [hasks.required?_eq]
      rfl
    · rfl

/-- The first call that cannot be asked ends the run. -/
theorem askCalls_cases (nodes : List Tree) :
    (∃ e, askCalls nodes = throw e) ∨
      ∀ n ∈ nodes, n.isKind "CallExpression" = true → ∃ arguments callee, Asks n arguments callee := by
  induction nodes with
  | nil => exact .inr nofun
  | cons t rest ih =>
    rw [askCalls_cons]
    by_cases hcall : t.isKind "CallExpression" = true
    · rw [if_pos hcall]
      rcases asks_or_throws t with ⟨arguments, callee, hasks⟩ | ⟨e, he⟩
      · have hgoes : ((discard (required? (m := Editing) t)) >>= fun _ => askCalls rest) = askCalls rest := by
          rw [hasks.required?_eq]
          rfl
        rw [hgoes]
        exact ih.imp_right fun hrest => List.forall_mem_cons.mpr ⟨fun _ => ⟨arguments, callee, hasks⟩, hrest⟩
      · exact .inl ⟨e, by rw [he]; rfl⟩
    · rw [if_neg hcall, pure_bind]
      exact ih.imp_right fun hrest => List.forall_mem_cons.mpr ⟨fun h => absurd h hcall, hrest⟩

/-- What is left of a program whose calls can be asked. -/
def named (options : Options) (c : Context) : Context :=
  let (root, doc) := c.doc.adopt (c.doc.root.mapNodes (nameModule options.table))
  { c with doc := { doc with root } }

theorem run_of_asks (hempty : options.table.isEmpty = false)
    (h : ∀ n ∈ c.doc.root.subtree, n.isKind "CallExpression" = true → ∃ arguments callee, Asks n arguments callee) :
    (run options).run.run c = (.ok (), named options c) := by
  have hroot : (Editing.root).run.run c = (.ok c.doc.root, c) := rfl
  rw [run_eq hempty, run_bind_of_ok hroot, askCalls_of_asks h]
  rfl

/-- A program of which all calls are done stays as it is. -/
theorem run_of_done (hl : 0 ∉ c.doc.root.labels) (h : ∀ n ∈ c.doc.root.subtree, Done options.table n) :
    (run options).run.run c = (.ok (), c) := by
  cases hempty : options.table.isEmpty with
  | true =>
    rw [run_of_isEmpty hempty]
    rfl
  | false =>
    have hmap : c.doc.root.mapNodes (nameModule options.table) = c.doc.root :=
      Tree.mapNodes_eq_self fun n hn => nameModule_of_done (h n hn)
    have hadopt : c.doc.adopt c.doc.root = (c.doc.root, c.doc) := by
      rw [Document.adopt, Tree.number_of_labelled hl]
    rw [run_of_asks hempty fun n hn hcall => ?_, named, hmap, hadopt]
    obtain ⟨arguments, callee, hasks, -⟩ := h n hn hcall
    exact ⟨arguments, callee, hasks⟩

/-- The nodes of trees that have the same core. -/
theorem exists_mem_subtree_of_core {t u : Tree} (hcore : t.core = u.core) {n : Tree} (hn : n ∈ u.subtree) :
    ∃ m ∈ t.subtree, m.core = n.core := by
  induction u using Tree.children_induct generalizing t with
  | h u _ ih =>
  rcases Tree.mem_subtree.mp hn with rfl | ⟨c, hc, hn⟩
  · exact ⟨t, Tree.mem_subtree_self t, hcore⟩
  · obtain ⟨d, hd, hdc⟩ := Tree.mem_children_core.mp (hcore ▸ Tree.mem_children_core.mpr ⟨c, hc, rfl⟩)
    obtain ⟨m, hm, hmn⟩ := ih c hc hdc.symm hn
    exact ⟨m, Tree.subtree_subset_of_mem_children hd hm, hmn⟩

/-- All calls of a program are done once it has been run over. -/
theorem done_named (hs : Settled options.table) (hnext : 0 < c.doc.next)
    (h : ∀ n ∈ c.doc.root.subtree, n.isKind "CallExpression" = true → ∃ arguments callee, Asks n arguments callee) :
    0 ∉ (named options c).doc.root.labels ∧ ∀ n ∈ (named options c).doc.root.subtree, Done options.table n := by
  have hroot : (named options c).doc.root = ((c.doc.root.mapNodes (nameModule options.table)).number c.doc.next).1 := rfl
  rw [hroot]
  refine ⟨?_, fun n hn => ?_⟩
  · have hzero := (Tree.givenOut_number (c.doc.root.mapNodes (nameModule options.table)) hnext 0).zero rfl
    exact List.count_eq_zero.mp hzero
  · obtain ⟨m, hm, hcore⟩ := exists_mem_subtree_of_core (Tree.core_number _ _).symm hn
    exact (done_mapNodes hs _ h m hm).congr hcore

/-- **With the names of a webpack bundle, naming the modules of a program twice is the same as naming them
once**, whatever the program is: it goes wrong in the same way, or the second time changes nothing. Label zero
is that of nodes that have no label yet. -/
theorem run_twice {source : String} {b : Bundle} (h : unpack source = .ok b)
    (hb : b.bundler = "webpack4" ∨ b.bundler = "webpack5") (config : Config) :
    ∃ options, Options.ofParams (Command.unpackParams config b) = .ok options ∧ ∀ c : Context, 0 < c.doc.next →
      (do run options; run options).run.run c = (run options).run.run c := by
  have hbrowserify : b.bundler ≠ "browserify" := by
    rcases hb with hb | hb <;> rw [hb] <;> decide
  obtain ⟨options, hoptions, hfrom⟩ := exists_options config b
  have hs : Settled options.table := settled_of_unpack h hbrowserify hfrom
  refine ⟨options, hoptions, fun c hnext => ?_⟩
  cases hempty : options.table.isEmpty with
  | true => rw [run_of_isEmpty hempty, pure_bind]
  | false =>
    rcases askCalls_cases c.doc.root.subtree with ⟨e, he⟩ | hasks
    · have hroot : (Editing.root).run.run c = (.ok c.doc.root, c) := rfl
      rw [run_eq hempty, bind_assoc, run_bind_of_ok hroot, run_bind_of_ok hroot, he]
      rfl
    · obtain ⟨hlabels, hdone⟩ := done_named hs hnext hasks
      have hrun := run_of_asks hempty hasks
      rw [run_bind_of_ok hrun, hrun, run_of_done hlabels hdone]

/-- A bundle in which the file name of one module is the id of another one. -/
def sharedName : String :=
  "(function (m) \x7b function r(i) \x7b\x7d r.m = m; r('./a'); \x7d)" ++
    "(\x7b'./a': function () \x7b\x7d, 'a.js': function () \x7b\x7d\x7d);"

/-- A program that requires the first of the two modules. -/
def requiring : Context :=
  let call := Tree.node "CallExpression"
    [("callee", Tree.identifier "require"), ("arguments", .list [Tree.stringLiteral "./a"])]
  { doc := Document.ofTree (Tree.program [Tree.expressionStatement call]) 1 }

theorem run_twice_sharedName : ∃ b options, unpack sharedName = .ok b ∧ b.bundler = "webpack4" ∧
    b.names = [(.name "./a", "a.js"), (.name "a.js", "a.js")] ∧
    Options.ofParams (Command.unpackParams {} b) = .ok options ∧ 0 < requiring.doc.next ∧
    (do run options; run options).run.run requiring = (run options).run.run requiring := by
  obtain ⟨b, hb, hcheck⟩ := @exists_of_unpacked sharedName (fun b => b.bundler == "webpack4" &&
    b.names == [(.name "./a", "a.js"), (.name "a.js", "a.js")]) (by decide +kernel)
  simp only [Bool.and_eq_true, beq_iff_eq] at hcheck
  obtain ⟨hbundler, hnames⟩ := hcheck
  obtain ⟨options, hoptions, hrun⟩ := run_twice hb (.inl hbundler) {}
  exact ⟨b, options, hb, hbundler, hnames, hoptions, by decide, hrun requiring (by decide)⟩

end Run

end Rules.ModuleName

end Deminify
