import Deminify.Scope.Basic

/-!
# Keeping scopes in step with edits

* `Deminify.ScopeTree.declare` – a name declares a binding, or declares it once more;
* `Deminify.ScopeTree.addReference` – **a name is resolved** and counted as a use;
* `Deminify.ScopeTree.removeReference`, `Deminify.ScopeTree.removeBinding`;
* `Deminify.ScopeTree.renameBinding`, `Deminify.ScopeTree.renameGlobal`, `Deminify.ScopeTree.merge` –
  these return the labels of the names to be respelled.
-/

namespace Deminify.ScopeTree

/-- The array without the first occurrence of a label. -/
def without (labels : Array Nat) (label : Nat) : Array Nat := labels.erase label

/-- Changes the binding with a number. -/
def editBinding (s : ScopeTree) (id : Nat) (f : Binding → Binding) : ScopeTree :=
  { s with bindings := s.bindings.modify id f }

/-- Changes the scope with a number. -/
def editScope (s : ScopeTree) (id : Nat) (f : Scope → Scope) : ScopeTree :=
  { s with scopes := s.scopes.modify id f }

/-- Opens a scope for a node. -/
def newScope (s : ScopeTree) (kind : String) (node : Nat) (parent : Option Nat) :
    ScopeTree × Nat :=
  let id := s.scopes.size
  let s := { s with
    scopes := s.scopes.push { kind, node, parent }
    scopeOf := s.scopeOf.insert node id }
  match parent with
  | some p => (s.editScope p fun scope => { scope with children := scope.children.push id }, id)
  | none => (s, id)

/-- Notes the scope that a node stands in. -/
def setScope (s : ScopeTree) (label id : Nat) : ScopeTree :=
  { s with scopeOf := s.scopeOf.insert label id }

/-- Whether a declaring node gives the name a value right away. -/
def initializes (node : Tree) : Bool :=
  node.isKind "VariableDeclarator" && !(node.get "init").isNull

/-- Declares a name in a scope. A name that is bound there already is declared once more, and
written to if it gets a value. -/
def declare (s : ScopeTree) (id label : Nat) (name kind : String) (node : Option Tree) :
    ScopeTree × Nat :=
  match (s.scopes[id]?).bind (·.bindings.lookup name) with
  | none =>
    let b := s.bindings.size
    let s := { s with
      bindings := s.bindings.push
        { name, kind, identifier := label, node := node.map Tree.label, scope := id }
      bindingOf := s.bindingOf.insert label b }
    (s.editScope id fun scope => { scope with bindings := putKey scope.bindings name b }, b)
  | some b =>
    let writes := node.any initializes
    let s := if (s.binding b).identifier == label then s
      else s.editBinding b fun binding => { binding with
        redeclarations := binding.redeclarations.push label
        writes := if writes then binding.writes.push label else binding.writes }
    ({ s with bindingOf := s.bindingOf.insert label b }, b)

/-- Adds a label to the list of a name. -/
def pushLabel (table : List (String × Array Nat)) (name : String) (label : Nat) :
    List (String × Array Nat) :=
  putKey table name (((table.lookup name).getD #[]).push label)

/-- Resolves a name from a scope and counts it as a use, a write if `writes` holds; the parent and
the key there may be known. -/
def addReference (s : ScopeTree) (label : Nat) (name : String) (id : Nat)
    (parent : Option (Nat × String)) (writes : Bool) : ScopeTree × Option Nat :=
  let s := match parent with
    | some p => { s with parentOf := s.parentOf.insert label p }
    | none => s
  match s.lookup id name with
  | none =>
    let s := { s with globals := pushLabel s.globals name label }
    (if writes then { s with globalWrites := pushLabel s.globalWrites name label } else s, none)
  | some b =>
    let s := s.editBinding b fun binding =>
      if writes then { binding with writes := binding.writes.push label }
      else { binding with references := binding.references.push label }
    ({ s with bindingOf := s.bindingOf.insert label b }, some b)

/-- Takes a label from the list of a name; a name without labels goes. -/
def dropLabel (table : List (String × Array Nat)) (name : String) (label : Nat) :
    List (String × Array Nat) :=
  let rest := without ((table.lookup name).getD #[]) label
  if rest.isEmpty then table.filter (·.1 != name) else putKey table name rest

/-- Forgets a use. -/
def removeReference (s : ScopeTree) (label : Nat) (name : String) : ScopeTree :=
  let s := { s with parentOf := s.parentOf.erase label }
  match s.bindingFor label with
  | some b =>
    let s := { s with bindingOf := s.bindingOf.erase label }
    s.editBinding b fun binding => { binding with
      references := without binding.references label
      writes := without binding.writes label }
  | none => { s with
      globals := dropLabel s.globals name label
      globalWrites := dropLabel s.globalWrites name label }

/-- Unbinds a name in its scope, if it is this binding's. -/
def unbind (s : ScopeTree) (b : Nat) : ScopeTree :=
  let binding := s.binding b
  s.editScope binding.scope fun scope =>
    if scope.bindings.lookup binding.name == some b then
      { scope with bindings := scope.bindings.filter (·.1 != binding.name) }
    else scope

/-- Forgets a binding; its uses stay as they are. -/
def removeBinding (s : ScopeTree) (b : Nat) : ScopeTree :=
  let binding := s.binding b
  let s := s.unbind b
  let declaring := binding.identifier :: binding.redeclarations.toList
  { s with bindingOf := declaring.foldl (fun table label => table.erase label) s.bindingOf }

/-- Renames a binding: the names with the returned labels are to be respelled. -/
def renameBinding (s : ScopeTree) (b : Nat) (name : String) : ScopeTree × List Nat :=
  let binding := s.binding b
  let s := s.unbind b
  let s := s.editBinding b fun binding => { binding with name }
  let s := s.editScope binding.scope fun scope =>
    { scope with bindings := putKey scope.bindings name b }
  (s, binding.identifiers)

/-- Renames the binding of a name as seen from a scope, if there is one. -/
def renameFrom (s : ScopeTree) (id : Nat) (old new : String) : ScopeTree × List Nat :=
  if old == new then (s, [])
  else
    match s.lookup id old with
    | some b => s.renameBinding b new
    | none => (s, [])

/-- Moves the labels of one name to another. -/
def moveLabels (table : List (String × Array Nat)) (old new : String) : List (String × Array Nat) :=
  let labels := (table.lookup old).getD #[]
  let rest := table.filter (·.1 != old)
  if labels.isEmpty then rest else putKey rest new (((rest.lookup new).getD #[]) ++ labels)

/-- Renames a global name. -/
def renameGlobal (s : ScopeTree) (old new : String) : ScopeTree × List Nat :=
  let labels := ((s.globals.lookup old).getD #[]).toList
  ({ s with
      globals := moveLabels s.globals old new
      globalWrites := moveLabels s.globalWrites old new }, labels)

/-- Gives the uses of one name to another and forgets the first; its declaration stays. Returns the
new spelling with the labels it goes to. -/
def merge (s : ScopeTree) (id : Nat) (name into : String) : ScopeTree × String × List Nat :=
  match s.lookup id name, s.lookup id into with
  | some b, some target =>
    if b == target then (s, into, [])
    else
      let binding := s.binding b
      let uses := binding.references ++ binding.writes
      let s := s.editBinding target fun t => { t with
        references := t.references ++ binding.references
        writes := t.writes ++ binding.writes }
      let s := { s with
        bindingOf := uses.foldl (fun table label => table.insert label target) s.bindingOf }
      let s := s.editBinding b fun t => { t with references := #[], writes := #[] }
      (s.removeBinding b, (s.binding target).name, uses.toList)
  | _, _ => (s, into, [])

/-- The view no longer fits the program. -/
def markStale (s : ScopeTree) : ScopeTree := { s with stale := true }

end Deminify.ScopeTree
