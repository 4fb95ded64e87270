import Deminify.Diagnostic
import Deminify.Document.Place
import Deminify.Scope.Build
import Deminify.Tree.Comments

/-!
# Editing a program

A rule edits a document and keeps the view of its scopes in step, or lets go of it. Whatever it has
done stays done when it fails.

* `Deminify.Context` – the document, the view of its scopes and what has been reported;
* `Deminify.Editing` – an edit, which may fail;
* `Deminify.Editing.scopes` – **the scopes of the document**, found anew when the view is stale;
* `Deminify.Editing.report` – attaches a message to the file.
-/

namespace Deminify

/-- A document under edit, with what is known of its scopes and what has been reported. -/
structure Context where
  doc : Document
  view : Option ScopeTree := none
  source : String := ""
  rule : Option String := none
  diagnostics : Array Diagnostic := #[]

/-- An edit, which may fail and keeps what it has done. -/
abbrev Editing := ExceptT Failure (StateM Context)

namespace Editing

/-! ### The document -/

/-- The document. -/
def doc : Editing Document := return (← get).doc

/-- The tree. -/
def root : Editing Tree := return (← get).doc.root

/-- Changes the document. -/
def updateDoc (f : Document → Document) : Editing Unit := modify fun c => { c with doc := f c.doc }

/-- The record with a label. -/
def node (label : Nat) : Editing Tree := return (← doc).get label

/-- Labels the new records of a value. -/
def adopt (t : Tree) : Editing Tree := do
  let (t, d) := (← doc).adopt t
  updateDoc fun _ => d
  return t

/-- Replaces the records with a label. -/
def put (label : Nat) (t : Tree) : Editing Unit := updateDoc (·.edit label fun _ => t)

/-- Sets a field of the records with a label. -/
def setField (label : Nat) (key : String) (value : Tree) : Editing Unit :=
  updateDoc (·.set label key value)

/-- Changes the tree and labels its new records. -/
def changeRoot (f : Tree → Tree) : Editing Unit := do
  let root ← adopt (f (← root))
  updateDoc fun d => { d with root }

/-- Goes on with the value of a question, or fails as it does. -/
def ask {α : Type} (question : Except Failure α) : Editing α :=
  match question with
  | .ok a => return a
  | .error f => throw f

/-- Puts a node in the place of another and notes that in the places. -/
def replaceAt (places : Array Place) (i : Nat) (new : Tree) : Editing (Array Place) := do
  let (d, places) ← ask ((← doc).replaceAt places i new)
  updateDoc fun _ => d
  return places

/-! ### The scopes -/

/-- The scopes of the document: the view at hand unless it is stale. -/
def scopes : Editing ScopeTree := do
  let c ← get
  let known := match c.view with
    | some s => if s.stale then none else some s
    | none => none
  match known with
  | some s => return s
  | none =>
    match ScopeTree.build c.doc.root with
    | .ok s =>
      set { c with view := some s }
      return s
    | .error f => throw f

/-- The view at hand, stale or not. -/
def view : Editing ScopeTree := return ((← get).view).getD {}

/-- Changes the view at hand. -/
def updateView (f : ScopeTree → ScopeTree) : Editing Unit :=
  modify fun c => { c with view := c.view.map f }

/-- Lets go of the view. -/
def resetView : Editing Unit := modify fun c => { c with view := none }

/-- Respells names. -/
def respell (labels : List Nat) (name : String) : Editing Unit := updateDoc (·.rename labels name)

/-- Changes the view in a way that respells names. -/
def respelling (f : ScopeTree → ScopeTree × List Nat) (name : String) : Editing Unit := do
  let (s, labels) := f (← view)
  updateView fun _ => s
  respell labels name

/-- Renames a binding and every name that spells it. -/
def renameBinding (b : Nat) (name : String) : Editing Unit := respelling (·.renameBinding b name) name

/-! ### Messages -/

/-- Attaches a message to the file, at a node if it has a place in the text. -/
def report (message level : String) (node : Option Tree) : Editing Unit := do
  let c ← get
  let position := match node.map (·.get "range") with
    | some (.list (.int start :: _)) =>
      if c.source.isEmpty then none else some (lineColumn c.source start)
    | _ => none
  let d : Diagnostic := {
    level, message, rule := c.rule
    line := position.map fun p => (p.1 : Int), column := position.map fun p => (p.2 : Int) }
  set { c with diagnostics := c.diagnostics.push d }

end Editing

end Deminify
