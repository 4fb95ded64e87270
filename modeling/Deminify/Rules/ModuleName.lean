import Deminify.Rule.Params
import Deminify.Rule.Context
import Deminify.Tree.Build

/-!
# Module names

Bundled modules require each other by number or by a short text. Where a table gives the file name
of a module, `require` of its number becomes `require` of the name.

* `Deminify.Rules.ModuleName.Options` – the table;
* `Deminify.Rules.ModuleName.target?` – the file name of a key;
* `Deminify.Rules.ModuleName.run` – **names the modules of every `require` call**.
-/

namespace Deminify.Rules.ModuleName

/-- The file names of modules by key. Keys are compared as values: a number is not its text. -/
structure Options where
  table : List (Tree × String) := []

/-- The options from the parameters of a run. -/
def Options.ofParams (params : Params) : Except Failure Options :=
  Params.check "Options" (Options.mk <$> params.moduleTable)

/-- The file name of a key, looked up by its value and then by its text. -/
def target? (table : List (Tree × String)) (key : Tree) : Option String :=
  let byKey (key : Tree) := (table.find? fun entry => entry.1.sameScalar key).map (·.2)
  (byKey key).or (byKey (.str key.display))

/-- Whether a value can be the key of a module. -/
def isKey : Tree → Bool
  | .str _ => true
  | .int _ => true
  | .real _ => true
  | _ => false

/-- The literal that a call of `require` is given, when that is its only argument. -/
def required? {m : Type → Type} [Monad m] [MonadExceptOf Failure m] (call : Tree) :
    m (Option Tree) := do
  let arguments ← call.listField "arguments"
  if !(← (← call.field "callee").isNamed "require") then return none
  match arguments with
  | [argument] => return if argument.isLiteral && isKey (argument.get "value") then some argument
    else none
  | _ => return none

/-- The call with its module named, if it is a `require` of a module in the table. -/
def nameModule (table : List (Tree × String)) (t : Tree) : Tree :=
  if t.isKind "CallExpression" then
    match (required? t : Except Failure (Option Tree)) with
    | .ok (some argument) =>
      match target? table (argument.get "value") with
      | some name =>
        if (argument.get "value").str? == some name then t
        else t.set "arguments" (.list [(Tree.stringLiteral name).withCommentsOf argument])
      | none => t
    | _ => t
  else t

/-- Names the modules of every `require` call. -/
def run (options : Options) : Editing Unit := do
  if options.table.isEmpty then return
  for t in (← Editing.root).subtree do
    if t.isKind "CallExpression" then discard (required? (m := Editing) t)
  Editing.changeRoot (·.mapNodes (nameModule options.table))

end Deminify.Rules.ModuleName
