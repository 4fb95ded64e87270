import Deminify.Setting
import Deminify.Tree.Basic

/-!
# Parameters of a run

A run has one set of parameters, and each rule reads its options from it. A setting has a name in
running text and one of its own, the first of which wins; settings that no rule knows are ignored.

* `Deminify.Params` – the parameters;
* `Deminify.Params.check` – options, or **the count of invalid values** as a failure.
-/

namespace Deminify

/-- The parameters of a run. The table of module names may have keys that are no texts, and then
takes the place of the setting. -/
structure Params where
  settings : List (String × Json) := []
  modules : Option (List (Json × Json)) := none

namespace Params

/-- The first of the names that is set. -/
def find? (params : Params) (names : List String) : Option Json :=
  names.findSome? fun name => params.settings.lookup name

/-- Puts an entry into a table: a known key keeps its place. -/
def putScalar {α : Type} (table : List (Tree × α)) (key : Tree) (value : α) : List (Tree × α) :=
  match table with
  | [] => [(key, value)]
  | (k, v) :: rest =>
    if k.sameScalar key then (k, value) :: rest else (k, v) :: putScalar rest key value

/-- The texts that a table maps to; each value that is none is a fault. -/
def tableTexts : List (Tree × Json) → Checked (List (Tree × String))
  | [] => .ok []
  | (key, value) :: rest =>
    Checked.apply ((fun s table => (key, s) :: table) <$> Setting.text value) (tableTexts rest)

/-- The table of module names. -/
def moduleTable (params : Params) : Checked (List (Tree × String)) :=
  let ofEntries (entries : List (Json × Json)) :=
    tableTexts (entries.foldl (fun table (k, v) => putScalar table (Tree.ofJson k) v) [])
  match params.modules, params.find? ["moduleMapping", "module_mapping"] with
  | some entries, _ => ofEntries entries
  | none, none => .ok []
  | none, some (.obj fields) => ofEntries (fields.map fun (k, v) => (.str k, v))
  | none, some _ => .error 1

/-- The options of a model, or the failure that counts its invalid values. -/
def check {α : Type} (model : String) : Checked α → Except Failure α
  | .ok options => .ok options
  | .error faults => .error (.invalid faults model)

end Params

end Deminify
