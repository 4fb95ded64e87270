import Deminify.Printer.Statement
import Deminify.Scope.Build
import Deminify.Text.Word
import Deminify.Tree.Build
import Deminify.Tree.Kind

/-!
# Registries of modules

A bundle lists its modules as factories: functions that take what a module needs as parameters. The
body of a factory, with its parameters renamed to what modules call them, is the module.

* `Deminify.Bundle.Registry` – what has been read of a bundle;
* `Deminify.Bundle.factoryCode` – **the program of a factory**;
* `Deminify.Bundle.bannerPath?` – the path in a banner comment.
-/

namespace Deminify

/-!
## Bundles

A bundle holds many modules in one file. A module has a number or a text for an id, and where the
bundle tells its path, a file name made from it.

* `Deminify.Bundle.ModuleId`, `Deminify.Bundle.Module`, `Deminify.Bundle`;
* `Deminify.Bundle.fileName` – **a file name below the output directory** for any path;
* `Deminify.Bundle.fileNameOf` – the file name of a module.
-/

namespace Bundle

/-- The id of a module. -/
inductive ModuleId where
  | number (n : Int)
  | name (s : String)
  deriving DecidableEq, Repr

namespace ModuleId

/-- The text of an id. -/
def text : ModuleId → String
  | .number n => toString n
  | .name s => s

/-- The id that a key or a literal stands for. -/
def ofTree? (t : Tree) : Option ModuleId :=
  if t.isLiteral then
    match t.get "value" with
    | .int n => some (.number n)
    | .real x =>
      match x.toInt? with
      | some n => some (.number n)
      | none => some (.name x.text)
    | .str s => some (.name s)
    | _ => none
  else if t.isIdentifier then ((t.get "name").str?).map .name
  else none

/-- The text of an id that is one. -/
def name? : ModuleId → Option String
  | .name s => some s
  | .number _ => none

/-- The file name made from an id. -/
def fileName (id : ModuleId) : String := "module-" ++ id.text ++ ".js"

end ModuleId

/-- A module of a bundle; its path is as the bundle gives it. -/
structure Module where
  id : ModuleId
  code : String
  isEntry : Bool := false
  path : Option String := none

/-! ### File names -/

/-- The parts of a path between slashes of either kind, without those that say nothing or lead
upwards. -/
def segments (path : String) : List String :=
  let parts := (path.toList.splitOnP fun c => c == '/' || c == '\\').map String.ofList
  parts.filter fun part => !(["", ".", ".."].contains part)

/-- Whether a file name has an extension of a program. -/
def isScriptName (name : String) : Bool :=
  [".js", ".mjs", ".cjs", ".jsx"].any fun extension => name.endsWith extension

/-- A file name below the output directory, with an extension of a program. -/
def fileName (path : String) : String :=
  let parts := segments path
  let name := if parts.isEmpty then "index" else String.intercalate "/" parts
  if isScriptName name then name else name ++ ".js"

end Bundle

/-- The modules of a bundle, the file names recovered for them, and the tool that made it. -/
structure Bundle where
  bundler : String
  modules : List Bundle.Module
  names : List (Bundle.ModuleId × String)

namespace Bundle

/-- The file name of a module: the one recovered for its id, or one made from the id. -/
def fileNameOf (bundle : Bundle) (module : Module) : String :=
  match bundle.names.lookup module.id with
  | some name => if name.isEmpty then module.id.fileName else name
  | none => module.id.fileName

end Bundle

end Deminify

namespace Deminify.Bundle

/-- The source of a bundle and the first label that its tree leaves free. -/
structure Origin where
  source : String
  next : Nat

/-! ### Programs of factories -/

/-- Renames a parameter of the function with a scope. -/
def renameParameter (scope : Nat) (state : ScopeTree × Document) (parameter : Tree)
    (wanted : String) : ScopeTree × Document :=
  let (s, d) := state
  let spelling := ((d.get parameter.label).get "name").str?
  if parameter.isIdentifier && spelling != some wanted then
    match s.bindingFor parameter.label with
    | some b =>
      let name := s.generateName wanted scope
      let (s, labels) := s.renameBinding b name
      (s, d.rename labels name)
    | none => state
  else state

/-- The factory with its parameters renamed. -/
def renameParameters (origin : Origin) (names : List String) (factory : Tree) :
    Except Failure Tree := do
  let d := Document.ofTree (Tree.program [Tree.expressionStatement factory]) origin.next
  let s ← ScopeTree.build d.root
  let scope := (s.scopeFor factory.label).getD 0
  let renames := (factory.get "params").items.zip names
  let (_, d) := renames.foldl (fun state (parameter, wanted) =>
    renameParameter scope state parameter wanted) (s, d)
  return d.get factory.label

/-- The program of a factory: its body, with the parameters renamed. -/
def factoryCode (origin : Origin) (names : List String) (factory : Tree) :
    Except Failure String := do
  let body := (← renameParameters origin names factory).get "body"
  let statements := if body.isKind "BlockStatement" then (body.get "body").items
    else [Tree.expressionStatement body]
  (Tree.program statements).print (some origin.source)

/-! ### Paths in banners -/

/-- The characters of a path up to the blanks before `***!`; a line break ends the search. -/
def bannerText? (read : List Char) : List Char → Option (List Char)
  | [] => none
  | c :: rest =>
    let isEnd := Text.isBlank c
      && "***!".toList.isPrefixOf (Text.dropBlanks rest)
    if isEnd && !read.isEmpty then some read.reverse
    else if c == '\n' then none
    else bannerText? (c :: read) rest

/-- The path in the first banner among the characters: `!*** path ***!`. -/
def bannerIn? : List Char → Option (List Char)
  | [] => none
  | c :: rest =>
    let here := if "!***".toList.isPrefixOf (c :: rest) then
        match rest.drop 3 with
        | blank :: more => if Text.isBlank blank then bannerText? [] (Text.dropBlanks more) else none
        | [] => none
      else none
    here.or (bannerIn? rest)

/-- The path in a banner comment in front of a node. -/
def bannerPath? (t : Tree) : Option String :=
  t.get "leadingComments" |>.items.findSome? fun comment =>
    (bannerIn? (((comment.get "value").str?).getD "").toList).map String.ofList

/-! ### Reading a registry -/

/-- What has been read of a bundle: modules, file names and paths by id, and the entry ids. -/
structure Registry where
  modules : List Module := []
  names : List (ModuleId × String) := []
  paths : List (ModuleId × String) := []
  entries : List ModuleId := []

namespace Registry

/-- Notes the path of a module, unless one is known. -/
def addPath (r : Registry) (id : ModuleId) (path : Option String) : Registry :=
  match path with
  | some path =>
    if path.isEmpty || (r.names.lookup id).isSome then r
    else { r with names := r.names ++ [(id, fileName path)], paths := r.paths ++ [(id, path)] }
  | none => r

/-- Adds the module of a factory. -/
def addFactory (r : Registry) (origin : Origin) (parameters : List String) (id : ModuleId)
    (factory : Tree) : Except Failure Registry := do
  return { r with modules := r.modules ++ [⟨id, ← factoryCode origin parameters factory, false, none⟩] }

/-- The bundle that has been read; file names of modules that are not in it are left out. -/
def bundle (r : Registry) (bundler : String) : Bundle where
  bundler := bundler
  modules := r.modules.map fun module =>
    { module with isEntry := r.entries.contains module.id, path := r.paths.lookup module.id }
  names := r.names.filter fun (id, _) => r.modules.any (·.id == id)

end Registry

/-- Whether a value is a function. -/
def isFunction (t : Tree) : Bool := Tree.isFunctionKind t.kind

/-- Whether an id looks like a path: it has a slash, or ends with an extension. A final line break is
overlooked. -/
def isPathLike (s : String) : Bool :=
  s.toList.contains '/'
    || let word := (beforeLastBreak s.toList).reverse.takeWhile Text.isWord
      let before := (beforeLastBreak s.toList).reverse.dropWhile Text.isWord
      before.head? == some '.' && word.getLast?.any Char.isAlpha

/-- What a factory of a webpack bundle takes. -/
def webpackParameters : List String := ["module", "exports", "require"]

/-- Adds the modules of an object from ids to factories. -/
def readObject (origin : Origin) (r : Registry) (object : Tree) : Except Failure Registry :=
  (object.get "properties").items.foldlM (fun r property => do
    if !property.isKind "Property" || (property.get "computed").truthy then return r
    let factory := property.get "value"
    match ModuleId.ofTree? (property.get "key") with
    | none => return r
    | some id =>
      if !isFunction factory then return r
      let r := r.addPath id (id.name?.filter isPathLike)
      let r := r.addPath id ((bannerPath? property).or (bannerPath? factory))
      r.addFactory origin webpackParameters id factory) r

end Deminify.Bundle
