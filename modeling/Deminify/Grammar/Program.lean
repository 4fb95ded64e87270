import Deminify.Grammar.Statement

/-!
# Programs

Imports and exports, the items of a program, and the whole program. **The rules refer to each other
through `Deminify.Grammar.rules`**, which allows a bounded number of levels: a text that nests more
deeply is refused.

* `Deminify.Grammar.importDeclaration`, `Deminify.Grammar.exportDeclaration`;
* `Deminify.Grammar.item` – a statement, a declaration, an import or an export;
* `Deminify.Grammar.program` – a program as a script or as a module.
-/

namespace Deminify.Grammar

/-! ### Imports -/

/-- Reads the text that names a module. -/
def moduleSpecifier : Grammar Tree := do
  let start ← here
  unless ← seesType .string do fail "Unexpected token"
  literalNode start (← next)

/-- The error of a token in the place of another word. -/
def wrongWord {α : Type} : Grammar α := do
  let t := (← get).ahead
  if t.value == "" || (t.type == .number && !(Tree.ofNumber t.number).truthy) then fail "Unexpected token"
  else fail s!"Unexpected token {t.value}"

/-- Takes `from`, which must be ahead. -/
def expectFrom : Grammar Unit := do
  unless ← seesName "from" do wrongWord
  skip

/-- Reads one name of an import. -/
def importSpecifier : Grammar Tree := do
  let start ← here
  let isName ← seesType .name
  let imported ← if isName then variableName "" else wordName
  let bound ←
    if ← seesName "as" then do
      skip
      variableName ""
    else if isName then pure imported
    else unexpected (← next)
  finish start "ImportSpecifier" [("local", bound), ("imported", imported)]

/-- Reads the names of an import in braces. -/
def namedImports : Grammar (List Tree) := do
  expect "\x7b"
  let specifiers ← separatedUntil "\x7d" importSpecifier
  expect "\x7d"
  return specifiers

/-- Reads the name for a whole module. -/
def namespaceImport : Grammar Tree := do
  let start ← here
  expect "*"
  unless ← seesName "as" do fail "Unexpected token"
  skip
  let bound ← wordName
  finish start "ImportNamespaceSpecifier" [("local", bound)]

/-- Reads the name for the default of a module. -/
def defaultImport : Grammar Tree := do
  let start ← here
  let bound ← wordName
  finish start "ImportDefaultSpecifier" [("local", bound)]

/-- Reads what an import binds. -/
def importClause : Grammar (List Tree) := do
  if ← sees "\x7b" then namedImports
  else if ← sees "*" then return [← namespaceImport]
  else if isWord (← get).ahead && !(← seesKeyword "default") then
    let first ← defaultImport
    if ← accept "," then
      if ← sees "*" then return [first, ← namespaceImport]
      else if ← sees "\x7b" then return first :: (← namedImports)
      else unexpectedAhead
    else return [first]
  else unexpected (← next)

/-- Reads an import. -/
def importDeclaration : Grammar Tree := do
  if (← setting).inFunctionBody then fail "Unexpected token"
  let start ← here
  expectKeyword "import"
  let specifiers ← if ← seesType .string then pure []
    else do
      let specifiers ← importClause
      expectFrom
      pure specifiers
  let source ← moduleSpecifier
  endStatement
  finish start "ImportDeclaration" [("specifiers", .list specifiers), ("source", source)]

/-! ### Exports -/

/-- Reads one name of an export. -/
def exportSpecifier : Grammar Tree := do
  let start ← here
  let inner ← wordName
  let exported ← if ← seesName "as" then do skip; wordName else pure inner
  finish start "ExportSpecifier" [("exported", exported), ("local", inner)]

/-- Reads the name of an export that stands without braces. -/
def bareExportSpecifier : Grammar Tree := do
  let start ← here
  let inner ← wordName
  finish start "ExportDefaultSpecifier" [("local", inner)]

/-- Reads the value of a default export. -/
def defaultValue (go : Rules) : Grammar Tree := do
  if ← seesKeyword "function" then functionDeclaration go true
  else if ← seesKeyword "class" then classDeclaration go true
  else if ← seesName "async" then
    if ← seesAsyncFunction then functionDeclaration go true else go .assignment
  else
    if ← seesName "from" then fail "Unexpected token from"
    let value ← if ← sees "\x7b" then objectLiteral go
      else if ← sees "[" then arrayLiteral go
      else go .assignment
    endStatement
    return value

/-- The node of an export by name. -/
def exportNode (start : Nat) (declaration : Tree) (specifiers : List Tree) (source : Tree) :
    Grammar Tree :=
  finish start "ExportNamedDeclaration" [("declaration", declaration),
    ("specifiers", .list specifiers), ("source", source)]

/-- Reads the names of an export in braces, and for each whether it is the word for the default. -/
def bracedExports : Grammar (List (Tree × Bool)) := do
  expect "\x7b"
  let specifiers ← separatedUntil "\x7d" do
    let isDefault ← seesKeyword "default"
    return (← exportSpecifier, isDefault)
  expect "\x7d"
  return specifiers

/-- Reads an export of names: one without braces, a list in braces, or both. The word for the default
needs a module that it comes from. -/
def namedExports (start : Nat) : Grammar Tree := do
  let specifiers ←
    if ← seesType .name then do
      let bare ← bareExportSpecifier
      let more ← if ← accept "," then bracedExports else pure []
      pure ((bare, false) :: more)
    else bracedExports
  let source ←
    if ← seesName "from" then do
      skip
      let source ← moduleSpecifier
      endStatement
      pure source
    else do
      if specifiers.any (·.2) then wrongWord
      endStatement
      pure .null
  exportNode start .null (specifiers.map (·.1)) source

/-- Reads a declaration that is exported. -/
def exportedDeclaration (go : Rules) : Grammar Tree := do
  let token := (← get).ahead
  if ["let", "const"].contains token.value then lexicalDeclaration go
  else if ["var", "class", "function"].contains token.value then go .item
  else unexpected token

/-- Reads an export. -/
def exportDeclaration (go : Rules) : Grammar Tree := do
  if (← setting).inFunctionBody then fail "Unexpected token"
  let start ← here
  expectKeyword "export"
  if ← seesKeyword "default" then
    skip
    let value ← defaultValue go
    finish start "ExportDefaultDeclaration" [("declaration", value)]
  else if ← accept "*" then
    expectFrom
    let source ← moduleSpecifier
    endStatement
    finish start "ExportAllDeclaration" [("source", source)]
  else if ← seesType .keyword then
    let declaration ← exportedDeclaration go
    exportNode start declaration [] .null
  else if ← seesAsyncFunction then
    let declaration ← functionDeclaration go false
    exportNode start declaration [] .null
  else namedExports start

/-! ### The whole grammar -/

/-- Reads an item of a list of statements. -/
def item (go : Rules) : Grammar Tree := do
  adjust fun s => { s with isTarget := true, isBinding := true }
  let token := (← get).ahead
  if token.type == .keyword then
    match token.value with
    | "export" =>
      unless (← setting).isModule do failAt token "Unexpected token"
      exportDeclaration go
    | "import" =>
      if ← seesImportCall then expressionStatement go
      else
        unless (← setting).isModule do failAt token "Unexpected token"
        importDeclaration
    | "const" => lexicalDeclaration go
    | "function" => functionDeclaration go false
    | "class" => classDeclaration go false
    | "let" => if ← startsDeclaration then lexicalDeclaration go else statement go
    | _ => statement go
  else statement go

/-- The rules one level above the given ones. -/
def ruleAbove (go : Rules) : Rules
  | .assignment => assignment go
  | .exponent => exponent go
  | .unary => unary go
  | .call => callExpression go
  | .callee => callee go
  | .pattern kind => pattern go kind
  | .statement => statement go
  | .item => item go
  | .element => element go

/-- **The rules of the grammar**, for texts that nest at most so many levels. -/
def rules : Nat → Rules
  | 0 => fun _ => throw SyntaxError.tooDeep
  | levels + 1 => ruleAbove (rules levels)

/-- How deeply a text may nest. -/
def levelLimit : Nat := 600

/-- Reads a program up to the end of its text. -/
def program (isModule : Bool) : Grammar Tree := do
  -- the first token is read before it is settled what the text is
  discard next
  modify fun s => { s with last := s.cursor.marker }
  if isModule then adjust fun s => { s with isModule := true, strict := true }
  let start ← here
  let go := rules levelLimit
  let prologue ← directives go
  let body ← many do
    if ← seesType .stop then return none
    return some (← go .item)
  finish start "Program" [("sourceType", .str (if isModule then "module" else "script")),
    ("body", .list (prologue ++ body))]

/-- How reading starts. -/
def beginning (src : Source) : Reading :=
  let cursor := Cursor.start src
  { cursor
    ahead := { type := .stop, value := "", line := cursor.line, lineStart := 0, start := 0,
               stop := 0 }
    afterLineEnd := false
    last := ⟨0, cursor.line, 0⟩
    start := ⟨0, cursor.line, 0⟩
    setting := {}
    comments := #[]
    bound := #[] }

/-- Reads a text as a script or as a module: the program and its comments. -/
def readProgram (src : Source) (isModule : Bool) : Except SyntaxError (Tree × List Comment) := do
  let (tree, reading) ← ((program isModule).run src).run (beginning src)
  return (tree, reading.comments.toList)

end Deminify.Grammar
