import Deminify.Printer.Expression

/-!
# Printing statements and programs

* `Deminify.Printer.statement` – a statement with its comments;
* `Deminify.Printer.roles` – **the printer of each role**, for nodes that nest so deeply;
* `Deminify.Tree.print` – the text of a program or of any other node.
-/

namespace Deminify.Printer

/-- Prints the body of a branch or a loop: a block stays on the line of its head. -/
def nested (go : Roles) (t : Tree) : Printing String := do
  match ← t.kindOf with
  | "BlockStatement" => return " " ++ (← go .statement t)
  | "EmptyStatement" => return ";"
  | _ => deeper do return "\n" ++ (← pad) ++ (← go .statement t)

/-- Prints an expression as a statement. -/
def expressionStatement (go : Roles) (t : Tree) : Printing String := do
  let e ← t.field "expression"
  if !(t.get "directive").isNull && (← e.kindOf) == "Literal" then return (← literal e) ++ ";"
  let text ← go (.expression 0) e
  let text := if (← e.startsAmbiguously) || startsWith text "let [" then parenthesized text else text
  return text ++ ";"

/-- Prints a `return`. An element of several lines goes between parentheses. -/
def returnStatement (go : Roles) (t : Tree) : Printing String := do
  match t.get "argument" with
  | .null => return "return;"
  | argument =>
    let kind ← argument.kindOf
    let isElement := kind == "JSXElement" || kind == "JSXFragment"
    let text ← if isElement then deeper (go (.expression 0) argument) else pure ""
    if isElement && hasChar text '\n' then
      return "return (\n" ++ (← padBy 1) ++ text ++ "\n" ++ (← pad) ++ ");"
    else return "return " ++ (← go (.expression 0) argument) ++ ";"

/-- Prints a jump to a label, if there is one. -/
def jump (word : String) (t : Tree) : Printing String := do
  let label := t.get "label"
  if label.truthy then return word ++ " " ++ (← label.textField "name") ++ ";" else return word ++ ";"

/-- Prints an `if`. -/
def ifStatement (go : Roles) (t : Tree) : Printing String := do
  let test ← go (.expression 0) (← t.field "test")
  let consequent ← t.field "consequent"
  let text := "if (" ++ test ++ ")" ++ (← nested go consequent)
  match t.get "alternate" with
  | .null => return text
  | alternate =>
    let gap ← if (← consequent.kindOf) == "BlockStatement" then pure " "
      else do pure ("\n" ++ (← pad))
    let rest ← if (← alternate.kindOf) == "IfStatement" then do
        pure (" " ++ (← go .statement alternate))
      else nested go alternate
    return text ++ gap ++ "else" ++ rest

/-- Prints the part of a loop's head that may declare. -/
def loopInit (go : Roles) (t : Tree) (noIn : Bool) : Printing String :=
  if t.isNull then pure ""
  else withNoIn noIn do
    if (← t.kindOf) == "VariableDeclaration" then declaration go t else go (.expression 0) t

/-- Prints a part of a loop's head, behind a blank if there is one. -/
def loopPart (go : Roles) (t : Tree) : Printing String := do
  if t.isNull then return ""
  let text ← go (.expression 0) t
  return if text.isEmpty then "" else " " ++ text

/-- Prints a loop over keys or items. -/
def loopOver (go : Roles) (t : Tree) (word middle : String) (least : Nat) : Printing String := do
  let left ← loopInit go (← t.field "left") false
  let right ← go (.expression least) (← t.field "right")
  return word ++ " (" ++ left ++ middle ++ right ++ ")" ++ (← nested go (← t.field "body"))

/-- Prints a `try`. -/
def tryStatement (go : Roles) (t : Tree) : Printing String := do
  let body ← block go (← t.field "block")
  let handler ← match t.get "handler" with
    | .null => pure ""
    | handler => do
      let param ← match handler.get "param" with
        | .null => pure ""
        | param => do pure (parenthesized (← go .pattern param) ++ " ")
      pure (" catch " ++ param ++ (← block go (← handler.field "body")))
  let finalizer ← match t.get "finalizer" with
    | .null => pure ""
    | finalizer => do pure (" finally " ++ (← block go finalizer))
  return "try " ++ body ++ handler ++ finalizer

/-- Prints a case of a `switch`. -/
def switchCase (go : Roles) (t : Tree) : Printing (List String) := do
  let head ← match t.get "test" with
    | .null => pure "default:"
    | test => do pure ("case " ++ (← go (.expression 0) test) ++ ":")
  let line := (← pad) ++ (← leadingComments t true) ++ head
  let body ← t.listField "consequent"
  if body.isEmpty then return [line]
  else return [line, ← deeper (statements go body)]

/-- Prints a `switch`. -/
def switchStatement (go : Roles) (t : Tree) : Printing String := do
  let head := "switch (" ++ (← go (.expression 0) (← t.field "discriminant")) ++ ") \x7b"
  let cases ← t.listField "cases"
  let lines ← deeper (cases.mapM (switchCase go))
  return String.intercalate "\n" (head :: lines.flatten ++ [(← pad) ++ "\x7d"])

/-! ### Imports and exports -/

/-- The name that a specifier has under a key. -/
def specifierName (t : Tree) (key : String) : Printing String := do
  (← t.field key).textField "name"

/-- Two names, joined by `as` unless they are the same. -/
def renamed (outer inner : String) : String :=
  if outer == inner then outer else outer ++ " as " ++ inner

/-- Sorts the specifiers of an import: those that stand alone, and those in braces. -/
def importParts : List Tree → Printing (List String × List String)
  | [] => return ([], [])
  | t :: rest => do
    let kind ← t.kindOf
    let inner ← if kind == "ImportDefaultSpecifier" || kind == "ImportNamespaceSpecifier" then
        pure ""
      else specifierName t "imported"
    let bound ← specifierName t "local"
    let (alone, named) ← importParts rest
    if kind == "ImportDefaultSpecifier" then return (bound :: alone, named)
    else if kind == "ImportNamespaceSpecifier" then return (("* as " ++ bound) :: alone, named)
    else return (alone, renamed inner bound :: named)

/-- Prints an import. -/
def importDeclaration (t : Tree) : Printing String := do
  let specifiers := (t.get "specifiers").items
  if specifiers.isEmpty then return "import " ++ (← literal (← t.field "source")) ++ ";"
  let (alone, named) ← importParts specifiers
  let parts := if named.isEmpty then alone else alone ++ ["\x7b " ++ commas named ++ " \x7d"]
  return "import " ++ commas parts ++ " from " ++ (← literal (← t.field "source")) ++ ";"

/-- Prints an export by name. -/
def exportNamed (go : Roles) (t : Tree) : Printing String := do
  match t.get "declaration" with
  | .null =>
    let names ← (t.get "specifiers").items.mapM fun s => do
      let inner ← specifierName s "local"
      return renamed inner (← specifierName s "exported")
    let list := if names.isEmpty then "\x7b\x7d" else "\x7b " ++ commas names ++ " \x7d"
    let source ← if (t.get "source").isNull then pure ""
      else do pure (" from " ++ (← literal (← t.field "source")))
    return "export " ++ list ++ source ++ ";"
  | declaration => return "export " ++ (← go .statement declaration)

/-- Prints a default export. -/
def exportDefault (go : Roles) (t : Tree) : Printing String := do
  let value ← t.field "declaration"
  let kind ← value.kindOf
  if kind == "FunctionDeclaration" || kind == "ClassDeclaration" then
    return "export default " ++ (← go .statement value)
  let text ← go (.expression 3) value
  let ambiguous ← value.startsAmbiguously
  let isFunction := kind == "FunctionExpression" || kind == "ClassExpression"
  let text := if ambiguous && !isFunction then parenthesized text else text
  return "export default " ++ text ++ ";"

/-- Prints an export of everything. -/
def exportAll (t : Tree) : Printing String := do
  let exported := t.get "exported"
  let alias_ ← if exported.truthy then do pure (" as " ++ (← exported.textField "name"))
    else pure ""
  return "export *" ++ alias_ ++ " from " ++ (← literal (← t.field "source")) ++ ";"

/-! ### By kind -/

/-- Prints a statement without its comments. -/
def statementText (go : Roles) (t : Tree) : Printing String := do
  match ← t.kindOf with
  | "ExpressionStatement" | "Directive" => expressionStatement go t
  | "BlockStatement" => block go t
  | "StaticBlock" => return "static " ++ (← block go t)
  | "EmptyStatement" => return ";"
  | "DebuggerStatement" => return "debugger;"
  | "VariableDeclaration" => return (← declaration go t) ++ ";"
  | "FunctionDeclaration" => function go t
  | "ClassDeclaration" => class_ go t
  | "ReturnStatement" => returnStatement go t
  | "ThrowStatement" => return "throw " ++ (← go (.expression 0) (← t.field "argument")) ++ ";"
  | "BreakStatement" => jump "break" t
  | "ContinueStatement" => jump "continue" t
  | "LabeledStatement" =>
    let label ← (← t.field "label").textField "name"
    return label ++ ": " ++ (← go .statement (← t.field "body"))
  | "IfStatement" => ifStatement go t
  | "ForStatement" =>
    let init ← loopInit go (t.get "init") true
    let test ← loopPart go (t.get "test")
    let update ← loopPart go (t.get "update")
    return "for (" ++ init ++ ";" ++ test ++ ";" ++ update ++ ")"
      ++ (← nested go (← t.field "body"))
  | "ForInStatement" => loopOver go t "for" " in " 0
  | "ForOfStatement" =>
    loopOver go t (if (t.get "await").truthy then "for await" else "for") " of " 3
  | "WhileStatement" =>
    let test ← go (.expression 0) (← t.field "test")
    return "while (" ++ test ++ ")" ++ (← nested go (← t.field "body"))
  | "DoWhileStatement" =>
    let body ← t.field "body"
    let text ← nested go body
    let gap ← if (← body.kindOf) == "BlockStatement" then pure " " else do pure ("\n" ++ (← pad))
    return "do" ++ text ++ gap ++ "while (" ++ (← go (.expression 0) (← t.field "test")) ++ ");"
  | "WithStatement" =>
    let object ← go (.expression 0) (← t.field "object")
    return "with (" ++ object ++ ")" ++ (← nested go (← t.field "body"))
  | "TryStatement" => tryStatement go t
  | "SwitchStatement" => switchStatement go t
  | "ImportDeclaration" => importDeclaration t
  | "ExportNamedDeclaration" => exportNamed go t
  | "ExportDefaultDeclaration" => exportDefault go t
  | "ExportAllDeclaration" => exportAll t
  | other => throw (Failure.unprintable .statement other)

/-- Prints a statement with its comments. -/
def statement (go : Roles) (t : Tree) : Printing String := do
  let text ← statementText go t
  return (← leadingComments t true) ++ text ++ (← trailingComments t true)

/-- **The printer of each role**, for nodes that nest at most so many levels. -/
def roles : Nat → Roles
  | 0 => fun _ _ => throw (Failure.shape "the tree is too deep")
  | levels + 1 => fun role t =>
    match role with
    | .statement => statement (roles levels) t
    | .expression least => expression (roles levels) least t
    | .pattern => pattern (roles levels) t

/-- Prints a program: its statements, then the comments that no node has taken. -/
def program (go : Roles) (t : Tree) : Printing String := do
  let body ← statements go (← t.listField "body")
  let comments ← (commentsOf t "trailingComments").mapM fun c => do
    let isLine ← isLineComment c
    let value ← c.textField "value"
    return (if isLine then "//" ++ value else "/*" ++ value ++ "*/") ++ "\n"
  return body ++ (if body.isEmpty then "" else "\n") ++ String.join comments

end Deminify.Printer

namespace Deminify

/-- Prints any node in the role that fits its kind. -/
def Printer.node (t : Tree) : Printing String := do
  -- an expression and the pattern it is printed as are two steps at one node
  let go := Printer.roles (3 * t.height + 3)
  let kind ← t.kindOf
  if kind == "Program" then Printer.program go t
  else if kind.endsWith "Statement" || kind.endsWith "Declaration" then go .statement t
  else go (.expression 0) t

/-- The text of a program or of any other node. With the text it was read from, blank lines between
statements are kept. -/
def Tree.print (t : Tree) (source : Option String) : Except Failure String :=
  (Printer.node t).run ⟨0, false, source.map Source.ofString⟩

end Deminify
