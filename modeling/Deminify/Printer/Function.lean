import Deminify.Printer.Basic

/-!
# Printing literals, functions, classes and properties

The parts that both statements and expressions are printed with.

* `Deminify.Printer.literal` – a literal as it was written, or from its value;
* `Deminify.Printer.statements`, `Deminify.Printer.block` – lists of statements;
* `Deminify.Printer.function`, `Deminify.Printer.class_`, `Deminify.Printer.method`;
* `Deminify.Printer.objectProperties` – the properties of objects and object patterns, one a line.
-/

namespace Deminify.Printer

/-! ### Literals -/

/-- The text of a value. -/
def valueText : Tree → String
  | .null => "null"
  | .bool b => if b then "true" else "false"
  | .str s => Text.quote s
  | .real x =>
    if x.isNaN then "NaN"
    else if x.isInfinite then (if x.negative then "-Infinity" else "Infinity")
    else x.text
  | other => other.display

/-- The text of a literal: as it was written if that is known. -/
def literal (t : Tree) : Printing String := do
  match t.get "raw" with
  | .null =>
    let regex := t.get "regex"
    if regex.truthy then
      let flags := ((regex.get "flags").str?).getD ""
      return "/" ++ (← regex.textField "pattern") ++ "/" ++ flags
    else return valueText (t.get "value")
  | .str raw => return raw
  | _ => throw (Failure.shape "the written form of a literal is no text")

/-! ### Blocks -/

/-- Prints statements, one a line. -/
def statementLines (go : Roles) : Option Tree → List Tree → Printing (List String)
  | _, [] => return []
  | previous, t :: rest => do
    let blank ← match previous with
      | some p => blankBetween p t
      | none => pure false
    let line := (← pad) ++ (← go .statement t)
    let lines ← statementLines go (some t) rest
    return (if blank then [""] else []) ++ line :: lines

/-- Prints a list of statements. -/
def statements (go : Roles) (body : List Tree) : Printing String :=
  return String.intercalate "\n" (← statementLines go none body)

/-- Prints the statements of a node between braces. -/
def block (go : Roles) (t : Tree) : Printing String := do
  let body ← t.listField "body"
  if body.isEmpty then return "\x7b\x7d"
  let inner ← deeper (statements go body)
  braced [inner]

/-! ### Functions -/

/-- Prints parameters. -/
def params (go : Roles) (params : List Tree) : Printing String :=
  return parenthesized (commas (← params.mapM (go .pattern)))

/-- Prints a function. -/
def function (go : Roles) (t : Tree) : Printing String := do
  let isGenerator := (t.get "generator").truthy
  let head := (if (t.get "async").truthy then "async " else "") ++ "function"
    ++ (if isGenerator then "*" else "")
  let name ← if (t.get "id").truthy then do pure (" " ++ (← (t.get "id").textField "name"))
    else pure ""
  let gap := if name.isEmpty && isGenerator then " " else ""
  let inputs ← params go (← t.listField "params")
  let body ← block go (← t.field "body")
  return head ++ gap ++ name ++ inputs ++ " " ++ body

/-- Prints an arrow function. -/
def arrow (go : Roles) (t : Tree) : Printing String := do
  let body ← t.field "body"
  let text ←
    if (← body.kindOf) == "BlockStatement" then block go body
    else do
      let text ← go (.expression 3) body
      let first ← body.leftmost
      pure (if (← first.kindOf) == "ObjectExpression" then parenthesized text else text)
  let inputs ← params go (← t.listField "params")
  return (if (t.get "async").truthy then "async " else "") ++ inputs ++ " => " ++ text

/-! ### Properties -/

/-- Prints the key of a property. -/
def propertyKey (go : Roles) (t : Tree) : Printing String := do
  let key ← t.field "key"
  if (t.get "computed").truthy then return "[" ++ (← go (.expression 3) key) ++ "]"
  else
    match ← key.kindOf with
    | "Identifier" => key.textField "name"
    | "PrivateIdentifier" => return "#" ++ (← key.textField "name")
    | _ => go (.expression 0) key

/-- Prints a method. -/
def method (go : Roles) (t : Tree) (kind : String) (isStatic : Bool) : Printing String := do
  let value ← t.field "value"
  let head := (if isStatic then "static " else "")
    ++ (if kind == "get" || kind == "set" then kind ++ " " else "")
    ++ (if (value.get "async").truthy then "async " else "")
    ++ (if (value.get "generator").truthy then "*" else "")
  let key ← propertyKey go t
  let inputs ← params go (← value.listField "params")
  let body ← block go (← value.field "body")
  return head ++ key ++ inputs ++ " " ++ body

/-- The kind of a property or method, when it says so. -/
def kindField (t : Tree) (standard : String) : String :=
  match t.get? "kind" with
  | some (.str kind) => kind
  | some _ => ""
  | none => standard

/-- Prints a property of an object. -/
def objectMember (go : Roles) (t : Tree) : Printing String := do
  let nodeKind ← t.kindOf
  if nodeKind == "SpreadElement" || nodeKind == "RestElement" then
    return "..." ++ (← go (.expression 3) (← t.field "argument"))
  let kind := kindField t "init"
  if kind == "get" || kind == "set" || (t.get "method").truthy then method go t kind false
  else
    let key ← t.field "key"
    let value ← t.field "value"
    if (t.get "shorthand").truthy && !(t.get "computed").truthy && key.isIdentifier then
      let name ← key.textField "name"
      if ← value.isNamed name then return name
    return (← propertyKey go t) ++ ": " ++ (← go (.expression 3) value)

/-- Prints a property of an object pattern. A name is written once if it is its own target. -/
def patternProperty (go : Roles) (t : Tree) : Printing String := do
  if (← t.kindOf) == "RestElement" then
    return "..." ++ (← go .pattern (← t.field "argument"))
  let key ← t.field "key"
  let value ← t.field "value"
  let computed := (t.get "computed").truthy
  if !computed && key.isIdentifier then
    let name ← key.textField "name"
    if ← value.isNamed name then return name
    if (← value.kindOf) == "AssignmentPattern" then
      if ← (← value.field "left").isNamed name then return ← go .pattern value
  if !computed && (← key.kindOf) == "Literal" && (key.get "raw").isNull then
    if let .str name := key.get "value" then
      if isIdentifierName name then return name ++ ": " ++ (← go .pattern value)
  return (← propertyKey go t) ++ ": " ++ (← go .pattern value)

/-- Prints properties one a line. The comma stands before a comment behind its property, which
would swallow it otherwise. -/
def propertyLines (print : Tree → Printing String) : List Tree → Printing (List String)
  | [] => return []
  | t :: rest => do
    let text ← print t
    let trailing ← trailingComments t true
    let line := (← pad) ++ (← leadingComments t true) ++ text
      ++ (if rest.isEmpty then "" else ",") ++ trailing
    return line :: (← propertyLines print rest)

/-- Prints the properties of an object or a pattern. -/
def objectProperties (go : Roles) (properties : List Tree) (isPattern : Bool) :
    Printing String := do
  if properties.isEmpty then return "\x7b\x7d"
  braced (← deeper (propertyLines (if isPattern then patternProperty go else objectMember go) properties))

/-! ### Classes -/

/-- Prints a member of a class. -/
def classMember (go : Roles) (t : Tree) : Printing String := do
  let comments ← leadingComments t true
  match ← t.kindOf with
  | "MethodDefinition" =>
    let kind := kindField t "method"
    let text ← method go t (if kind == "constructor" then "method" else kind)
      (t.get "static").truthy
    return comments ++ text
  | "PropertyDefinition" | "ClassProperty" =>
    let key ← propertyKey go t
    let value ← match t.get "value" with
      | .null => pure ""
      | value => do pure (" = " ++ (← go (.expression 3) value))
    return comments ++ (if (t.get "static").truthy then "static " else "") ++ key ++ value ++ ";"
  | "StaticBlock" => return comments ++ "static " ++ (← block go t)
  | other => throw (Failure.unprintable .classMember other)

/-- Prints a class. -/
def class_ (go : Roles) (t : Tree) : Printing String := do
  let name ← if (t.get "id").truthy then do pure (" " ++ (← (t.get "id").textField "name"))
    else pure ""
  let parent ← match t.get "superClass" with
    | .null => pure ""
    | parent => do pure (" extends " ++ (← go (.expression 19) parent))
  let head := "class" ++ name ++ parent
  let members ← (← t.field "body").listField "body"
  if members.isEmpty then return head ++ " \x7b\x7d"
  let lines ← deeper (members.mapM fun m => do
    let text ← classMember go m
    return (← pad) ++ text)
  return head ++ " " ++ (← braced lines)

end Deminify.Printer
