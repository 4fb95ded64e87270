import Deminify.Printer.Function

/-!
# Printing expressions and patterns

* `Deminify.Printer.expressionText` – an expression by its kind, without parentheses around it;
* `Deminify.Printer.expression` – an expression that must bind at least so tightly, with its
  comments;
* `Deminify.Printer.pattern` – a pattern.
-/

namespace Deminify.Printer

/-! ### Elements -/

/-- The name of an element, `fuel` accesses deep at most. -/
def tagNameWithin : Nat → Tree → Printing String
  | 0, _ => throw (Failure.shape "the name of an element is too deep")
  | fuel + 1, t => do
    match ← t.kindOf with
    | "JSXIdentifier" => t.textField "name"
    | "JSXMemberExpression" =>
      let object ← tagNameWithin fuel (← t.field "object")
      return object ++ "." ++ (← tagNameWithin fuel (← t.field "property"))
    | "JSXNamespacedName" =>
      let space ← tagNameWithin fuel (← t.field "namespace")
      return space ++ ":" ++ (← tagNameWithin fuel (← t.field "name"))
    | other => throw (Failure.unprintable .tagName other)

/-- The name of an element. -/
def tagName (t : Tree) : Printing String := tagNameWithin t.height t

/-- Prints an attribute. -/
def tagAttribute (go : Roles) (t : Tree) : Printing String := do
  if (← t.kindOf) == "JSXSpreadAttribute" then
    return "\x7b..." ++ (← go (.expression 3) (← t.field "argument")) ++ "\x7d"
  let name ← tagName (← t.field "name")
  match t.get "value" with
  | .null => return name
  | value =>
    if (← value.kindOf) == "Literal" then return name ++ "=" ++ (← literal value)
    else return name ++ "=" ++ (← go (.expression 0) value)

/-- Prints children. If one of them asks for it, each goes on a line of its own. -/
def tagChildren (go : Roles) (children : List Tree) : Printing String := do
  let isBreak (t : Tree) : Bool := (t.get "synthetic").truthy
  if children.any isBreak then
    let lines ← deeper ((children.filter (!isBreak ·)).mapM fun c => do
      return (← pad) ++ (← go (.expression 0) c))
    return "\n" ++ String.intercalate "\n" lines ++ "\n" ++ (← pad)
  else return String.join (← children.mapM (go (.expression 0)))

/-- Prints an element. -/
def element (go : Roles) (t : Tree) : Printing String := do
  let opening ← t.field "openingElement"
  let name ← tagName (← opening.field "name")
  let attributes ← (opening.get "attributes").items.mapM fun a => do
    return " " ++ (← tagAttribute go a)
  let head := "<" ++ name ++ String.join attributes
  let closing := t.get "closingElement"
  if (opening.get "selfClosing").truthy || closing.isNull then return head ++ " />"
  let closingName ← tagName (← closing.field "name")
  let children ← tagChildren go (t.get "children").items
  return head ++ ">" ++ children ++ "</" ++ closingName ++ ">"

/-- Prints an expression between braces. -/
def container (go : Roles) (t : Tree) : Printing String := do
  let inner ← t.field "expression"
  if (← inner.kindOf) == "JSXEmptyExpression" then
    return "\x7b" ++ Text.stripEnd (← leadingComments inner false) ++ "\x7d"
  else return "\x7b" ++ (← go (.expression 0) inner) ++ "\x7d"

/-! ### Operators -/

/-- Whether a text starts with another. -/
def startsWith (text start : String) : Bool := start.toList.isPrefixOf text.toList

/-- Prints an operator in front of its operand. -/
def unary (go : Roles) (t : Tree) : Printing String := do
  let operator ← t.textField "operator"
  let argument ← go (.expression 17) (← t.field "argument")
  let isWord := ["typeof", "void", "delete"].contains operator
  let isDoubled := (operator == "+" || operator == "-") && startsWith argument operator
  return operator ++ (if isWord || isDoubled then " " else "") ++ argument

/-- Prints an operand. Where `??` meets another logical operator it needs parentheses. -/
def operand (go : Roles) (operator : String) (t : Tree) (least : Nat) : Printing String := do
  let mixes ← if (← t.kindOf) == "LogicalExpression" then do
      pure ((operator == "??") != ((← t.textField "operator") == "??"))
    else pure false
  if mixes then return parenthesized (← go (.expression 0) t) else go (.expression least) t

/-- Prints an operator between its operands; a power groups to the right. -/
def binary (go : Roles) (t : Tree) : Printing String := do
  let level ← t.operatorLevel
  let operator ← t.textField "operator"
  let left ← t.field "left"
  if operator == "**" then
    let kind ← left.kindOf
    let least := if kind == "UnaryExpression" || kind == "AwaitExpression" then 18 else level + 1
    let leftText ← operand go operator left least
    let rightText ← operand go operator (← t.field "right") level
    return leftText ++ " " ++ operator ++ " " ++ rightText
  else
    let leftText ← operand go operator left level
    let rightText ← operand go operator (← t.field "right") (level + 1)
    return leftText ++ " " ++ operator ++ " " ++ rightText

/-! ### Calls and accesses -/

/-- Prints arguments. -/
def arguments (go : Roles) (args : List Tree) : Printing String :=
  return parenthesized (commas (← args.mapM (go (.expression 3))))

/-- Prints a call. -/
def call (go : Roles) (t : Tree) : Printing String := do
  let callee ← t.field "callee"
  let text ← if (← callee.kindOf) == "SequenceExpression" then
      parenthesized <$> go (.expression 0) callee
    else go (.expression 19) callee
  return text ++ (← arguments go (← t.listField "arguments"))

/-- The object at the start of a chain of accesses, `fuel` accesses long at most. -/
def chainStart : Nat → Tree → Printing Tree
  | 0, t => return t
  | fuel + 1, t => do
    if (← t.kindOf) == "MemberExpression" then chainStart fuel (← t.field "object") else return t

/-- Prints `new`. A call inside what it applies to needs parentheses. -/
def newCall (go : Roles) (t : Tree) : Printing String := do
  let callee ← t.field "callee"
  let first ← chainStart callee.height callee
  let isCall := (← first.kindOf) == "CallExpression"
  let text ← go (.expression 19) callee
  let text := if isCall && !startsWith text "(" then parenthesized text else text
  return "new " ++ text ++ (← arguments go (t.get "arguments").items)

/-- Whether a text consists of digits. -/
def isDigits (text : String) : Bool := !text.isEmpty && text.toList.all Text.isDigit

/-- Prints an access. A whole number in front of a point needs parentheses. -/
def member (go : Roles) (t : Tree) : Printing String := do
  let object ← t.field "object"
  let text ← go (.expression 19) object
  let isNumber := (← object.kindOf) == "Literal" && ((object.get "raw").str?).any isDigits
  let text := if isNumber then parenthesized text else text
  if (t.get "computed").truthy then
    return text ++ "[" ++ (← go (.expression 0) (← t.field "property")) ++ "]"
  else return text ++ "." ++ (← (← t.field "property").textField "name")

/-! ### Arrays and templates -/

/-- Prints the items of an array; a hole is empty, and one at the end needs a comma. -/
def arrayItems (print : Tree → Printing String) (items : List Tree) : Printing String := do
  let texts ← items.mapM fun t => if t.isNull then pure "" else print t
  let ending := if items.getLast?.any Tree.isNull then "," else ""
  return "[" ++ commas texts ++ ending ++ "]"

/-- Prints the stretches and the holes of a template in turn. -/
def templateParts (go : Roles) : List Tree → List Tree → Printing (List String)
  | [], _ => return []
  | quasi :: quasis, holes => do
    let raw ← (← quasi.field "value").textField "raw"
    match holes with
    | [] => return raw :: (← templateParts go quasis [])
    | hole :: rest =>
      let text ← go (.expression 0) hole
      return raw :: "$\x7b" :: text :: "\x7d" :: (← templateParts go quasis rest)

/-- Prints a template. -/
def template (go : Roles) (t : Tree) : Printing String := do
  let holes ← t.listField "expressions"
  let parts ← templateParts go (← t.listField "quasis") holes
  return "\x60" ++ String.join parts ++ "\x60"

/-! ### By kind -/

/-- Prints an expression without parentheses around it. -/
def expressionText (go : Roles) (t : Tree) : Printing String := do
  match ← t.kindOf with
  | "Literal" => literal t
  | "Identifier" => t.textField "name"
  | "ThisExpression" => return "this"
  | "Super" => return "super"
  | "Import" => return "import"
  | "MetaProperty" =>
    let left ← (← t.field "meta").textField "name"
    return left ++ "." ++ (← (← t.field "property").textField "name")
  | "TemplateLiteral" => template go t
  | "TaggedTemplateExpression" =>
    let tag ← go (.expression 19) (← t.field "tag")
    return tag ++ (← template go (← t.field "quasi"))
  | "ArrayExpression" => arrayItems (go (.expression 3)) (← t.listField "elements")
  | "ObjectExpression" => objectProperties go (← t.listField "properties") false
  | "FunctionExpression" => function go t
  | "ArrowFunctionExpression" => arrow go t
  | "ClassExpression" => class_ go t
  | "SequenceExpression" =>
    return commas (← (← t.listField "expressions").mapM (go (.expression 3)))
  | "UnaryExpression" => unary go t
  | "UpdateExpression" =>
    let argument ← go (.expression 18) (← t.field "argument")
    if (← t.field "prefix").truthy then return (← t.textField "operator") ++ argument
    else return argument ++ (← t.textField "operator")
  | "BinaryExpression" | "LogicalExpression" => binary go t
  | "AssignmentExpression" =>
    let left ← go .pattern (← t.field "left")
    let operator ← t.textField "operator"
    return left ++ " " ++ operator ++ " " ++ (← go (.expression 3) (← t.field "right"))
  | "ConditionalExpression" =>
    let test ← go (.expression 5) (← t.field "test")
    let consequent ← go (.expression 3) (← t.field "consequent")
    return test ++ " ? " ++ consequent ++ " : " ++ (← go (.expression 3) (← t.field "alternate"))
  | "CallExpression" => call go t
  | "NewExpression" => newCall go t
  | "MemberExpression" => member go t
  | "SpreadElement" => return "..." ++ (← go (.expression 3) (← t.field "argument"))
  | "AwaitExpression" => return "await " ++ (← go (.expression 17) (← t.field "argument"))
  | "YieldExpression" =>
    let word := if (t.get "delegate").truthy then "yield*" else "yield"
    match t.get "argument" with
    | .null => return word
    | argument => return word ++ " " ++ (← go (.expression 3) argument)
  | "ObjectPattern" | "ArrayPattern" | "AssignmentPattern" | "RestElement" => go .pattern t
  | "JSXElement" => element go t
  | "JSXFragment" => return "<>" ++ (← tagChildren go (t.get "children").items) ++ "</>"
  | "JSXText" =>
    match t.get "raw" with
    | .null => t.textField "value"
    | _ => t.textField "raw"
  | "JSXExpressionContainer" => container go t
  | "JSXSpreadChild" =>
    return "\x7b..." ++ (← go (.expression 0) (← t.field "expression")) ++ "\x7d"
  | other => throw (Failure.unprintable .expression other)

/-- Prints an expression that must bind at least so tightly, with its comments. A bare `in` gets
parentheses where it would be misread. -/
def expression (go : Roles) (least : Nat) (t : Tree) : Printing String := do
  let isIn ← if (← read).noIn && (← t.kindOf) == "BinaryExpression" then do
      pure ((← t.textField "operator") == "in")
    else pure false
  let text ←
    if isIn then parenthesized <$> withNoIn false (expressionText go t)
    else do
      let text ← expressionText go t
      pure (if (← t.precedence) < least then parenthesized text else text)
  return (← leadingComments t false) ++ text ++ (← trailingComments t false)

/-- Prints the declarators of a declaration behind its keyword. -/
def declaration (go : Roles) (t : Tree) : Printing String := do
  let texts ← (← t.listField "declarations").mapM fun d => do
    let target ← go .pattern (← d.field "id")
    let init ← match d.get "init" with
      | .null => pure ""
      | init => do pure (" = " ++ (← go (.expression 3) init))
    return (← leadingComments d false) ++ target ++ init
  return (← t.textField "kind") ++ " " ++ commas texts

/-- Prints a pattern. -/
def pattern (go : Roles) (t : Tree) : Printing String := do
  match ← t.kindOf with
  | "ObjectPattern" => objectProperties go (← t.listField "properties") true
  | "ArrayPattern" => arrayItems (go .pattern) (← t.listField "elements")
  | "AssignmentPattern" =>
    let left ← go .pattern (← t.field "left")
    return left ++ " = " ++ (← go (.expression 3) (← t.field "right"))
  | "RestElement" => return "..." ++ (← go .pattern (← t.field "argument"))
  | "VariableDeclaration" => declaration go t
  | _ => go (.expression 3) t

end Deminify.Printer
