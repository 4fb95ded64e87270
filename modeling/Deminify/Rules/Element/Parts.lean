import Deminify.Rule.Context
import Deminify.Rules.Element.Basic

/-!
# Attributes and children

The properties of an element become attributes, in order: a property with a fixed name becomes an
attribute of that name, a spread a spread of attributes, and what has no name is spread as an object
of its own. Arguments that are children become text where text says the same, and expressions in
braces otherwise; children that show nothing are left out.

* `Deminify.Rules.Element.attributesOf` – the attributes of a properties argument;
* `Deminify.Rules.Element.childOf?` – **the child that an expression makes**, if it shows anything;
* `Deminify.Rules.Element.laidOut` – children on lines of their own.
-/

namespace Deminify.Rules.Element

/-! ### Attributes -/

/-- The attribute name of a property. -/
def attributeName? (property : Tree) : Editing (Option String) := do
  if (property.get "computed").truthy then return none
  let key ← property.field "key"
  if key.isIdentifier then return some (← key.textField "name")
  return if key.isStringLiteral then ((key.get "value").str?).filter isTagName else none

/-- Whether a text literal can stand between quotes in a tag, where nothing is escaped. -/
def isPlainText (literal : Tree) : Bool :=
  let raw := ((literal.get "raw").str?).getD ""
  let value := ((literal.get "value").str?).getD ""
  !raw.toList.contains '\\' && !value.toList.contains '"' && !holdsEntity value

/-- The value of an attribute; null stands for true. -/
def attributeValue (property value : Tree) : Tree :=
  if (property.get "method").truthy then Tree.tagContainer value
  else if value.isTrueLiteral then .null
  else if value.isStringLiteral && isPlainText value then value
  else Tree.tagContainer value

/-- The attribute of a property. Accessors and patterns have none, which is reported. -/
def attributeOf? (property : Tree) : Editing (Option Tree) := do
  if (← property.kindOf) == "SpreadElement" then
    return some (Tree.tagSpread (← property.field "argument"))
  let kind := match property.get? "kind" with
    | some (.str kind) => kind
    | _ => "init"
  if kind == "get" || kind == "set" then
    Editing.report s!"Unsupported {kind}ter attribute dropped" "warning" (some property)
    return none
  let value ← property.field "value"
  if Tree.isPatternKind (← value.kindOf) then
    Editing.report "Unsupported pattern attribute dropped" "warning" (some property)
    return none
  match ← attributeName? property with
  | none =>
    let single := property.withoutComments.relabel 0
    return some (Tree.tagSpread (Tree.objectExpression [single]))
  | some name => return some (Tree.tagAttribute (tagName name) (attributeValue property value))

/-- Whether a callee copies properties: `x.__spread` or `Object.assign`. -/
def isSpreadHelper (callee : Tree) : Editing Bool := do
  if ← callee.isMemberOf none (some "__spread") then return true
  callee.isMemberOf (some "Object") (some "assign")

/-- The attributes of a properties argument; calls nest `fuel` levels at most. -/
def attributesWithin : Nat → Tree → Editing (List Tree)
  | 0, _ => return []
  | fuel + 1, props => do
    if props.isNullLiteral then return []
    match ← props.kindOf with
    | "CallExpression" =>
      if ← isSpreadHelper (← props.field "callee") then
        return (← (← props.listField "arguments").mapM (attributesWithin fuel)).flatten
      else return [Tree.tagSpread props]
    | "ObjectExpression" => (← props.listField "properties").filterMapM attributeOf?
    | "SpreadElement" => attributesWithin fuel (← props.field "argument")
    | _ => return [Tree.tagSpread props]

/-- The attributes of a properties argument. -/
def attributesOf (props : Tree) : Editing (List Tree) := attributesWithin props.height props

/-- Whether an attribute holds the children. -/
def isChildren (t : Tree) : Bool :=
  let name := t.get "name"
  t.isKind "JSXAttribute" && name.isKind "JSXIdentifier"
    && (name.get "name").str? == some "children"

/-! ### Children -/

/-- Whether a text can stand between tags and reads back as it is. -/
def isChildText (s : String) : Bool :=
  let isSpecial (c : Char) : Bool :=
    c == '\x7b' || c == '\x7d' || c == '<' || c == '>' || c == '\r' || c == '\n'
  !s.isEmpty && !s.toList.any isSpecial && s == Text.strip s && !holdsEntity s

/-- Whether an expression shows nothing as a child. -/
def isBlankChild (t : Tree) : Editing Bool := do
  if ← t.isUndefined then return true
  return t.isBooleanLiteral || t.isNullLiteral || t.isKind "RestElement"

/-- The child that an expression makes, if it shows anything; braces nest `fuel` levels at most. -/
def childWithin : Nat → Tree → Editing (Option Tree)
  | 0, _ => return none
  | fuel + 1, t => do
    let kind ← t.kindOf
    if kind == "JSXExpressionContainer" then
      let expression ← t.field "expression"
      if (← expression.kindOf) == "JSXEmptyExpression" then return none
      else childWithin fuel expression
    else if Tree.isElementChildKind kind then return some t
    else if ← isBlankChild t then return none
    else
      match t.isStringLiteral, t.get "value" with
      | true, .str s =>
        return some (if isChildText s then Tree.tagText s else Tree.tagContainer t)
      | _, _ =>
        if kind == "SpreadElement" then return some (Tree.tagSpreadChild (← t.field "argument"))
        else return some (Tree.tagContainer t)

/-- The child that an expression makes, if it shows anything. -/
def childOf? (t : Tree) : Editing (Option Tree) := childWithin t.height t

/-- The children that an attribute holds: those of an array, or one. -/
def childrenOf (t : Tree) : Editing (List Tree) := do
  let value := t.get "value"
  if value.isNull then return []
  if (← value.kindOf) == "JSXExpressionContainer" then
    let expression ← value.field "expression"
    if (← expression.kindOf) == "ArrayExpression" then
      return ← ((← expression.listField "elements").filter (!·.isNull)).filterMapM childOf?
  return (← childOf? value).toList

/-- The children with line breaks around each, unless there is only a text. -/
def laidOut (children : List Tree) : List Tree :=
  match children with
  | [] => []
  | [child] =>
    if child.isKind "JSXText" then [child] else [Tree.tagLineBreak, child, Tree.tagLineBreak]
  | children => Tree.tagLineBreak :: children.flatMap fun child => [child, Tree.tagLineBreak]

end Deminify.Rules.Element
