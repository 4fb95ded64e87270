import Deminify.Rule.Params
import Deminify.Tree.Build
import Deminify.Tree.Walk

/-!
# Element factories

A compiler turns elements into calls of a factory: `createElement(type, props, …children)`, or
`jsx(type, props, key)` with the children among the properties. This module says which calls these
are, and which types and texts can be written as they are inside a tag.

* `Deminify.Rules.Element.Options`, `Deminify.Rules.Element.Factories` – the names to look for;
* `Deminify.Rules.Element.Factories.called?` – **the factory that a callee names**;
* `Deminify.Rules.Element.tagOf?` – the tag of an element type.
-/

namespace Deminify.Rules.Element

/-- What the caller says about factories: the factory and the fragment to look for, and the objects
whose methods are no factories. -/
structure Options where
  pragma : Option String := none
  fragment : Option String := none
  hostObjects : List String := ["document"]

/-- The options from the parameters of a run. -/
def Options.ofParams (params : Params) : Except Failure Options :=
  let optionalText (names : List String) :=
    Setting.orDefault none (Setting.optional Setting.text) (params.find? names)
  let hosts := Setting.orDefault ["document"] Setting.texts
    (params.find? ["hostObjects", "host_objects"])
  Params.check "JsxOptions" (Checked.apply (Checked.apply
    (Options.mk <$> optionalText ["pragma"]) (optionalText ["pragmaFrag", "pragma_frag"])) hosts)

/-- The names to look for. -/
structure Factories where
  pragmas : List String
  fragments : List String
  hostObjects : List String

/-- The part of a name behind its last point, or the default names if there is no name. -/
def narrow (name : Option String) (default : List String) : List String :=
  match name with
  | none => default
  | some "" => default
  | some name => [((name.splitOn ".").getLast?).getD name]

/-- The factories that take the children among the properties and a key behind them. -/
def automaticPragmas : List String := ["jsx", "jsxs", "_jsx", "_jsxs", "jsxDEV", "jsxsDEV"]

/-- The names to look for under the given options. -/
def Factories.ofOptions (options : Options) : Factories where
  pragmas := narrow options.pragma
    ["createElement", "jsx", "jsxs", "_jsx", "_jsxs", "jsxDEV", "jsxsDEV", "h"]
  fragments := narrow options.fragment ["Fragment"]
  hostObjects := options.hostObjects

/-! ### Names in tags -/

/-- Whether a character can go on a part of a tag name. -/
def isTagChar (c : Char) : Bool := Text.isWord c || c == '$' || c == '-'

/-- Whether a text can stand as the name of a tag or an attribute, with at most one colon inside. A
final line break is overlooked. -/
def isTagName (s : String) : Bool :=
  match beforeLastBreak s.toList with
  | [] => false
  | c :: rest =>
    isKeyStart c && match rest.dropWhile isTagChar with
      | [] => true
      | ':' :: rest => !rest.isEmpty && rest.all isTagChar
      | _ => false

/-- The name of a tag or an attribute; what stands before a colon is its namespace. -/
def tagName (name : String) : Tree :=
  match name.splitOn ":" with
  | space :: first :: rest => Tree.tagNamespaced space (String.intercalate ":" (first :: rest))
  | _ => Tree.tagIdentifier name

/-- Whether a text starts with a small letter. -/
def startsSmall (s : String) : Bool := (s.toList.head?).any fun c => 'a' ≤ c && c ≤ 'z'

/-- Whether characters start like an entity: a name or a number between `&` and `;`. -/
def startsEntity : List Char → Bool
  | '&' :: '#' :: rest =>
    let isEntity (digits rest : List Char) : Bool := !digits.isEmpty && rest.head? == some ';'
    isEntity (rest.takeWhile Text.isDecimal) (rest.dropWhile Text.isDecimal)
      || match rest with
        | 'x' :: hex =>
          let isHex (c : Char) : Bool :=
            c.isDigit || ('a' ≤ c && c ≤ 'f') || ('A' ≤ c && c ≤ 'F')
          isEntity (hex.takeWhile isHex) (hex.dropWhile isHex)
        | _ => false
  | '&' :: c :: rest => c.isAlpha && (rest.dropWhile Char.isAlphanum).head? == some ';'
  | _ => false

/-- Whether something among the characters would be read as an entity. -/
def holdsEntityFrom : List Char → Bool
  | [] => false
  | c :: rest => startsEntity (c :: rest) || holdsEntityFrom rest

/-- Whether something in a text would be read as an entity. -/
def holdsEntity (s : String) : Bool := holdsEntityFrom s.toList

section Failing

variable {m : Type → Type} [Monad m] [MonadExceptOf Failure m]

/-! ### Factories -/

/-- The factory that a callee names, by itself or as a method of any object but a host. -/
def Factories.called? (f : Factories) (callee : Tree) : m (Option String) := do
  if callee.isIdentifier then
    let name ← callee.textField "name"
    return if f.pragmas.contains name then some name else none
  if (← callee.kindOf) != "MemberExpression" || (callee.get "computed").truthy then return none
  let object ← callee.field "object"
  let property ← callee.field "property"
  if !property.isIdentifier then return none
  let name ← property.textField "name"
  if !f.pragmas.contains name || !object.isIdentifier then return none
  return if f.hostObjects.contains (← object.textField "name") then none else some name

/-- Whether a node is a call of a factory. -/
def Factories.isCall (f : Factories) (t : Tree) : m Bool := do
  if t.isKind "CallExpression" then return (← f.called? (← t.field "callee")).isSome
  else return false

/-- Whether a factory is called in a tree. -/
def Factories.calledIn (f : Factories) (t : Tree) : m Bool := t.someNodeM f.isCall

/-! ### Tags -/

/-- Whether an element type is written with the wrong case: texts need a small letter at the start,
names must not have one. -/
def isWrongCase (type : Tree) : m Bool := do
  if type.isStringLiteral then return !((type.get "value").str?).any startsSmall
  else if type.isIdentifier then return startsSmall (← type.textField "name")
  else return false

/-- The tag of a chain of accesses by name; chains are `fuel` long at most. -/
def memberTagWithin : Nat → Tree → m (Option Tree)
  | 0, _ => return none
  | fuel + 1, t => do
    match ← t.kindOf with
    | "Identifier" => return some (Tree.tagIdentifier (← t.textField "name"))
    | "ThisExpression" => return some (Tree.tagIdentifier "this")
    | "MemberExpression" =>
      if (t.get "computed").truthy then return none
      let property ← t.field "property"
      if !property.isIdentifier then return none
      match ← memberTagWithin fuel (← t.field "object") with
      | none => return none
      | some object =>
        return some (Tree.tagMember object (Tree.tagIdentifier (← property.textField "name")))
    | _ => return none

/-- The tag of an element type, if it can be written as one. -/
def tagOf? (type : Tree) : m (Option Tree) := do
  if type.isStringLiteral then
    let name := ((type.get "value").str?).getD ""
    return if isTagName name then some (tagName name) else none
  else if type.isIdentifier then return some (Tree.tagIdentifier (← type.textField "name"))
  else if (← type.kindOf) == "MemberExpression" then memberTagWithin type.height type
  else return none

end Failing

/-- Whether a tag names a fragment. -/
def Factories.isFragment (f : Factories) (tag : Tree) : Bool :=
  let isName (t : Tree) : Bool := ((t.get "name").str?).any f.fragments.contains
  if tag.isKind "JSXIdentifier" then isName tag
  else if tag.isKind "JSXMemberExpression" then isName (tag.get "property")
  else false

end Deminify.Rules.Element
