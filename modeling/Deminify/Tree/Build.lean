import Deminify.Tree.Basic

/-!
# New nodes

Nodes made by the rules. They are new, so their labels are zero until a document takes them in, and
they have no place in a source text.
-/

namespace Deminify.Tree

/-- A new node of the given kind. -/
def node (kind : String) (fields : List (String × Tree)) : Tree :=
  .obj 0 (("type", .str kind) :: fields)

/-- A name. -/
def identifier (name : String) : Tree := node "Identifier" [("name", .str name)]

/-- A literal without written form. -/
def literal (value : Tree) : Tree := node "Literal" [("value", value)]

/-- A text literal. -/
def stringLiteral (value : String) : Tree := literal (.str value)

/-- A truth value as it is written. -/
def booleanLiteral (value : Bool) : Tree :=
  node "Literal" [("value", .bool value), ("raw", .str (if value then "true" else "false"))]

/-- A property `key: value`. -/
def property (key value : Tree) (shorthand : Bool) : Tree :=
  node "Property" [("key", key), ("computed", .bool false), ("value", value), ("kind", .str "init"),
    ("method", .bool false), ("shorthand", .bool shorthand)]

/-- An object literal. -/
def objectExpression (properties : List Tree) : Tree :=
  node "ObjectExpression" [("properties", .list properties)]

/-- An object pattern. -/
def objectPattern (properties : List Tree) : Tree :=
  node "ObjectPattern" [("properties", .list properties)]

/-- An array pattern; a hole is null. -/
def arrayPattern (elements : List Tree) : Tree :=
  node "ArrayPattern" [("elements", .list elements)]

/-- A spread `...argument`. -/
def spreadElement (argument : Tree) : Tree := node "SpreadElement" [("argument", argument)]

/-- A declarator `target = init`. -/
def variableDeclarator (target init : Tree) : Tree :=
  node "VariableDeclarator" [("id", target), ("init", init)]

/-- A declaration of the given kind. -/
def variableDeclaration (kind : String) (declarations : List Tree) : Tree :=
  node "VariableDeclaration" [("declarations", .list declarations), ("kind", .str kind)]

/-- An expression as a statement. -/
def expressionStatement (expression : Tree) : Tree :=
  node "ExpressionStatement" [("expression", expression)]

/-- A block. -/
def blockStatement (body : List Tree) : Tree := node "BlockStatement" [("body", .list body)]

/-- A return with a value. -/
def returnStatement (argument : Tree) : Tree := node "ReturnStatement" [("argument", argument)]

/-- A while loop. -/
def whileStatement (test body : Tree) : Tree :=
  node "WhileStatement" [("test", test), ("body", body)]

/-- A program of statements. -/
def program (body : List Tree) : Tree :=
  node "Program" [("body", .list body), ("sourceType", .str "script")]

/-- An import specifier `imported as local`. -/
def importSpecifier (imported local_ : String) : Tree :=
  node "ImportSpecifier" [("local", identifier local_), ("imported", identifier imported)]

/-- An import of specifiers from a source. -/
def importDeclaration (specifiers : List Tree) (source : Tree) : Tree :=
  node "ImportDeclaration" [("specifiers", .list specifiers), ("source", source)]

/-! ### Elements -/

/-- A name in a tag. -/
def tagIdentifier (name : String) : Tree := node "JSXIdentifier" [("name", .str name)]

/-- An access in a tag. -/
def tagMember (object property : Tree) : Tree :=
  node "JSXMemberExpression" [("object", object), ("property", property)]

/-- A name with a namespace in a tag. -/
def tagNamespaced (space name : String) : Tree :=
  node "JSXNamespacedName" [("namespace", tagIdentifier space), ("name", tagIdentifier name)]

/-- An attribute; null stands for no value. -/
def tagAttribute (name value : Tree) : Tree :=
  node "JSXAttribute" [("name", name), ("value", value)]

/-- A spread of attributes. -/
def tagSpread (argument : Tree) : Tree := node "JSXSpreadAttribute" [("argument", argument)]

/-- An expression between braces. -/
def tagContainer (expression : Tree) : Tree :=
  node "JSXExpressionContainer" [("expression", expression)]

/-- A spread of children. -/
def tagSpreadChild (expression : Tree) : Tree :=
  node "JSXSpreadChild" [("expression", expression)]

/-- A run of text between tags. -/
def tagText (value : String) : Tree :=
  node "JSXText" [("value", .str value), ("raw", .str value)]

/-- A child that stands for a line break: where it occurs, each child goes on its own line. -/
def tagLineBreak : Tree :=
  node "JSXText" [("value", .str "\n"), ("raw", .str "\n"), ("synthetic", .bool true)]

/-- An element, self-closing when it has no children. -/
def element (name : Tree) (attributes children : List Tree) : Tree :=
  node "JSXElement" [
    ("openingElement", node "JSXOpeningElement" [("name", name),
      ("selfClosing", .bool children.isEmpty), ("attributes", .list attributes)]),
    ("children", .list children),
    ("closingElement", if children.isEmpty then .null
      else node "JSXClosingElement" [("name", name.renewed)])]

/-- A fragment. -/
def fragment (children : List Tree) : Tree :=
  node "JSXFragment" [("openingFragment", node "JSXOpeningFragment" []),
    ("children", .list children), ("closingFragment", node "JSXClosingFragment" [])]

end Deminify.Tree
