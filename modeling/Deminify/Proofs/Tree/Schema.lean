import Deminify.Tree.Walk

/-!
# What the nodes of a program look like

A record can have any fields, but the nodes of a program do not: a node of a given kind has given
fields, and each of them holds something of a given sort – a text, a truth value, a node of certain
kinds, or a list of such. The table `Deminify.schema` says which, kind by kind.

Conformity is local. `Deminify.Tree.conforms` compares one node with the table and looks at its
children only as far as their kinds, and at the key of a property and the module of an import as far as
their values; a tree is *well
formed* when all of its nodes conform (`Deminify.Tree.WellFormed`), so that what is known of a tree is
known of every tree inside it.

* `Deminify.FieldSort` – what a field can hold;
* `Deminify.schema` – **the fields of each kind of node**;
* `Deminify.Tree.WellFormed` – every node of the tree has the fields of its kind.
-/

namespace Deminify

/-! ### Groups of kinds -/

/-- The kinds of expressions, together with those of the patterns that an expression can turn into:
what is read in the place of an operand may be either. -/
def isExpressionKind (kind : String) : Bool :=
  ["Identifier", "Literal", "ThisExpression", "Super", "Import", "ArrayExpression",
    "ObjectExpression", "FunctionExpression", "ArrowFunctionExpression", "ClassExpression",
    "TemplateLiteral", "TaggedTemplateExpression", "MemberExpression", "MetaProperty",
    "NewExpression", "CallExpression", "UpdateExpression", "UnaryExpression", "AwaitExpression",
    "BinaryExpression", "LogicalExpression", "ConditionalExpression", "YieldExpression",
    "AssignmentExpression", "SequenceExpression", "JSXElement", "JSXFragment", "SpreadElement",
    "ArrayPattern", "ObjectPattern", "AssignmentPattern", "RestElement",
    "ArrowParameterPlaceHolder"].contains kind

/-- The kinds of statements and declarations. -/
def isStatementKind (kind : String) : Bool :=
  ["VariableDeclaration", "FunctionDeclaration", "ClassDeclaration", "BlockStatement",
    "EmptyStatement", "ExpressionStatement", "IfStatement", "ForStatement", "ForInStatement",
    "ForOfStatement", "WhileStatement", "DoWhileStatement", "ContinueStatement", "BreakStatement",
    "ReturnStatement", "WithStatement", "SwitchStatement", "ThrowStatement", "TryStatement",
    "DebuggerStatement", "LabeledStatement", "ImportDeclaration", "ExportNamedDeclaration",
    "ExportDefaultDeclaration", "ExportAllDeclaration"].contains kind

/-- The kinds of what the head of a loop can start with. -/
def isLoopHeadKind (kind : String) : Bool := kind == "VariableDeclaration" || isExpressionKind kind

/-- The kinds of what a module can export by default. -/
def isDefaultKind (kind : String) : Bool :=
  kind == "FunctionDeclaration" || kind == "ClassDeclaration" || isExpressionKind kind

/-- The kinds of the bodies of functions. -/
def isBodyKind (kind : String) : Bool := kind == "BlockStatement" || isExpressionKind kind

/-- The kinds of the parts of an object literal. -/
def isPropertyKind (kind : String) : Bool := kind == "Property" || kind == "SpreadElement"

/-- The kinds of the parts of an object pattern. -/
def isPropertyPatternKind (kind : String) : Bool := kind == "Property" || kind == "RestElement"

/-- The kinds of what an import binds. -/
def isImportNameKind (kind : String) : Bool :=
  ["ImportSpecifier", "ImportDefaultSpecifier", "ImportNamespaceSpecifier"].contains kind

/-- The kinds of the names that a module exports. -/
def isExportNameKind (kind : String) : Bool :=
  kind == "ExportSpecifier" || kind == "ExportDefaultSpecifier"

/-- The kinds of the names of elements. -/
def isTagNameKind (kind : String) : Bool :=
  ["JSXIdentifier", "JSXMemberExpression", "JSXNamespacedName"].contains kind

/-- The kinds of what a name can be looked up in, in the name of an element. -/
def isTagObjectKind (kind : String) : Bool :=
  kind == "JSXIdentifier" || kind == "JSXMemberExpression"

/-- The kinds of the names of attributes. -/
def isAttributeNameKind (kind : String) : Bool :=
  kind == "JSXIdentifier" || kind == "JSXNamespacedName"

/-- The kinds of attributes. -/
def isAttributeKind (kind : String) : Bool := kind == "JSXAttribute" || kind == "JSXSpreadAttribute"

/-- The kinds of the values of attributes. -/
def isAttributeValueKind (kind : String) : Bool :=
  ["Literal", "JSXExpressionContainer", "JSXElement", "JSXFragment"].contains kind

/-- The kinds of what stands between braces in an element. -/
def isContainedKind (kind : String) : Bool := kind == "JSXEmptyExpression" || isExpressionKind kind

/-! ### Fields -/

/-- What a field of a node holds. -/
inductive FieldSort where
  /-- A text. -/
  | text
  /-- A truth value. -/
  | flag
  /-- A leaf: null, a truth value, a number or a text. -/
  | leaf
  /-- A record that is no node. -/
  | record
  /-- A node of one of the kinds. -/
  | node (kinds : String → Bool)
  /-- A node of one of the kinds, or null. -/
  | optional (kinds : String → Bool)
  /-- A list of nodes of the kinds. -/
  | nodes (kinds : String → Bool)
  /-- A list of nodes of the kinds, with holes. -/
  | holes (kinds : String → Bool)

instance : Inhabited FieldSort := ⟨.leaf⟩

namespace Tree

/-- Whether a value is neither a list nor a record. -/
def isLeaf : Tree → Bool
  | .list _ => false
  | .obj _ _ => false
  | _ => true

/-- Whether a value is a node of one of the kinds. -/
def isOf (kinds : String → Bool) (t : Tree) : Bool :=
  t.isObj && ((t.get? "type").bind str?).any kinds

end Tree

/-- Whether a value is of the sort, as far as can be seen without looking into nodes. -/
def FieldSort.takes : FieldSort → Tree → Bool
  | .text, t => t.str?.isSome
  | .flag, .bool _ => true
  | .flag, _ => false
  | .leaf, t => t.isLeaf
  | .record, t => t.isObj && !t.isNode
  | .node kinds, t => t.isOf kinds
  | .optional kinds, t => t.isNull || t.isOf kinds
  | .nodes kinds, t => t.isList && t.items.all (·.isOf kinds)
  | .holes kinds, t => t.isList && t.items.all fun item => item.isNull || item.isOf kinds

section Table

/-- A field for an expression. -/
def FieldSort.expression : FieldSort := .node isExpressionKind

/-- A field for a name. -/
def FieldSort.name : FieldSort := .node (· == "Identifier")

/-- A field for a block. -/
def FieldSort.block : FieldSort := .node (· == "BlockStatement")

open FieldSort

/-- The fields of an operation on two operands. -/
def operationFields : List (String × FieldSort) :=
  [("operator", .text), ("left", expression), ("right", expression)]

/-- The fields of a function that is no arrow function. -/
def functionFields : List (String × FieldSort) :=
  [("expression", .flag), ("async", .flag), ("id", .optional (· == "Identifier")),
    ("params", .nodes isExpressionKind), ("body", block), ("generator", .flag)]

/-- The fields of a class. -/
def classFields : List (String × FieldSort) :=
  [("id", .optional (· == "Identifier")), ("superClass", .optional isExpressionKind),
    ("body", .node (· == "ClassBody"))]

/-- The fields that the nodes of each kind have, apart from the kind itself and from what holds no
children; further fields hold leaves. -/
def schemaTable : List (String × List (String × FieldSort)) := [
  ("Program", [("sourceType", .text), ("body", .nodes isStatementKind)]),
  -- statements
  ("VariableDeclaration", [("declarations", .nodes (· == "VariableDeclarator")), ("kind", .text)]),
  ("VariableDeclarator", [("id", expression), ("init", .optional isExpressionKind)]),
  ("FunctionDeclaration", functionFields),
  ("ClassDeclaration", classFields),
  ("BlockStatement", [("body", .nodes isStatementKind)]),
  ("EmptyStatement", []),
  ("ExpressionStatement", [("expression", expression)]),
  ("IfStatement", [("test", expression), ("consequent", .node isStatementKind),
    ("alternate", .optional isStatementKind)]),
  ("ForStatement", [("init", .optional isLoopHeadKind), ("test", .optional isExpressionKind),
    ("update", .optional isExpressionKind), ("body", .node isStatementKind)]),
  ("ForInStatement", [("left", .node isLoopHeadKind), ("right", expression),
    ("body", .node isStatementKind)]),
  ("ForOfStatement", [("left", .node isLoopHeadKind), ("right", expression),
    ("body", .node isStatementKind)]),
  ("WhileStatement", [("test", expression), ("body", .node isStatementKind)]),
  ("DoWhileStatement", [("body", .node isStatementKind), ("test", expression)]),
  ("ContinueStatement", [("label", .optional (· == "Identifier"))]),
  ("BreakStatement", [("label", .optional (· == "Identifier"))]),
  ("ReturnStatement", [("argument", .optional isExpressionKind)]),
  ("WithStatement", [("object", expression), ("body", .node isStatementKind)]),
  ("SwitchStatement", [("discriminant", expression), ("cases", .nodes (· == "SwitchCase"))]),
  ("SwitchCase", [("test", .optional isExpressionKind), ("consequent", .nodes isStatementKind)]),
  ("ThrowStatement", [("argument", expression)]),
  ("TryStatement", [("block", block), ("handler", .optional (· == "CatchClause")),
    ("finalizer", .optional (· == "BlockStatement"))]),
  ("CatchClause", [("param", expression), ("body", block)]),
  ("DebuggerStatement", []),
  ("LabeledStatement", [("label", name), ("body", .node isStatementKind)]),
  -- imports and exports
  ("ImportDeclaration", [("specifiers", .nodes isImportNameKind),
    ("source", .node (· == "Literal"))]),
  ("ImportSpecifier", [("local", name), ("imported", name)]),
  ("ImportDefaultSpecifier", [("local", name)]),
  ("ImportNamespaceSpecifier", [("local", name)]),
  ("ExportNamedDeclaration", [("declaration", .optional isStatementKind),
    ("specifiers", .nodes isExportNameKind), ("source", .optional (· == "Literal"))]),
  ("ExportSpecifier", [("exported", name), ("local", name)]),
  ("ExportDefaultSpecifier", [("local", name)]),
  ("ExportDefaultDeclaration", [("declaration", .node isDefaultKind)]),
  ("ExportAllDeclaration", [("source", .node (· == "Literal"))]),
  -- expressions
  ("Identifier", [("name", .text)]),
  ("Literal", [("value", .leaf)]),
  ("ThisExpression", []),
  ("Super", []),
  ("Import", []),
  ("ArrayExpression", [("elements", .holes isExpressionKind)]),
  ("ObjectExpression", [("properties", .nodes isPropertyKind)]),
  ("Property", [("key", expression), ("computed", .flag), ("value", expression), ("kind", .text),
    ("method", .flag), ("shorthand", .flag)]),
  ("FunctionExpression", functionFields),
  ("ArrowFunctionExpression", [("generator", .flag), ("async", .flag),
    ("params", .nodes isExpressionKind), ("body", .node isBodyKind), ("expression", .flag)]),
  ("ClassExpression", classFields),
  ("ClassBody", [("body", .nodes (· == "MethodDefinition"))]),
  ("MethodDefinition", [("key", expression), ("computed", .flag), ("value", expression),
    ("kind", .text), ("static", .flag)]),
  ("TemplateLiteral", [("quasis", .nodes (· == "TemplateElement")),
    ("expressions", .nodes isExpressionKind)]),
  ("TemplateElement", [("value", .record), ("tail", .flag)]),
  ("TaggedTemplateExpression", [("tag", expression), ("quasi", .node (· == "TemplateLiteral"))]),
  ("MemberExpression", [("computed", .flag), ("object", expression), ("property", expression)]),
  ("MetaProperty", [("meta", name), ("property", name)]),
  ("NewExpression", [("callee", expression), ("arguments", .nodes isExpressionKind)]),
  ("CallExpression", [("callee", expression), ("arguments", .nodes isExpressionKind)]),
  ("UpdateExpression", [("operator", .text), ("argument", expression), ("prefix", .flag)]),
  ("UnaryExpression", [("prefix", .flag), ("operator", .text), ("argument", expression)]),
  ("AwaitExpression", [("argument", expression)]),
  ("BinaryExpression", operationFields),
  ("LogicalExpression", operationFields),
  ("ConditionalExpression", [("test", expression), ("consequent", expression),
    ("alternate", expression)]),
  ("YieldExpression", [("argument", .optional isExpressionKind), ("delegate", .flag)]),
  ("AssignmentExpression", operationFields),
  ("SequenceExpression", [("expressions", .nodes isExpressionKind)]),
  -- the parameters of an arrow function before its arrow is read
  ("ArrowParameterPlaceHolder", [("params", .nodes isExpressionKind), ("async", .flag)]),
  -- patterns
  ("SpreadElement", [("argument", expression)]),
  ("RestElement", [("argument", expression)]),
  ("ArrayPattern", [("elements", .holes isExpressionKind)]),
  ("ObjectPattern", [("properties", .nodes isPropertyPatternKind)]),
  ("AssignmentPattern", [("left", expression), ("right", expression)]),
  -- elements
  ("JSXElement", [("openingElement", .node (· == "JSXOpeningElement")),
    ("children", .nodes Tree.isElementChildKind),
    ("closingElement", .optional (· == "JSXClosingElement"))]),
  ("JSXOpeningElement", [("name", .node isTagNameKind), ("selfClosing", .flag),
    ("attributes", .nodes isAttributeKind)]),
  ("JSXClosingElement", [("name", .node isTagNameKind)]),
  ("JSXFragment", [("openingFragment", .node (· == "JSXOpeningFragment")),
    ("children", .nodes Tree.isElementChildKind),
    ("closingFragment", .node (· == "JSXClosingFragment"))]),
  ("JSXOpeningFragment", []),
  ("JSXClosingFragment", []),
  ("JSXIdentifier", [("name", .text)]),
  ("JSXMemberExpression", [("object", .node isTagObjectKind),
    ("property", .node (· == "JSXIdentifier"))]),
  ("JSXNamespacedName", [("namespace", .node (· == "JSXIdentifier")),
    ("name", .node (· == "JSXIdentifier"))]),
  ("JSXAttribute", [("name", .node isAttributeNameKind),
    ("value", .optional isAttributeValueKind)]),
  ("JSXSpreadAttribute", [("argument", expression)]),
  ("JSXExpressionContainer", [("expression", .node isContainedKind)]),
  ("JSXSpreadChild", [("expression", expression)]),
  ("JSXEmptyExpression", []),
  ("JSXText", [("value", .text)])]

end Table

/-- **The fields of a kind of node.** -/
def schema (kind : String) : Option (List (String × FieldSort)) := schemaTable.lookup kind

namespace Tree

/-- Whether a field is one of those of a table, or holds no children. -/
def isKnownField (fields : List (String × FieldSort)) (field : String × Tree) : Bool :=
  (fields.lookup field.1).isSome || !holdsChildren field.1 || field.2.isLeaf

/-- Whether a field says what a node is: its kind, and what can hold children. -/
def isShapeKey (key : String) : Bool := key == "type" || holdsChildren key

/-- Whether each field that says what a node is stands there once. -/
def DistinctKeys (fields : List (String × Tree)) : Prop :=
  ((fields.map (·.1)).filter isShapeKey).Nodup

instance (fields : List (String × Tree)) : Decidable (DistinctKeys fields) :=
  inferInstanceAs (Decidable (List.Nodup _))

/-- Whether a value is true. -/
def isTrue : Tree → Bool
  | .bool b => b
  | _ => false

/-- Whether a key stands for itself: it is a name, or a literal with a text or a number. -/
def isPlainKey (t : Tree) : Bool :=
  t.isKind "Identifier" || t.isKind "Literal" && match t.get "value" with
    | .str _ => true
    | .int _ => true
    | .real _ => true
    | _ => false

/-- Whether the key among the fields of a property is computed or stands for itself. -/
def keepsKey (fields : List (String × Tree)) : Bool :=
  (fields.lookup "computed").any isTrue || (fields.lookup "key").any isPlainKey

/-- Whether the list has a specifier of the kind. -/
def bindsKind (specifiers : List Tree) (kind : String) : Bool := specifiers.any (·.isKind kind)

/-- Whether what an import binds can stand together: one name at most for the default of the module, and none
for what is in the module next to one for the whole of it. -/
def bindsTogether (specifiers : List Tree) : Bool :=
  decide (specifiers.countP (·.isKind "ImportDefaultSpecifier") ≤ 1)
    && !(bindsKind specifiers "ImportNamespaceSpecifier" && bindsKind specifiers "ImportSpecifier")

/-- Whether the fields of an import have a text for the module, and what they bind can stand together. -/
def keepsImport (fields : List (String × Tree)) : Bool :=
  (fields.lookup "source").any (fun source => (source.get "value").str?.isSome)
    && (fields.lookup "specifiers").any (bindsTogether ·.items)

/-- Whether a node has the fields of its kind, each once, and no others that could hold children; a key
that is not computed stands for itself. -/
def hasFields (t : Tree) : Bool :=
  match schema t.kind with
  | some fields =>
    decide (DistinctKeys t.fields)
      && fields.all (fun (key, sort) => (t.get? key).any sort.takes)
      && t.fields.all (isKnownField fields)
      && (t.kind != "Property" || keepsKey t.fields)
  | none => false

/-- Whether a node has the fields of its kind, and an import binds what can stand together. -/
def conforms (t : Tree) : Bool :=
  t.hasFields && (t.kind != "ImportDeclaration" || keepsImport t.fields)

/-- Every node of the tree has the fields of its kind. -/
def WellFormed (t : Tree) : Prop := ∀ n ∈ t.subtree, n.conforms = true

instance (t : Tree) : Decidable t.WellFormed := inferInstanceAs (Decidable (∀ n ∈ t.subtree, _))

end Tree

end Deminify
