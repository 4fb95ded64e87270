import Deminify.Proofs.Printer.Yield
import Deminify.Proofs.Token.Spelled
import Deminify.Grammar.Basic
import Deminify.Proofs.Tree.Core
import Deminify.Tree.Build

/-!
# Statements of control flow

Blocks, branches, loops, jumps, labels and handlers, over expressions that are names or calls of names
(`Deminify.Flow.Stmt`): their trees, the words that they are written with, and where they may stand.

A statement is legal (`Deminify.Flow.Stmt.isLegal`) where its jumps have somewhere to go, and if no `else`
could go to another `if` than its own. Whether a loop over keys or items may start with a name also
depends on what was read before: the mark that the last expression may be assigned to is not always
taken back (`Deminify.Flow.Stmt.target`).
-/

namespace Deminify.Flow

open Token

/-! ### Expressions -/

mutual

/-- A name, or a call of one. -/
inductive Expr where
  | name (name : String)
  | call (function : String) (args : Exprs)

/-- The arguments of a call. -/
inductive Exprs where
  | nil
  | cons (e : Expr) (rest : Exprs)

end

mutual

/-- The tree of an expression. -/
def Expr.tree : Expr → Tree
  | .name x => Tree.identifier x
  | .call f args => .node "CallExpression" [("callee", Tree.identifier f), ("arguments", .list args.trees)]

/-- The trees of arguments. -/
def Exprs.trees : Exprs → List Tree
  | .nil => []
  | .cons e rest => e.tree :: rest.trees

end

/-- A name, perhaps on the line of the word in front of it. -/
def nameWord (joined : Bool) (x : String) : Word := ⟨wordType x, x, joined⟩

mutual

/-- The words of an expression, in front of others. -/
def Expr.words (joined : Bool) : Expr → List Word → List Word
  | .name x, ws => nameWord joined x :: ws
  | .call f args, ws => nameWord joined f :: Word.mark "(" :: args.words (Word.mark ")" :: ws)

/-- The words of arguments, in front of others. -/
def Exprs.words : Exprs → List Word → List Word
  | .nil, ws => ws
  | .cons e rest, ws => e.words false (rest.moreWords ws)

/-- The words of arguments that follow another one, in front of others. -/
def Exprs.moreWords : Exprs → List Word → List Word
  | .nil, ws => ws
  | .cons e rest, ws => Word.mark "," :: e.words false (rest.moreWords ws)

end

mutual

/-- How deep an expression nests. -/
def Expr.depth : Expr → Nat
  | .name _ => 1
  | .call _ args => args.depth + 1

/-- How deep arguments nest. -/
def Exprs.depth : Exprs → Nat
  | .nil => 1
  | .cons e rest => max e.depth rest.depth

end

namespace Expr

/-- Whether an expression is a name, and so may be assigned to. -/
def isName : Expr → Bool
  | .name _ => true
  | .call .. => false

/-- The name with which an expression starts. -/
def head : Expr → String
  | .name x => x
  | .call f _ => f

/-- The tree of an expression, if there is one. -/
def treeOf : Option Expr → Tree
  | some e => e.tree
  | none => .null

/-- The words of an expression, if there is one, in front of others. -/
def wordsOf (joined : Bool) : Option Expr → List Word → List Word
  | some e, ws => e.words joined ws
  | none, ws => ws

/-- How deep an expression nests, if there is one. -/
def depthOf : Option Expr → Nat
  | some e => e.depth
  | none => 0

end Expr

/-! ### Statements -/

mutual

/-- A statement. -/
inductive Stmt where
  | block (body : Stmts)
  | empty
  | expression (e : Expr)
  | return_ (value : Option Expr)
  | throw_ (value : Expr)
  | break_ (label : Option String)
  | continue_ (label : Option String)
  | labeled (label : String) (body : Stmt)
  | if_ (test : Expr) (yes : Stmt)
  | ifElse (test : Expr) (yes no : Stmt)
  | for_ (init test update : Option Expr) (body : Stmt)
  | forIn (left : String) (right : Expr) (body : Stmt)
  | forOf (left : String) (right : Expr) (body : Stmt)
  | while_ (test : Expr) (body : Stmt)
  | doWhile (body : Stmt) (test : Expr)
  | with_ (object : Expr) (body : Stmt)
  | tryCatch (body : Stmts) (param : String) (handler : Stmts)
  | tryFinally (body finalizer : Stmts)
  | tryBoth (body : Stmts) (param : String) (handler finalizer : Stmts)
  | switch (discriminant : Expr) (cases : Cases)

/-- The statements of a block. -/
inductive Stmts where
  | nil
  | cons (s : Stmt) (rest : Stmts)

/-- The cases of a `switch`; the one without a test is the default. -/
inductive Cases where
  | nil
  | cons (test : Option Expr) (body : Stmts) (rest : Cases)

end

/-- The tree of a block. -/
def blockTree (body : List Tree) : Tree := .node "BlockStatement" [("body", .list body)]

/-- The tree of a handler. -/
def handlerTree (param : String) (body : List Tree) : Tree :=
  .node "CatchClause" [("param", Tree.identifier param), ("body", blockTree body)]

/-- The tree of a label, if there is one. -/
def labelTree : Option String → Tree
  | some l => Tree.identifier l
  | none => .null

mutual

/-- The tree of a statement. -/
def Stmt.tree : Stmt → Tree
  | .block body => blockTree body.trees
  | .empty => .node "EmptyStatement" []
  | .expression e => .node "ExpressionStatement" [("expression", e.tree)]
  | .return_ e => .node "ReturnStatement" [("argument", Expr.treeOf e)]
  | .throw_ e => .node "ThrowStatement" [("argument", e.tree)]
  | .break_ l => .node "BreakStatement" [("label", labelTree l)]
  | .continue_ l => .node "ContinueStatement" [("label", labelTree l)]
  | .labeled l s => .node "LabeledStatement" [("label", Tree.identifier l), ("body", s.tree)]
  | .if_ e s => .node "IfStatement" [("test", e.tree), ("consequent", s.tree), ("alternate", .null)]
  | .ifElse e s s' => .node "IfStatement" [("test", e.tree), ("consequent", s.tree), ("alternate", s'.tree)]
  | .for_ i e u s => .node "ForStatement" [("init", Expr.treeOf i), ("test", Expr.treeOf e), ("update", Expr.treeOf u),
      ("body", s.tree)]
  | .forIn x e s => .node "ForInStatement" [("each", .bool false), ("left", Tree.identifier x), ("right", e.tree),
      ("body", s.tree)]
  | .forOf x e s => .node "ForOfStatement" [("left", Tree.identifier x), ("right", e.tree), ("body", s.tree)]
  | .while_ e s => .node "WhileStatement" [("test", e.tree), ("body", s.tree)]
  | .doWhile s e => .node "DoWhileStatement" [("body", s.tree), ("test", e.tree)]
  | .with_ e s => .node "WithStatement" [("object", e.tree), ("body", s.tree)]
  | .tryCatch b x h => .node "TryStatement" [("block", blockTree b.trees), ("handler", handlerTree x h.trees),
      ("finalizer", .null)]
  | .tryFinally b f => .node "TryStatement" [("block", blockTree b.trees), ("handler", .null),
      ("finalizer", blockTree f.trees)]
  | .tryBoth b x h f => .node "TryStatement" [("block", blockTree b.trees), ("handler", handlerTree x h.trees),
      ("finalizer", blockTree f.trees)]
  | .switch e cs => .node "SwitchStatement" [("discriminant", e.tree), ("cases", .list cs.trees)]

/-- The trees of statements. -/
def Stmts.trees : Stmts → List Tree
  | .nil => []
  | .cons s rest => s.tree :: rest.trees

/-- The trees of cases. -/
def Cases.trees : Cases → List Tree
  | .nil => []
  | .cons e b rest => .node "SwitchCase" [("test", Expr.treeOf e), ("consequent", .list b.trees)] :: rest.trees

end

/-- A keyword. -/
def keyword (value : String) : Word := ⟨.keyword, value, false⟩

/-- The words of an expression in parentheses, in front of others. -/
def conditionWords (e : Expr) (ws : List Word) : List Word := Word.mark "(" :: e.words false (Word.mark ")" :: ws)

/-- Words in braces, in front of others. -/
def blockWords (body : List Word → List Word) (ws : List Word) : List Word :=
  Word.mark "\x7b" :: body (Word.mark "\x7d" :: ws)

/-- The words behind the keyword of a jump, in front of others. -/
def labelWords : Option String → List Word → List Word
  | some l, ws => nameWord true l :: Word.mark ";" :: ws
  | none, ws => Word.mark ";" :: ws

/-- The words in front of the statements of a case. -/
def caseWords : Option Expr → List Word → List Word
  | some e, ws => keyword "case" :: e.words false (Word.mark ":" :: ws)
  | none, ws => keyword "default" :: Word.mark ":" :: ws

mutual

/-- The words of a statement, in front of others. -/
def Stmt.words : Stmt → List Word → List Word
  | .block b, ws => blockWords b.words ws
  | .empty, ws => Word.mark ";" :: ws
  | .expression e, ws => e.words false (Word.mark ";" :: ws)
  | .return_ e, ws => keyword "return" :: Expr.wordsOf true e (Word.mark ";" :: ws)
  | .throw_ e, ws => keyword "throw" :: e.words true (Word.mark ";" :: ws)
  | .break_ l, ws => keyword "break" :: labelWords l ws
  | .continue_ l, ws => keyword "continue" :: labelWords l ws
  | .labeled l s, ws => nameWord false l :: Word.mark ":" :: s.words ws
  | .if_ e s, ws => keyword "if" :: conditionWords e (s.words ws)
  | .ifElse e s s', ws => keyword "if" :: conditionWords e (s.words (keyword "else" :: s'.words ws))
  | .for_ i e u s, ws => keyword "for" :: Word.mark "(" :: Expr.wordsOf false i (Word.mark ";" ::
      Expr.wordsOf false e (Word.mark ";" :: Expr.wordsOf false u (Word.mark ")" :: s.words ws)))
  | .forIn x e s, ws => keyword "for" :: Word.mark "(" :: nameWord false x :: keyword "in" ::
      e.words false (Word.mark ")" :: s.words ws)
  | .forOf x e s, ws => keyword "for" :: Word.mark "(" :: nameWord false x :: nameWord false "of" ::
      e.words false (Word.mark ")" :: s.words ws)
  | .while_ e s, ws => keyword "while" :: conditionWords e (s.words ws)
  | .doWhile s e, ws => keyword "do" :: s.words (keyword "while" :: conditionWords e (Word.mark ";" :: ws))
  | .with_ e s, ws => keyword "with" :: conditionWords e (s.words ws)
  | .tryCatch b x h, ws => keyword "try" :: blockWords b.words (keyword "catch" :: Word.mark "(" :: nameWord false x ::
      Word.mark ")" :: blockWords h.words ws)
  | .tryFinally b f, ws => keyword "try" :: blockWords b.words (keyword "finally" :: blockWords f.words ws)
  | .tryBoth b x h f, ws => keyword "try" :: blockWords b.words (keyword "catch" :: Word.mark "(" :: nameWord false x ::
      Word.mark ")" :: blockWords h.words (keyword "finally" :: blockWords f.words ws))
  | .switch e cs, ws => keyword "switch" :: conditionWords e (blockWords cs.words ws)

/-- The words of statements, in front of others. -/
def Stmts.words : Stmts → List Word → List Word
  | .nil, ws => ws
  | .cons s rest, ws => s.words (rest.words ws)

/-- The words of cases, in front of others. -/
def Cases.words : Cases → List Word → List Word
  | .nil, ws => ws
  | .cons e b rest, ws => caseWords e (b.words (rest.words ws))

end

mutual

/-- How deep a statement nests. -/
def Stmt.depth : Stmt → Nat
  | .block body => body.depth + 1
  | .empty | .break_ _ | .continue_ _ => 1
  | .expression e | .throw_ e => e.depth + 1
  | .return_ e => Expr.depthOf e + 1
  | .labeled _ s => max 1 s.depth + 1
  | .if_ e s | .forIn _ e s | .forOf _ e s | .while_ e s | .doWhile s e | .with_ e s => max e.depth s.depth + 1
  | .ifElse e s s' => max e.depth (max s.depth s'.depth) + 1
  | .for_ i e u s => max (max (Expr.depthOf i) (Expr.depthOf e)) (max (Expr.depthOf u) s.depth) + 1
  | .tryCatch b _ h => max b.depth h.depth + 1
  | .tryFinally b f => max b.depth f.depth + 1
  | .tryBoth b _ h f => max b.depth (max h.depth f.depth) + 1
  | .switch e cs => max e.depth cs.depth + 1

/-- How deep statements nest. -/
def Stmts.depth : Stmts → Nat
  | .nil => 0
  | .cons s rest => max s.depth rest.depth

/-- How deep cases nest. -/
def Cases.depth : Cases → Nat
  | .nil => 0
  | .cons e b rest => max (Expr.depthOf e) (max b.depth rest.depth)

end

/-! ### Where a statement may stand -/

/-- What a setting says about statements. -/
structure Ground where
  strict : Bool
  await : Bool
  inFunctionBody : Bool
  inIteration : Bool
  inSwitch : Bool
  labels : List String

namespace Ground

/-- The ground in a setting. -/
def of (σ : Setting) : Ground :=
  ⟨σ.strict, σ.isModule || σ.allowAwait, σ.inFunctionBody, σ.inIteration, σ.inSwitch, σ.labels⟩

/-- The ground in the body of a loop. -/
def loop (g : Ground) : Ground := { g with inIteration := true }

/-- The ground in the cases of a `switch`. -/
def switch (g : Ground) : Ground := { g with inSwitch := true }

/-- The ground behind a label. -/
def behind (g : Ground) (label : String) : Ground := { g with labels := label :: g.labels }

/-- Whether a word may be used as a name. -/
def allows (g : Ground) (x : String) : Bool :=
  isLetters x.toList && wordType x == .name && !(g.strict && isStrictReserved x) && !(g.await && x == "await")

/-- Whether a handler may bind a name. -/
def binds (g : Ground) (x : String) : Bool := g.allows x && !(g.strict && isRestricted x)

/-- Whether a jump may name a label. -/
def knows (g : Ground) (label : String) : Bool := g.allows label && g.labels.contains label

end Ground

mutual

/-- Whether the names of an expression may be used. -/
def Expr.isLegal (g : Ground) : Expr → Bool
  | .name x => g.allows x
  | .call f args => g.allows f && args.isLegal g

/-- Whether the names of arguments may be used. -/
def Exprs.isLegal (g : Ground) : Exprs → Bool
  | .nil => true
  | .cons e rest => e.isLegal g && rest.isLegal g

end

/-- Whether the names of an expression may be used, if there is one. -/
def Expr.isLegalOf (g : Ground) : Option Expr → Bool
  | some e => e.isLegal g
  | none => true

/-- Whether what is read after an expression may be assigned to, if it could before. -/
def Expr.keepsTarget : Option Expr → Bool
  | some e => e.isName
  | none => true

/-- Whether a statement ends with an `if` that an `else` behind it would go to. -/
def Stmt.isOpen : Stmt → Bool
  | .if_ .. => true
  | .ifElse _ _ s | .labeled _ s | .for_ _ _ _ s | .forIn _ _ s | .forOf _ _ s | .while_ _ s | .with_ _ s => s.isOpen
  | _ => false

mutual

/-- Whether what is read after a statement counts as a target, if it did so before or not. In a list, each statement
starts anew. -/
def Stmt.target : Stmt → Bool → Bool
  | .block b, t => b.target t
  | .labeled _ s, t | .if_ _ s, t | .while_ _ s, t | .doWhile s _, t | .with_ _ s, t => s.target t
  | .ifElse _ s s', t => s'.target (s.target t)
  | .for_ i _ _ _, t => Expr.keepsTarget i && t
  | .forOf _ e _, t => e.isName && t
  | .tryCatch b _ h, t => h.target (b.target t)
  | .tryFinally b f, t => f.target (b.target t)
  | .tryBoth b _ h f, t => f.target (h.target (b.target t))
  | .switch _ cs, t => cs.target t
  | .empty, t | .expression _, t | .return_ _, t | .throw_ _, t | .break_ _, t | .continue_ _, t | .forIn _ _ _, t => t

/-- Whether what is read after statements counts as a target. -/
def Stmts.target : Stmts → Bool → Bool
  | .nil, t => t
  | .cons s rest, _ => rest.target (s.target true)

/-- Whether what is read after cases counts as a target. -/
def Cases.target : Cases → Bool → Bool
  | .nil, t => t
  | .cons _ b rest, t => rest.target (b.target t)

end

/-- The number of defaults among cases. -/
def Cases.defaults : Cases → Nat
  | .nil => 0
  | .cons (some _) _ rest => rest.defaults
  | .cons none _ rest => rest.defaults + 1

mutual

/-- **Whether a statement may stand on a ground**, where what is read counts as a target or not. -/
def Stmt.isLegal : Stmt → Ground → Bool → Bool
  | .block b, g, _ => b.isLegal g
  | .empty, _, _ => true
  | .expression e, g, _ | .throw_ e, g, _ => e.isLegal g
  | .return_ e, g, _ => g.inFunctionBody && Expr.isLegalOf g e
  | .break_ none, g, _ => g.inIteration || g.inSwitch
  | .continue_ none, g, _ => g.inIteration
  | .break_ (some l), g, _ | .continue_ (some l), g, _ => g.knows l
  | .labeled l s, g, t => g.allows l && !g.labels.contains l && s.isLegal (g.behind l) t
  | .if_ e s, g, t => e.isLegal g && s.isLegal g t
  | .ifElse e s s', g, t => e.isLegal g && !s.isOpen && s.isLegal g t && s'.isLegal g (s.target t)
  | .for_ i e u s, g, _ => Expr.isLegalOf g i && Expr.isLegalOf g e && Expr.isLegalOf g u && s.isLegal g.loop true
  | .forIn x e s, g, t => t && g.allows x && e.isLegal g && s.isLegal g.loop true
  | .forOf x e s, g, t => t && g.allows x && x != "async" && e.isLegal g && s.isLegal g.loop true
  | .while_ e s, g, t | .doWhile s e, g, t => e.isLegal g && s.isLegal g.loop t
  | .with_ e s, g, t => !g.strict && e.isLegal g && s.isLegal g t
  | .tryCatch b x h, g, _ => b.isLegal g && g.binds x && h.isLegal g
  | .tryFinally b f, g, _ => b.isLegal g && f.isLegal g
  | .tryBoth b x h f, g, _ => b.isLegal g && g.binds x && h.isLegal g && f.isLegal g
  | .switch e cs, g, _ => e.isLegal g && cs.isLegal g.switch && cs.defaults ≤ 1

/-- Whether statements may stand on a ground. -/
def Stmts.isLegal : Stmts → Ground → Bool
  | .nil, _ => true
  | .cons s rest, g => s.isLegal g true && rest.isLegal g

/-- Whether cases may stand on a ground. -/
def Cases.isLegal : Cases → Ground → Bool
  | .nil, _ => true
  | .cons e b rest, g => Expr.isLegalOf g e && b.isLegal g && rest.isLegal g

end

end Deminify.Flow
