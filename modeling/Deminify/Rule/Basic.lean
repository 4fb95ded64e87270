import Deminify.Rule.Context
import Deminify.Rule.Params

/-!
# Rules

A rule either edits the tree of a program or changes its text. It reads its options from the
parameters of a run first, and only then goes to work; each of the two may fail. Rules are put
together to groups, which may be nested and run in order.

* `Deminify.Rule`, `Deminify.Action` – a rule and what it does;
* `Deminify.RuleGroup`, `Deminify.RuleGroup.flatten` – groups, and **their rules in order**.
-/

namespace Deminify

/-- What a rule does under given parameters: it edits the tree, or it returns a new text or none to
keep the old one. -/
inductive Action where
  | tree (prepare : Params → Except Failure (Editing Unit))
  | text (prepare : Params → Except Failure (String → Except Failure (Option String)))

/-- A named rule. -/
structure Rule where
  name : String
  title : String := ""
  description : String := ""
  action : Action

namespace Rule

/-- The word for what a rule works on. -/
def kind (rule : Rule) : String :=
  match rule.action with
  | .tree _ => "tree"
  | .text _ => "text"

/-- How a rule is shown. -/
def shown (rule : Rule) : String := "<" ++ rule.title ++ " " ++ rule.name ++ ">"

end Rule

/-- A rule or an ordered group of such. -/
inductive RuleGroup where
  | one (rule : Rule)
  | all (members : List RuleGroup)

namespace RuleGroup

mutual

/-- The rules of a group in order. -/
def flatten (group : RuleGroup) : List Rule :=
  match group with
  | .one rule => [rule]
  | .all members => flattenAll members
termination_by structural group

/-- The rules of several groups in order. -/
def flattenAll (groups : List RuleGroup) : List Rule :=
  match groups with
  | [] => []
  | group :: rest => group.flatten ++ flattenAll rest
termination_by structural groups

end

/-- The direct members of a group; a rule is its own. -/
def members (group : RuleGroup) : List RuleGroup :=
  match group with
  | .one rule => [.one rule]
  | .all members => members

/-- Two groups one after the other. -/
def append (a b : RuleGroup) : RuleGroup := .all (a.members ++ b.members)

/-- A group with one more member, which stays a group if it is one. -/
def add (group member : RuleGroup) : RuleGroup := .all (group.members ++ [member])

end RuleGroup

end Deminify
