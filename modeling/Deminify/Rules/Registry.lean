import Deminify.Rule.Basic
import Deminify.Rules.Destructuring
import Deminify.Rules.DirectCall
import Deminify.Rules.Element.Restore
import Deminify.Rules.ExtendsHelper
import Deminify.Rules.Layout
import Deminify.Rules.ModuleName
import Deminify.Rules.StrictDirective
import Deminify.Rules.Undefined
import Deminify.Rules.WhileLoop

/-!
# The known rules

* `Deminify.Rules.all` – all rules by name;
* `Deminify.Rules.defaultOrder` – the rules of an ordinary run, in order;
* `Deminify.Rules.select` – **the rules to run** for a choice of names.
-/

namespace Deminify.Rules

/-- A rule that edits the tree and has no options. -/
def plain (edit : Editing Unit) : Action := .tree fun _ => .ok edit

/-- All rules. -/
def all : List Rule := [
  { name := "un-use-strict", title := "UnUseStrictRule"
    description := "Remove 'use strict' directives"
    action := plain StrictDirective.run },
  { name := "module-mapping", title := "ModuleMappingRule"
    description := "Replace require ids with module file names"
    action := .tree fun params => ModuleName.run <$> ModuleName.Options.ofParams params },
  { name := "un-undefined", title := "UnUndefinedRule"
    description := "Replace 'void 0' with 'undefined'"
    action := plain Undefined.run },
  { name := "un-while-loop", title := "UnWhileLoopRule"
    description := "Convert for loops without init/update to while loops"
    action := plain WhileLoop.run },
  { name := "runtime-helpers", title := "RuntimeHelpersRule"
    description := "Restore object spread from the Babel extends helper"
    action := .tree fun params => ExtendsHelper.run <$> ExtendsHelper.Options.ofParams params },
  { name := "un-indirect-call", title := "UnIndirectCallRule"
    description := "Convert (0, obj.method)() calls into direct calls"
    action := plain DirectCall.run },
  { name := "smart-inline", title := "SmartInlineRule"
    description := "Inline temporary variables and reconstruct destructuring"
    action := plain Destructuring.run },
  { name := "un-jsx", title := "UnJsxRule"
    description := "Convert createElement/jsx calls to JSX"
    action := .tree fun params => Element.run <$> Element.Options.ofParams params },
  { name := "beautify", title := "BeautifyRule"
    description := "Beautify JavaScript code using js-beautify"
    action := .text fun params => Layout.run <$> Layout.Options.ofParams params }]

/-- The rules of an ordinary run, in order: all that edit the tree. -/
def defaultOrder : List String := (all.filter (·.kind == "tree")).map (·.name)

/-- The rule with a name. -/
def find (name : String) : Except Failure Rule :=
  match all.find? (·.name == name) with
  | some rule => .ok rule
  | none => .error (.unknownRule name (all.map (·.name)))

/-- The rules to run: those named, or the default ones if none are, and the layout at the end if it
is asked for and not chosen already. -/
def select (names : List String) (format : Bool) : Except Failure (List Rule) :=
  let chosen := if names.isEmpty then defaultOrder else names
  let chosen := if format && !chosen.contains "beautify" then chosen ++ ["beautify"] else chosen
  chosen.mapM find

end Deminify.Rules
