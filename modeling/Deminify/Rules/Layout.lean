import Deminify.Rule.Params
import Deminify.Rules.Layout.Writer

/-!
# Layout

The one rule that works on the text: the printed program is laid out anew, with a chosen number of
blanks to a level.

* `Deminify.Rules.Layout.Options` – the number of blanks;
* `Deminify.Rules.Layout.run` – **the text laid out**, if that changes it.
-/

namespace Deminify.Rules.Layout

/-- The number of blanks of one level. -/
structure Options where
  indentSize : Int := 2

/-- The options from the parameters of a run. -/
def Options.ofParams (params : Params) : Except Failure Options :=
  Params.check "Options" (Options.mk <$> Setting.orDefault 2 (Setting.wholeFrom 1)
    (params.find? ["indentSize", "indent_size"]))

/-- The text laid out anew; none if it is so already. -/
def run (options : Options) (text : String) : Except Failure (Option String) := do
  let laidOut ← layOut options.indentSize.toNat text
  return if laidOut == text then none else some laidOut

end Deminify.Rules.Layout
