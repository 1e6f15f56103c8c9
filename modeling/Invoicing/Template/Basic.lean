import Invoicing.Template.Passes
import Invoicing.Text.Quoted
import Invoicing.Text.Numeral

/-!
# Named templates
-/

namespace Invoicing

/-- A template text with a name for diagnostics. -/
structure Template where
  /-- The name; it never shows in the output. -/
  name : Text
  /-- The template text. -/
  source : Text
  deriving DecidableEq, Repr

namespace Template

/-- The template rendered in a context. -/
def render (template : Template) (context : Context) : Text :=
  renderText template.source context

/-- The template in one line: its quoted name and the size of its text. -/
def description (template : Template) : Text :=
  "Template \x7b name: ".toList ++ (Text.quoted template.name ++ (", len: ".toList ++
    (Text.ofNat (Text.utf8Size template.source) ++ " \x7d".toList)))

end Template

end Invoicing
