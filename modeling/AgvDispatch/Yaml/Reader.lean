import AgvDispatch.Yaml.Layout
import AgvDispatch.Yaml.Node
/-!
# Reading YAML

A text is read in two steps: its characters and its layout give tokens, and these give values.
-/

namespace AgvDispatch.Yaml

/-- The value that a text consists of: that of its only document, or a table without entries if it
has none. -/
def parse? (document : String) : Option Yaml :=
  (Layout.tokens? (unified document.toList)).bind ofTokens?

end AgvDispatch.Yaml
