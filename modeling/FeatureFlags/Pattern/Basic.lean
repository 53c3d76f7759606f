import FeatureFlags.Pattern.Match
import FeatureFlags.Pattern.Parser
import FeatureFlags.Pattern.Size

/-!
# Patterns

A regular expression that is well formed and not too large.  It is looked for
anywhere in a text.
-/

namespace FeatureFlags

/-- A regular expression. -/
structure Pattern where
  expr : Pattern.Expr

namespace Pattern

/-- The pattern that a text spells; none if the text is not well formed or the pattern is too
large. -/
def compile? (text : String) : Option Pattern := do
  let e ← Parser.expr? text.toList
  if Size.fits e then some ⟨e⟩ else none

/-- Whether the pattern matches somewhere in a text. -/
def isMatch (p : Pattern) (text : String) : Bool := p.expr.occursIn text

end Pattern

end FeatureFlags
