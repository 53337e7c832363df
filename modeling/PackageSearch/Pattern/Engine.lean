/-!
# Pattern engines

What a search over names asks of patterns. Which texts are patterns, what these match and which of
them are too large is the engine's own affair.
-/

set_option autoImplicit false

namespace PackageSearch

/-- What makes patterns of texts: the test of a text's pattern, or nothing where the text is
refused; and how a text is written so that it stands for itself. -/
structure PatternEngine where
  compile? : String → Option (String → Bool)
  escape : String → String

/-- Wherever the pattern of an escaped text is not refused, it occurs in the names that contain the
text, and in no others. -/
def PatternEngine.IsLiteral (engine : PatternEngine) : Prop :=
  ∀ (text : String) (passes : String → Bool), engine.compile? (engine.escape text) = some passes →
    ∀ name, passes name = true ↔ text.toList <:+: name.toList

end PackageSearch
