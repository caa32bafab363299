import FeatureFlags.Regex.Parser
import FeatureFlags.Regex.Meaning
import FeatureFlags.Regex.SoughtText
import FeatureFlags.Regex.Automaton

/-!
# Matching

`Regex.matches?` tests whether a pattern matches some part of a text. A text is refused as a pattern
if it does not parse, has no meaning, or is too large, unless it is sought by its texts.
-/

namespace FeatureFlags.Regex

def language? (pattern : String) : Option Language :=
  ((Pattern.parse? pattern).bind fun p => p.language? .initial).bind fun p =>
    if !p.1.isSoughtByTexts && p.1.isTooLarge then none else some p.1

/-- Whether a regular expression matches some part of a text; nothing if it is none. -/
def matches? (pattern text : String) : Option Bool :=
  (language? pattern).map fun l => l.automaton.accepts text.toList

def withFlags (flags pattern : String) : String :=
  if flags.isEmpty then pattern else "(?" ++ flags ++ ")" ++ pattern

end FeatureFlags.Regex
