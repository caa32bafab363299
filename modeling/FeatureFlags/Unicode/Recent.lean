import FeatureFlags.Unicode.CharSet
import FeatureFlags.Unicode.RecentTable

/-!
# Characters in messages and in names

Which characters a message shows unescaped, and which can occur in the name of a group. Both use a
later version of the character set than the classes of patterns.
-/

namespace FeatureFlags.Unicode

/-- Letters: all characters that are alphabetic. -/
def alphabetic : CharSet := .ofRows recentTable ["Alphabetic"]

/-- Letters and numbers of any kind. -/
def alphanumeric : CharSet := .ofRows recentTable ["Alphabetic", "Number"]

/-- Characters that join the one before them. The two halfwidth sound marks take a cell of their own. -/
def joining : CharSet :=
  (CharSet.ofRows recentTable ["Grapheme_Extend"]).diff (.ofRanges [(0xFF9E, 0xFF9F)])

/-- Characters that cannot be seen: controls, formats, code points for private use, unassigned ones, separators
other than the blank, and what may be left out when a text is shown. -/
def invisible : CharSet :=
  (CharSet.ofRows recentTable ["Other", "Separator", "Default_Ignorable_Code_Point"]).diff
    (.singleton ' ')

end FeatureFlags.Unicode
