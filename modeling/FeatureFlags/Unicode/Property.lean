import FeatureFlags.Unicode.CharSet
import FeatureFlags.Unicode.Alias
import FeatureFlags.Unicode.CategoryTable
import FeatureFlags.Unicode.ScriptTable
import FeatureFlags.Unicode.ScriptExtensionTable
import FeatureFlags.Unicode.PropertyTable
import FeatureFlags.Unicode.AgeTable
import FeatureFlags.Unicode.BreakTable

/-!
# Properties of characters

The sets named by a property, a general category, a script or a segmentation class (`namedSet?`,
`valuedSet?`), and the sets of digits, blanks and word characters. Names are compared loosely
(`looseName`): capitals, blanks, hyphens, underscores and a leading `is` do not count.
-/

namespace FeatureFlags.Unicode

/-- A name in the form in which names are compared. A name that is left with the letter `c` alone
after its leading `is` was taken off keeps it, since `isc` and `c` are names of different things. -/
def looseName (name : String) : String :=
  let (named, rest) : Bool × List Char :=
    match name.toList with
    | i :: s :: rest =>
      if (i = 'i' ∨ i = 'I') ∧ (s = 's' ∨ s = 'S') then (true, rest) else (false, i :: s :: rest)
    | cs => (false, cs)
  let kept := (rest.filter fun c => c.toNat < 128 && c != ' ' && c != '_' && c != '-').map Char.toLower
  if named && kept == ['c'] then "isc" else String.ofList kept

/-- The categories that a group of categories holds; a category stands for itself. -/
def categoryMembers : String → List String
  | "Cased_Letter" => ["Uppercase_Letter", "Lowercase_Letter", "Titlecase_Letter"]
  | "Letter" =>
    ["Uppercase_Letter", "Lowercase_Letter", "Titlecase_Letter", "Modifier_Letter", "Other_Letter"]
  | "Mark" => ["Nonspacing_Mark", "Spacing_Mark", "Enclosing_Mark"]
  | "Number" => ["Decimal_Number", "Letter_Number", "Other_Number"]
  | "Punctuation" =>
    ["Connector_Punctuation", "Dash_Punctuation", "Open_Punctuation", "Close_Punctuation",
     "Initial_Punctuation", "Final_Punctuation", "Other_Punctuation"]
  | "Symbol" => ["Math_Symbol", "Currency_Symbol", "Modifier_Symbol", "Other_Symbol"]
  | "Separator" => ["Space_Separator", "Line_Separator", "Paragraph_Separator"]
  | "Other" => ["Control", "Format", "Private_Use", "Unassigned"]
  | name => [name]

/-- The set of a general category or group of categories, given by the name of its row. -/
def categorySet? (name : String) : Option CharSet :=
  if name = "Any" then some .all
  else if name = "ASCII" then some (.ofRanges [(0, 0x7F)])
  else if name = "Assigned" then (CharSet.ofTable? categoryTable "Unassigned").map .compl
  else
    let members := categoryMembers name
    if members.all fun m => (categoryTable.lookup m).isSome then
      some (.ofRows categoryTable members)
    else none

/-- The set of a script and of all characters that are used in it besides. -/
def scriptExtensionSet? (name : String) : Option CharSet :=
  (CharSet.ofTable? scriptTable name).map fun own =>
    (own.union (.ofRows scriptExtensionAdditions [name])).diff (.ofRows scriptExtensionRemovals [name])

/-- The characters assigned in a version or before it. -/
def ageSet? (version : String) : Option CharSet :=
  if (ageTable.lookup version).isSome then
    let older := ageTable.takeWhile fun row => row.1 != version
    some (.ofRows ageTable (older.map (·.1) ++ [version]))
  else none

/-- The set that a single name asks for: a binary property, a general category or a script. The names
`cf`, `sc` and `lc` mean categories, although properties bear them too. -/
def namedSet? (name : String) : Option CharSet :=
  let key := looseName name
  let property :=
    if key = "cf" ∨ key = "sc" ∨ key = "lc" then none else propertyAliases.lookup key
  match property with
  | some row => CharSet.ofTable? propertyTable row
  | none =>
    match categoryAliases.lookup key with
    | some row => categorySet? row
    | none => (scriptAliases.lookup key).bind (CharSet.ofTable? scriptTable)

/-- The set that the name of a property and one of its values ask for. -/
def valuedSet? (name value : String) : Option CharSet :=
  let key := looseName value
  match propertyAliases.lookup (looseName name) with
  | some "General_Category" => (categoryAliases.lookup key).bind categorySet?
  | some "Script" => (scriptAliases.lookup key).bind (CharSet.ofTable? scriptTable)
  | some "Script_Extensions" => (scriptAliases.lookup key).bind scriptExtensionSet?
  | some "Age" => (ageAliases.lookup key).bind ageSet?
  | some "Grapheme_Cluster_Break" =>
    (graphemeBreakAliases.lookup key).bind (CharSet.ofTable? graphemeBreakTable)
  | some "Word_Break" => (wordBreakAliases.lookup key).bind (CharSet.ofTable? wordBreakTable)
  | some "Sentence_Break" => (sentenceBreakAliases.lookup key).bind (CharSet.ofTable? sentenceBreakTable)
  | _ => none

def digits : CharSet := .ofRows categoryTable ["Decimal_Number"]

def whiteSpace : CharSet := .ofRows propertyTable ["White_Space"]

/-- Word characters: letters, marks, digits, connectors and joiners. -/
def wordCharacters : CharSet :=
  (CharSet.ofRows propertyTable ["Alphabetic", "Join_Control"]).union
    (.ofRows categoryTable
      (["Decimal_Number", "Connector_Punctuation"] ++ categoryMembers "Mark"))

end FeatureFlags.Unicode
