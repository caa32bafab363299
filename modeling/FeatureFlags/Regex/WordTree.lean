import FeatureFlags.Regex.Extent

/-!
# Trees of words

The automaton for a choice among words is a tree in which words with a common beginning share nodes
(`treeExtent`). A word has a lower priority than an earlier word that is a prefix of it, so the
words of a node form runs, each ending where a word ends; nodes are shared within a run only.
-/

namespace FeatureFlags.Regex

/-- The bytes of a text that are still to be read. -/
abbrev Word := List Nat

/-- The runs of words at a node, each without the empty word that ends it. Empty words at the start end one
run only. -/
def runsOf : List Word → List (List Word)
  | [] => [[]]
  | [] :: rest => [] :: go [] (rest.dropWhile (·.isEmpty))
  | words => go [] words
where
  go (run : List Word) : List Word → List (List Word)
    | [] => [run.reverse]
    | [] :: rest => run.reverse :: go [] rest
    | word :: rest => go (word :: run) rest

def addByHead (groups : List (Nat × List Word)) (b : Nat) (rest : Word) : List (Nat × List Word) :=
  match groups with
  | [] => [(b, [rest])]
  | (b', rests) :: others =>
    if b = b' then (b', rests ++ [rest]) :: others else (b', rests) :: addByHead others b rest

/-- The words of a run, by what they begin with: what is left of each group. -/
def groupsOf (run : List Word) : List (List Word) :=
  let groups := run.foldl (fun groups word =>
    match word with
    | [] => groups
    | b :: rest => addByHead groups b rest) []
  groups.map (·.2)

/-- What is built for a run of which `n` groups lead on. -/
def runExtent (n : Nat) : Extent :=
  if n = 0 then .zero else if n = 1 then .ofStates 1 else ⟨1, 0, n⟩

/-- What is built for a node and for all below it; the first argument bounds the length of the words. Nothing is
built for a node where all words end. -/
def nodeExtent : Nat → List Word → Extent
  | 0, _ => .zero
  | n + 1, words =>
    if words.all (·.isEmpty) then .zero
    else
      let runs := runsOf words
      let leading := (runs.filter fun run => !run.isEmpty).length
      (runs.map groupsOf).foldl (fun e groups =>
          groups.foldl (fun e group => e.add (nodeExtent n group)) (e.add (runExtent groups.length)))
        ⟨1, leading + (runs.length - 1), 0⟩

/-- What is built for some words. -/
def treeExtent (words : List Word) : Extent :=
  (Extent.ofStates 1).add (nodeExtent (words.foldl (fun n word => max n word.length) 0) words)

end FeatureFlags.Regex
