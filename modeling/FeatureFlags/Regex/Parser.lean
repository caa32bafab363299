import FeatureFlags.Regex.Pattern
import FeatureFlags.Unicode.Property
import FeatureFlags.Unicode.Recent

/-!
# Parsing patterns

`Pattern.parse?` reads a pattern from the left. Open groups, with the branches read so far, and open
classes are kept on stacks. A text that is not a pattern yields nothing; the reason is not kept.

Where blanks are ignored, so are comments, which begin with `#` and end with the line. `skip` passes
both.
-/

namespace FeatureFlags.Regex

def isBlankChar (c : Char) : Bool := Unicode.whiteSpace.contains c

/-- The text behind blanks and comments; the flag says whether a comment has begun. -/
def skipBlanks : Bool → List Char → List Char
  | _, [] => []
  | true, c :: rest => skipBlanks (c != '\n') rest
  | false, c :: rest =>
    if isBlankChar c then skipBlanks false rest
    else if c = '#' then skipBlanks true rest
    else c :: rest

/-- The text behind blanks and comments, where they may stand. -/
def skip (spaced : Bool) (cs : List Char) : List Char := if spaced then skipBlanks false cs else cs

/-- The text behind a character and what may be skipped after it. -/
def pass (spaced : Bool) (cs : List Char) : List Char := skip spaced cs.tail

/-- A text without the given characters at its start. -/
def dropStart? : List Char → List Char → Option (List Char)
  | [], cs => some cs
  | _ :: _, [] => none
  | e :: es, c :: cs => if e = c then dropStart? es cs else none

/-! ## Numbers -/

/-- The value of digits in a base, unless it takes more than 32 bits. -/
def wordValue? (base : Nat) (ds : List Nat) : Option Nat :=
  let n := ds.foldl (fun n d => base * n + d) 0
  if n < 0x100000000 then some n else none

/-- The digits in base 10 at the start of a text; what may be skipped may follow each. -/
def takeDecimals (spaced : Bool) : Nat → List Char → List Nat × List Char
  | 0, cs => ([], cs)
  | _ + 1, [] => ([], [])
  | fuel + 1, c :: rest =>
    if '0' ≤ c ∧ c ≤ '9' then
      let (ds, rest') := takeDecimals spaced fuel (skip spaced rest)
      ((c.toNat - '0'.toNat) :: ds, rest')
    else ([], c :: rest)

/-- A number in base 10, with blanks around it. -/
def takeDecimal (spaced : Bool) (cs : List Char) : Option (Nat × List Char) :=
  let (ds, rest) := takeDecimals spaced cs.length (cs.dropWhile isBlankChar)
  if ds.isEmpty then none
  else (wordValue? 10 ds).map fun n => (n, skip spaced (rest.dropWhile isBlankChar))

def charOf? (n : Nat) : Option Char := if h : n.isValidChar then some (Char.ofNatAux n h) else none

/-- A fixed number of digits in base 16; what may be skipped may stand between them and follows them. -/
def takeHexDigits (spaced : Bool) : Nat → List Char → Option (List Nat × List Char)
  | 0, cs => some ([], cs)
  | _ + 1, [] => none
  | n + 1, c :: rest => do
    let d ← Unicode.CharSet.hexDigit? c
    let (ds, rest') ← takeHexDigits spaced n (skip spaced rest)
    some (d :: ds, rest')

def takeHexUntilBrace : List Char → (spaced : Bool) → Nat → Option (List Nat × List Char)
  | _, _, 0 => none
  | [], _, _ => none
  | c :: rest, spaced, fuel + 1 =>
    if c = '\x7d' then some ([], skip spaced rest)
    else do
      let d ← Unicode.CharSet.hexDigit? c
      let (ds, rest') ← takeHexUntilBrace (skip spaced rest) spaced fuel
      some (d :: ds, rest')

/-- A character that is given by its code point, after the letter that says so. -/
def takeHex (spaced : Bool) (count : Nat) (cs : List Char) : Option (Letter × List Char) := do
  match skip spaced cs with
  | [] => none
  | '\x7b' :: rest =>
    let (ds, rest') ← takeHexUntilBrace (skip spaced rest) spaced (rest.length + 1)
    if ds.isEmpty then none
    let c ← (wordValue? 16 ds).bind charOf?
    some (⟨c, false⟩, rest')
  | cs =>
    let (ds, rest') ← takeHexDigits spaced count cs
    let c ← (wordValue? 16 ds).bind charOf?
    some (⟨c, count == 2⟩, rest')

/-! ## Escapes -/

/-- What an escape or a single character stands for. -/
inductive Part where
  | letter (l : Letter)
  | dot
  | assertion (kind : Assertion)
  | short (kind : ShortClass) (negated : Bool)
  | property (name : PropertyName) (negated : Bool)
  deriving Repr, Inhabited

/-- Splits a text at the first place where the given characters stand. -/
def splitAt? (mark : List Char) : List Char → Option (List Char × List Char)
  | [] => none
  | c :: rest =>
    match dropStart? mark (c :: rest) with
    | some rest' => some ([], rest')
    | none => (splitAt? mark rest).map fun p => (c :: p.1, p.2)

/-- The name of a property in braces, perhaps with a value. Of the marks between the two, that of an inequality is
looked for first, wherever it stands. -/
def propertyName (cs : List Char) : PropertyName :=
  match splitAt? ['!', '='] cs with
  | some p => .unequal (String.ofList p.1) (String.ofList p.2)
  | none =>
    match (splitAt? [':'] cs).or (splitAt? ['='] cs) with
    | some p => .equal (String.ofList p.1) (String.ofList p.2)
    | none => .single (String.ofList cs)

def takeUntilBrace (spaced : Bool) : Nat → List Char → Option (List Char × List Char)
  | 0, _ => none
  | _, [] => none
  | fuel + 1, c :: rest =>
    if c = '\x7d' then some ([], rest)
    else (takeUntilBrace spaced fuel (skip spaced rest)).map fun p => (c :: p.1, p.2)

/-- A property, after the letter that says so. -/
def takeProperty (spaced : Bool) (cs : List Char) : Option (PropertyName × List Char) :=
  match skip spaced cs with
  | [] => none
  | '\x7b' :: rest =>
    (takeUntilBrace spaced (rest.length + 1) (skip spaced rest)).map fun p => (propertyName p.1, p.2)
  | c :: rest => if c = '\\' then none else some (.single (String.singleton c), skip spaced rest)

/-- Characters that have a meaning in some place of a pattern. -/
def isMeta (c : Char) : Bool :=
  ['\\', '.', '+', '*', '?', '(', ')', '|', '[', ']', '\x7b', '\x7d', '^', '$', '#', '&', '-', '~'].contains c

/-- Characters that may stand after a backslash without a meaning of their own. -/
def isEscapable (c : Char) : Bool :=
  isMeta c || (c.toNat < 128 && !c.isAlphanum && c != '<' && c != '>')

def isBoundaryChar (c : Char) : Bool := c.isAlpha || c == '-'

/-- The name of a boundary up to its closing brace. -/
def takeBoundaryName (spaced : Bool) : Nat → List Char → Option (List Char × List Char)
  | 0, _ => none
  | _, [] => none
  | fuel + 1, c :: rest =>
    if c = '\x7d' then some ([], rest)
    else if isBoundaryChar c then
      (takeBoundaryName spaced fuel (skip spaced rest)).map fun p => (c :: p.1, p.2)
    else none

/-- A boundary, after its letter. A brace that follows holds the name of a special boundary, or else the counts
of a repetition, which are left. -/
def takeBoundary (spaced : Bool) (cs : List Char) : Option (Assertion × List Char) :=
  match cs with
  | '\x7b' :: rest =>
    match skip spaced rest with
    | [] => none
    | c :: rest' =>
      if isBoundaryChar c then do
        let (name, behind) ← takeBoundaryName spaced (rest.length + 1) (c :: rest')
        match String.ofList name with
        | "start" => some (.wordStart, behind)
        | "end" => some (.wordEnd, behind)
        | "start-half" => some (.wordStartHalf, behind)
        | "end-half" => some (.wordEndHalf, behind)
        | _ => none
      else some (.wordBoundary, cs)
  | cs => some (.wordBoundary, cs)

def takeEscape (spaced : Bool) : List Char → Option (Part × List Char)
  | [] => none
  | c :: rest =>
    let letter (d : Char) : Option (Part × List Char) := some (.letter ⟨d, false⟩, rest)
    match c with
    | 'x' => (takeHex spaced 2 rest).map fun p => (.letter p.1, p.2)
    | 'u' => (takeHex spaced 4 rest).map fun p => (.letter p.1, p.2)
    | 'U' => (takeHex spaced 8 rest).map fun p => (.letter p.1, p.2)
    | 'p' => (takeProperty spaced rest).map fun p => (.property p.1 false, p.2)
    | 'P' => (takeProperty spaced rest).map fun p => (.property p.1 true, p.2)
    | 'd' => some (.short .digit false, rest)
    | 's' => some (.short .space false, rest)
    | 'w' => some (.short .word false, rest)
    | 'D' => some (.short .digit true, rest)
    | 'S' => some (.short .space true, rest)
    | 'W' => some (.short .word true, rest)
    | 'a' => letter '\x07'
    | 'f' => letter '\x0c'
    | 't' => letter '\t'
    | 'n' => letter '\n'
    | 'r' => letter '\r'
    | 'v' => letter '\x0b'
    | 'A' => some (.assertion .textStart, rest)
    | 'z' => some (.assertion .textEnd, rest)
    | 'b' => (takeBoundary spaced rest).map fun p => (.assertion p.1, p.2)
    | 'B' => some (.assertion .notWordBoundary, rest)
    | '<' => some (.assertion .wordStart, rest)
    | '>' => some (.assertion .wordEnd, rest)
    | c => if isEscapable c then letter c else none

/-! ## Classes -/

def asciiClass? : String → Option AsciiClass
  | "alnum" => some .alnum
  | "alpha" => some .alpha
  | "ascii" => some .ascii
  | "blank" => some .blank
  | "cntrl" => some .cntrl
  | "digit" => some .digit
  | "graph" => some .graph
  | "lower" => some .lower
  | "print" => some .print
  | "punct" => some .punct
  | "space" => some .space
  | "upper" => some .upper
  | "word" => some .word
  | "xdigit" => some .xdigit
  | _ => none

/-- A named class between `[:` and `:]`, of which the bracket has been taken. -/
def takeAsciiClass (cs : List Char) : Option (Class × List Char) :=
  match cs with
  | ':' :: rest =>
    let (negated, rest) := match rest with
      | '^' :: r => (true, r)
      | r => (false, r)
    let name := rest.takeWhile (· != ':')
    match dropStart? [':', ']'] (rest.dropWhile (· != ':')), asciiClass? (String.ofList name) with
    | some behind, some kind => some (.ascii kind negated, behind)
    | _, _ => none
  | _ => none

/-- What is open inside a class: a bracket, with the items before it, or an operation, with its left
side. -/
inductive ClassFrame where
  | bracket (before : List Class) (negated : Bool)
  | operation (op : SetOperation) (left : Class)
  deriving Inhabited

/-- The class of items, which are listed with the latest first. -/
def classOf : List Class → Class
  | [] => .empty
  | [c] => c
  | items => .union items.reverse

/-- Applies an open operation to its right side. -/
def closeOperation (right : Class) : List ClassFrame → Class × List ClassFrame
  | .operation op left :: frames => (.combine op left right, frames)
  | frames => (right, frames)

/-- The hyphens at the start of a class, which stand for themselves. -/
def takeHyphens (spaced : Bool) : Nat → List Class → List Char → List Class × List Char
  | 0, items, cs => (items, cs)
  | fuel + 1, items, '-' :: rest =>
    takeHyphens spaced fuel (.letter ⟨'-', false⟩ :: items) (skip spaced rest)
  | _ + 1, items, cs => (items, cs)

/-- The start of a class whose bracket has been taken: whether it is negated, and the items that only
there stand for themselves. -/
def openClass (spaced : Bool) (cs : List Char) : Option ((Bool × List Class) × List Char) :=
  let cs := skip spaced cs
  let (negated, cs) := match cs with
    | '^' :: rest => (true, skip spaced rest)
    | cs => (false, cs)
  let (items, cs) := takeHyphens spaced cs.length [] cs
  match items, cs with
  | _, [] => none
  | [], ']' :: rest =>
    match skip spaced rest with
    | [] => none
    | rest => some ((negated, [.letter ⟨']', false⟩]), rest)
  | items, cs => some ((negated, items), cs)

/-- The next character that is not skipped after the first one. A comment does not count as skipped once
it has text. -/
def peekPast (spaced : Bool) : List Char → Option Char
  | [] => none
  | _ :: rest => if spaced then look false rest rest.head? else rest.head?
where
  look (inComment : Bool) (cs : List Char) (first : Option Char) : Option Char :=
    match cs with
    | [] => first
    | c :: rest =>
      if isBlankChar c then look inComment rest first
      else if !inComment && c = '#' then look true rest first
      else some c

def takeClassPart (spaced : Bool) : List Char → Option (Part × List Char)
  | [] => none
  | '\\' :: rest => takeEscape spaced rest
  | c :: rest => some (.letter ⟨c, false⟩, rest)

def Part.item? : Part → Option Class
  | .letter l => some (.letter l)
  | .short kind negated => some (.short kind negated)
  | .property name negated => some (.property name negated)
  | .dot => none
  | .assertion _ => none

def Part.letter? : Part → Option Letter
  | .letter l => some l
  | _ => none

def takeClassItem (spaced : Bool) (cs : List Char) : Option (Class × List Char) := do
  let (first, rest) ← takeClassPart spaced cs
  match skip spaced rest with
  | [] => none
  | '-' :: rest' =>
    let following := peekPast spaced ('-' :: rest')
    if following = some ']' ∨ following = some '-' then
      let item ← first.item?
      some (item, '-' :: rest')
    else
      match skip spaced rest' with
      | [] => none
      | cs =>
        let (last, behind) ← takeClassPart spaced cs
        let lo ← first.letter?
        let hi ← last.letter?
        if lo.char ≤ hi.char then some (.range lo hi, behind) else none
  | rest' =>
    let item ← first.item?
    some (item, rest')

/-- Reads a class. `frames` is what is open, the innermost first, and `items` are the items since then, the
latest first. -/
def takeClassFrom (spaced : Bool) : Nat → List ClassFrame → List Class → List Char → Option (Class × List Char)
  | 0, _, _, _ => none
  | fuel + 1, frames, items, cs =>
    match skip spaced cs with
    | [] => none
    | '[' :: rest =>
      match takeAsciiClass rest with
      | some (c, behind) => takeClassFrom spaced fuel frames (c :: items) behind
      | none => do
        let ((negated, first), behind) ← openClass spaced rest
        takeClassFrom spaced fuel (.bracket items negated :: frames) first behind
    | ']' :: rest =>
      let (inner, outer) := closeOperation (classOf items) frames
      match outer with
      | [.bracket _ negated] => some (.bracketed negated inner, rest)
      | .bracket before negated :: outer =>
        takeClassFrom spaced fuel outer (.bracketed negated inner :: before) rest
      | _ => none
    | '&' :: '&' :: rest =>
      let (left, outer) := closeOperation (classOf items) frames
      takeClassFrom spaced fuel (.operation .intersection left :: outer) [] rest
    | '-' :: '-' :: rest =>
      let (left, outer) := closeOperation (classOf items) frames
      takeClassFrom spaced fuel (.operation .difference left :: outer) [] rest
    | '~' :: '~' :: rest =>
      let (left, outer) := closeOperation (classOf items) frames
      takeClassFrom spaced fuel (.operation .symmetricDifference left :: outer) [] rest
    | cs => do
      let (item, behind) ← takeClassItem spaced cs
      takeClassFrom spaced fuel frames (item :: items) behind

/-- Reads a class whose bracket has been taken. -/
def takeClass (spaced : Bool) (cs : List Char) : Option (Class × List Char) := do
  let ((negated, first), rest) ← openClass spaced cs
  takeClassFrom spaced (cs.length + 1) [.bracket [] negated] first rest

/-! ## Groups and repetitions -/

def flag? : Char → Option Flag
  | 'i' => some .ignoreCase
  | 'm' => some .multiLine
  | 's' => some .dotAll
  | 'U' => some .swapGreed
  | 'u' => some .unicode
  | 'R' => some .crlf
  | 'x' => some .ignoreSpace
  | _ => none

/-- Flags up to the character that ends them, which is left; none may occur twice, and a hyphen has to
be followed by one. -/
def takeFlags (change : FlagChange) (clearing dangling : Bool) : List Char → Option (FlagChange × List Char)
  | [] => none
  | c :: rest =>
    if c = ':' ∨ c = ')' then if dangling then none else some (change, c :: rest)
    else if c = '-' then if clearing then none else takeFlags change true true rest
    else
      match flag? c with
      | none => none
      | some f =>
        if (change.state? f).isSome then none
        else if clearing then takeFlags { change with cleared := f :: change.cleared } true false rest
        else takeFlags { change with set := f :: change.set } false false rest

def isNameChar (isFirst : Bool) (c : Char) : Bool :=
  c == '_' || Unicode.alphabetic.contains c ||
    (!isFirst && (c == '.' || c == '[' || c == ']' || Unicode.alphanumeric.contains c))

/-- The name of a group up to its closing mark. -/
def takeGroupName (isFirst : Bool) : List Char → Option (List Char × List Char)
  | [] => none
  | c :: rest =>
    if c = '>' then some ([], rest)
    else if isNameChar isFirst c then
      (takeGroupName false rest).map fun p => (c :: p.1, p.2)
    else none

/-- What follows an opening parenthesis. -/
inductive Opening where
  | flags (change : FlagChange)
  | group (captures : Bool) (change : FlagChange) (name : Option String)
  deriving Inhabited

def takeNamedGroup (cs : List Char) : Option (Opening × List Char) :=
  (takeGroupName true cs).bind fun p =>
    if p.1.isEmpty then none else some (.group true ⟨[], []⟩ (some (String.ofList p.1)), p.2)

/-- What follows an opening parenthesis, up to the first part inside the group. -/
def takeOpening (spaced : Bool) (cs : List Char) : Option (Opening × List Char) :=
  match skip spaced cs with
  | '?' :: '=' :: _ => none
  | '?' :: '!' :: _ => none
  | '?' :: '<' :: '=' :: _ => none
  | '?' :: '<' :: '!' :: _ => none
  | '?' :: 'P' :: '<' :: rest => takeNamedGroup rest
  | '?' :: '<' :: rest => takeNamedGroup rest
  | '?' :: rest => do
    let (change, rest') ← takeFlags ⟨[], []⟩ false false rest
    match rest' with
    | ')' :: behind =>
      if change.set.isEmpty && change.cleared.isEmpty then none else some (.flags change, behind)
    | _ :: behind => some (.group false change none, behind)
    | [] => none
  | cs => some (.group true ⟨[], []⟩ none, cs)

/-- Whether a repetition is greedy, and the text behind the mark that would make it lazy. -/
def takeGreed : List Char → Bool × List Char
  | '?' :: rest => (false, rest)
  | cs => (true, cs)

/-- The counts of a repetition, whose brace has been taken. The text behind them is as `takeGreed` needs it. -/
def takeCounts (spaced : Bool) (cs : List Char) : Option ((Nat × Option Nat) × List Char) := do
  match skip spaced cs with
  | [] => none
  | cs =>
    let (min, rest) ← takeDecimal spaced cs
    let ((min, max), rest) ← (match rest with
      | ',' :: rest =>
        match skip spaced rest with
        | '\x7d' :: rest => some ((min, none), '\x7d' :: rest)
        | rest => (takeDecimal spaced rest).map fun p => ((min, some p.1), p.2)
      | rest => some ((min, some min), rest) : Option ((Nat × Option Nat) × List Char))
    match rest with
    | '\x7d' :: rest =>
      if max.all (min ≤ ·) then some ((min, max), skip spaced rest) else none
    | _ => none

/-- The pattern of parts, which are listed with the latest first. -/
def sequenceOf : List Pattern → Pattern
  | [] => .empty
  | [p] => p
  | items => .sequence items.reverse

/-- The pattern of branches, which are listed with the latest first. -/
def choiceOf : List Pattern → Pattern
  | [p] => p
  | branches => .choice branches.reverse

/-- A group that is open: what had been read around it, and whether blanks may stand there. -/
structure GroupFrame where
  branches : List Pattern
  items : List Pattern
  captures : Bool
  change : FlagChange
  spaced : Bool
  deriving Inhabited

/-- The place that reading a pattern has reached: the groups that are open, and inside the innermost one the
branches and the items of the branch, all with the latest first; the names that groups have, and whether
blanks may stand between parts. -/
structure Place where
  frames : List GroupFrame
  branches : List Pattern
  items : List Pattern
  names : List String
  spaced : Bool
  deriving Inhabited

def Place.add (p : Place) (item : Pattern) : Place := { p with items := item :: p.items }

def Place.repeatLast (p : Place) (min : Nat) (max : Option Nat) (greedy : Bool) : Option Place :=
  match p.items with
  | [] => none
  | .empty :: _ => none
  | .flags _ :: _ => none
  | item :: items => some { p with items := .repeated min max greedy item :: items }

def Place.openGroup (p : Place) : Opening → Option Place
  | .flags change =>
    some { (p.add (.flags change)) with spaced := (change.state? .ignoreSpace).getD p.spaced }
  | .group captures change name =>
    if (name.map p.names.contains).getD false then none
    else some
      { frames := ⟨p.branches, p.items, captures, change, p.spaced⟩ :: p.frames
        branches := []
        items := []
        names := name.toList ++ p.names
        spaced := (change.state? .ignoreSpace).getD p.spaced }

/-- What has been read inside the innermost group. -/
def Place.inner (p : Place) : Pattern := choiceOf (sequenceOf p.items :: p.branches)

def Place.closeGroup (p : Place) : Option Place :=
  match p.frames with
  | [] => none
  | f :: frames =>
    some
      { frames := frames
        branches := f.branches
        items := .group f.captures f.change p.inner :: f.items
        names := p.names
        spaced := f.spaced }

def Part.pattern : Part → Pattern
  | .letter l => .letter l
  | .dot => .dot
  | .assertion kind => .assertion kind
  | .short kind negated => .short kind negated
  | .property name negated => .property name negated

def takePart (spaced : Bool) : List Char → Option (Part × List Char)
  | [] => none
  | '\\' :: rest => takeEscape spaced rest
  | '.' :: rest => some (.dot, rest)
  | '^' :: rest => some (.assertion .lineStart, rest)
  | '$' :: rest => some (.assertion .lineEnd, rest)
  | c :: rest => some (.letter ⟨c, false⟩, rest)

def parseFrom : Nat → Place → List Char → Option Pattern
  | 0, _, _ => none
  | fuel + 1, p, cs =>
    match skip p.spaced cs with
    | [] => if p.frames.isEmpty then some p.inner else none
    | '(' :: rest => do
      let (opening, rest) ← takeOpening p.spaced rest
      parseFrom fuel (← p.openGroup opening) rest
    | ')' :: rest => do parseFrom fuel (← p.closeGroup) rest
    | '|' :: rest =>
      parseFrom fuel { p with branches := sequenceOf p.items :: p.branches, items := [] } rest
    | '[' :: rest => do
      let (c, rest) ← takeClass p.spaced rest
      match c with
      | .bracketed negated inner => parseFrom fuel (p.add (.bracketed negated inner)) rest
      | _ => none
    | '?' :: rest => do
      let (greedy, rest) := takeGreed rest
      parseFrom fuel (← p.repeatLast 0 (some 1) greedy) rest
    | '*' :: rest => do
      let (greedy, rest) := takeGreed rest
      parseFrom fuel (← p.repeatLast 0 none greedy) rest
    | '+' :: rest => do
      let (greedy, rest) := takeGreed rest
      parseFrom fuel (← p.repeatLast 1 none greedy) rest
    | '\x7b' :: rest => do
      let ((min, max), rest) ← takeCounts p.spaced rest
      let (greedy, rest) := takeGreed rest
      parseFrom fuel (← p.repeatLast min max greedy) rest
    | cs => do
      let (part, rest) ← takePart p.spaced cs
      parseFrom fuel (p.add part.pattern) rest

def Pattern.parse? (s : String) : Option Pattern :=
  (parseFrom (s.length + 1) ⟨[], [], [], [], false⟩ s.toList).bind fun p =>
    if p.depth ≤ depthLimit then some p else none

end FeatureFlags.Regex
