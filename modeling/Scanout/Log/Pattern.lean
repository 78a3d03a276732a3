import Scanout.Text.Alphanumeric
import Scanout.Text.Blank
import Scanout.Text.Reading

/-!
Patterns for the values of fields: truth values, numbers, and regular expressions. Here it is only
decided what is a pattern, for a filter with anything else in it is refused.

Expressions are about all scripts, but know no classes of letters and no pairs of upper and lower
case: what needs either is no pattern, and neither is what asks where words begin or end. Where an
expression says that it is about ASCII alone it can have all that, and can have nothing that bytes
outside of ASCII would match.
-/

namespace Scanout.Log.Pattern

open Reading

/-- How the parts of an expression are to be read. Flags inside it change that up to the end of the
group they stand in. -/
structure Mode where
  /-- Upper and lower case are the same. -/
  insensitive : Bool := false
  /-- Blanks and comments between the parts do not count. -/
  spaced : Bool := false
  /-- The expression is about all scripts, and not about ASCII alone. -/
  allScripts : Bool := true

namespace Mode

/-- Switches a flag. Those that concern only what matches are left out. -/
def switched (mode : Mode) (flag : Char × Bool) : Mode :=
  match flag with
  | ('i', on) => { mode with insensitive := on }
  | ('x', on) => { mode with spaced := on }
  | ('u', on) => { mode with allScripts := on }
  | _ => mode

/-- Characters can be compared: for all scripts, case would have to count. -/
def canCompare (mode : Mode) : Bool := !mode.insensitive || !mode.allScripts

end Mode

/-- Something that is written as one character or after a backslash. -/
inductive Atom where
  | literal (char : Char)
  /-- A literal that is written as a byte. -/
  | byte (char : Char)
  /-- One of the classes of digits, blanks and word characters, or with a capital letter all but
  those. -/
  | shorthand (letter : Char)
  /-- A place: the beginning or the end of everything or of a word. -/
  | anchor (mark : Char)

def anyChar : Reading Char := satisfying fun _ => true

/-- Passes over blanks and comments where they do not count. -/
def gap (mode : Mode) : Reading Unit := do
  if mode.spaced then
    discard (span Text.whiteSpace.contains)
    discard (many (do
      discard (char '#')
      discard (span (· != '\n'))
      discard (span Text.whiteSpace.contains)))

/-- The next character after a gap. Of a comment only the mark at its beginning belongs to the gap
here. -/
def afterGap? (mode : Mode) (text : List Char) : Option Char :=
  if mode.spaced then
    match text.dropWhile Text.whiteSpace.contains with
    | '#' :: rest => (rest.dropWhile Text.whiteSpace.contains).head?
    | rest => rest.head?
  else text.head?

def hexDigits (mode : Mode) : (count : Nat) → Reading (List Char)
  | 0 => pure []
  | count + 1 => do
      gap mode
      let digit ← satisfying fun char => (hexDigit? char).isSome
      return digit :: (← hexDigits mode count)

/-- The character with a code point of so many digits. -/
def numbered (mode : Mode) (count : Nat) : Reading Char := do
  let code := numeral 16 (← hexDigits mode count)
  guard code.isValidChar
  return Char.ofNat code

/-- Punctuation and control characters that may follow a backslash and then stand for themselves. -/
def isEscapable (char : Char) : Bool :=
  char.toNat < 128 && !char.isAlphanum && char != '<' && char != '>'

def escaped (mode : Mode) : Reading Atom := do
  match ← anyChar with
  | 'x' => .byte <$> numbered mode 2
  | 'u' => .literal <$> numbered mode 4
  | 'U' => .literal <$> numbered mode 8
  | 'a' => return .literal '\x07'
  | 'f' => return .literal '\x0c'
  | 't' => return .literal '\t'
  | 'n' => return .literal '\n'
  | 'r' => return .literal '\r'
  | 'v' => return .literal '\x0b'
  | char =>
      if ['d', 's', 'w', 'D', 'S', 'W'].contains char then return .shorthand char
      else if ['A', 'z', 'b', 'B', '<', '>'].contains char then return .anchor char
      else
        guard (isEscapable char)
        return .literal char

def atom (mode : Mode) : Reading Atom := do
  match ← anyChar with
  | '\\' => escaped mode
  | char => return .literal char

namespace Atom

/-- An atom makes sense outside of classes. -/
def admitted (mode : Mode) : Atom → Bool
  | literal _ => mode.canCompare
  | byte char => mode.canCompare && (mode.allScripts || char.toNat < 128)
  | shorthand letter => !mode.allScripts && letter.isLower
  | anchor mark => !mode.allScripts || mark == 'A' || mark == 'z'

/-- An atom makes sense as a member of a class. -/
def admittedInClass (mode : Mode) : Atom → Bool
  | literal char | byte char => mode.canCompare && (mode.allScripts || char.toNat < 128)
  | shorthand letter => !mode.allScripts && letter.isLower
  | anchor _ => false

def bound? : Atom → Option Char
  | literal char | byte char => some char
  | _ => none

end Atom

/-!
Expressions nest only so deeply. The depth of a part counts everything on the way to what is deepest
in it: groups, repetitions, classes and operations on them, and rows of things side by side.
-/

def depthLimit : Nat := 250

/-- The depth of a row: one more than that of the deepest thing in it. One thing alone is no row,
and nothing has no depth. -/
def rowDepth : List Nat → Nat
  | [] => 0
  | [depth] => depth
  | depths => 1 + depths.foldl max 0

/-- The depth of what stands left and right of an operation on classes, or of the right side alone
if there is no operation yet. -/
def operationDepth (left : Option Nat) (right : Nat) : Nat :=
  match left with
  | none => right
  | some left => 1 + max left right

def classNames : List String :=
  ["alnum", "alpha", "ascii", "blank", "cntrl", "digit", "graph", "lower", "print", "punct",
    "space", "upper", "word", "xdigit"]

/-- The mark of a complement. The complement of something in ASCII is not in ASCII. -/
def complementMark (mode : Mode) : Reading Unit := do
  match ← get with
  | '^' :: _ => do
      guard mode.allScripts
      discard anyChar
      gap mode
  | _ => return ()

def namedClass : Reading Bool := do
  exactly "[:"
  let complement ← option? (char '^')
  let name ← span (· != ':')
  exactly ":]"
  guard (classNames.contains (String.ofList name))
  return complement.isSome

/-- The opening of a class. Hyphens at its beginning stand for themselves, and so does a closing
bracket. The depths of these members are given. -/
def classOpening (mode : Mode) : Reading (List Nat) := do
  discard (char '[')
  gap mode
  complementMark mode
  let hyphens ← many (char '-' *> gap mode)
  let bracket ← if hyphens.isEmpty then option? (char ']') else pure none
  let members := hyphens.length + bracket.toList.length
  guard (members = 0 || mode.canCompare)
  return List.replicate members 0

/-- A member of a class, or two literals that a range begins and ends with. -/
def classMember (mode : Mode) : Reading Unit := do
  let first ← atom mode
  guard (first.admittedInClass mode)
  gap mode
  match ← get with
  | '-' :: rest =>
      if [some ']', some '-'].contains (afterGap? mode rest) then return ()
      discard anyChar
      gap mode
      let last ← atom mode
      guard (last.admittedInClass mode)
      match first.bound?, last.bound? with
      | some first, some last => guard (first ≤ last)
      | _, _ => failure
  | _ => return ()

/-- The rest of a class after its opening, up to its end. `left` is the depth of what stands left of
the last operation, and `members` are the depths of what follows it. The depth of all is given. -/
def classRest (mode : Mode) :
    (fuel : Nat) → (left : Option Nat) → (members : List Nat) → Reading Nat
  | 0, _, _ => failure
  | fuel + 1, left, members => do
      gap mode
      match ← get with
      | ']' :: _ => do
          discard anyChar
          return operationDepth left (rowDepth members)
      | '[' :: _ => do
          match ← option? namedClass with
          | some complement => do
              guard (mode.canCompare && (mode.allScripts || !complement))
              classRest mode fuel left (0 :: members)
          | none => do
              let inside ← classRest mode fuel none (← classOpening mode)
              classRest mode fuel left ((inside + 1) :: members)
      | '&' :: '&' :: _ | '-' :: '-' :: _ | '~' :: '~' :: _ => do
          discard anyChar
          discard anyChar
          classRest mode fuel (some (operationDepth left (rowDepth members))) []
      | _ => do
          classMember mode
          classRest mode fuel left (0 :: members)

/-- What stands between the brackets of a group before its content. -/
inductive GroupOpening where
  /-- Flags for the content, and perhaps a name. -/
  | group (name : Option (List Char)) (flags : List (Char × Bool))
  /-- Flags for all that follows. There is no content. -/
  | flags (flags : List (Char × Bool))

/-- Flags to switch on, and after a hyphen those to switch off. None may come twice. -/
def flagList : Reading (List (Char × Bool)) := do
  let letters := span ['i', 'm', 's', 'U', 'u', 'R', 'x'].contains
  let on ← letters
  let off ← option? (char '-' *> letters)
  guard (off != some [] && (on ++ off.getD []).Nodup)
  return on.map (·, true) ++ (off.getD []).map (·, false)

def groupName : Reading (List Char) := do
  let first ← satisfying fun char => char == '_' || Text.alphabetic.contains char
  let rest ← span fun char =>
    ['_', '.', '[', ']'].contains char || Text.isAlphanumeric char
  discard (char '>')
  return first :: rest

/-- The opening of a group. Groups that would look ahead or back are none. -/
def groupOpening (mode : Mode) : Reading GroupOpening := do
  discard (char '(')
  gap mode
  match ← option? (char '?') with
  | none => return .group none []
  | some _ =>
      let named := do
        exactly "P<" <|> exactly "<"
        return .group (some (← groupName)) []
      let flagged := do
        let flags ← flagList
        if (← satisfying fun char => char == ':' || char == ')') == ':' then
          return .group none flags
        else
          guard !flags.isEmpty
          return .flags flags
      named <|> flagged

/-- A part that is no group, no alternative and no repetition. Its depth is given. Braces begin a
repetition and must be escaped to stand for themselves. -/
def single (mode : Mode) : Reading Nat := do
  match ← get with
  | '[' :: rest => do
      let inside ← classRest mode (rest.length + 1) none (← classOpening mode)
      return inside + 1
  | '\x7b' :: _ => failure
  | '.' :: _ => do
      guard mode.allScripts
      discard anyChar
      return 0
  | '^' :: _ | '$' :: _ => do
      discard anyChar
      return 0
  | _ => do
      let next ← atom mode
      guard (next.admitted mode)
      return 0

/-- A part in the row of its alternative. -/
structure Part where
  depth : Nat
  /-- Flags are parts that cannot be repeated. -/
  repeatable : Bool := true

structure Content where
  depth : Nat
  names : List (List Char) := []

/-- All up to the end of a group. `alternatives` are the depths of the finished ones, and `row`
holds the parts of the last one, the latest of them first. -/
def content (mode : Mode) :
    (fuel : Nat) → (alternatives : List Nat) → (row : List Part) → Reading Content
  | 0, _, _ => failure
  | fuel + 1, alternatives, row => do
      gap mode
      let finished := rowDepth (row.map Part.depth) :: alternatives
      match ← get with
      | [] | ')' :: _ => return { depth := rowDepth finished }
      | '|' :: _ => do
          discard anyChar
          content mode fuel finished []
      | '*' :: _ | '+' :: _ | '?' :: _ => do
          discard anyChar
          discard (option? (char '?'))
          match row with
          | part :: before => do
              guard part.repeatable
              content mode fuel alternatives ({ depth := part.depth + 1 } :: before)
          | [] => failure
      | '(' :: _ => do
          match ← groupOpening mode with
          | .flags flags =>
              content (flags.foldl Mode.switched mode) fuel alternatives
                ({ depth := 0, repeatable := false } :: row)
          | .group name flags => do
              let inside ← content (flags.foldl Mode.switched mode) fuel [] []
              discard (char ')')
              let all ← content mode fuel alternatives ({ depth := inside.depth + 1 } :: row)
              return { all with names := name.toList ++ inside.names ++ all.names }
      | _ => do
          let depth ← single mode
          content mode fuel alternatives ({ depth } :: row)

/-- A regular expression. No two of its groups have one name. -/
def expression : Reading Unit := do
  let all ← content {} ((← get).length + 1) [] []
  guard (all.depth ≤ depthLimit && all.names.Nodup)

/-- A number, which may have a sign, a point and an exponent. -/
def number : Reading Unit := do
  let sign := option? (char '+' <|> char '-')
  let digits := span Char.isDigit
  discard sign
  let whole ← digits
  let fraction ← option? (char '.' *> digits)
  guard !(whole ++ fraction.getD []).isEmpty
  discard (option? (do
    discard (char 'e' <|> char 'E')
    discard sign
    guard !(← digits).isEmpty))

/-- A number that has no digits. -/
def isUnusualNumber (text : String) : Bool :=
  match text.toList.map Char.toLower with
  | '+' :: word | '-' :: word | word =>
      ["inf", "infinity", "nan"].contains (String.ofList word)

/-- Truth values are regular expressions as well. -/
def isPattern (text : String) : Bool :=
  (number.all? text).isSome || isUnusualNumber text || (expression.all? text).isSome

example : ["", "+1.5e-3", "+inf", "a|b*?", "(?P<n>x)+", "[^]a-c[:digit:]&&[b]]", "\\.\\x41",
    "(?x) \\x 4 1 # sign", "(?-u)é\\b[\\d]", "(?i)[&&]"].all isPattern := by decide +kernel

example : ["(", "*", "a|*", "[b-a]", "(?)", "\\d", "\\b", "(?i)a", "a)", "(?x", "[", "+",
    "(?-u)[é]", "(?-u)\\xe9", "(?-u).", "(?-u)[[:^digit:]]"].all (!isPattern ·) := by
  decide +kernel

end Scanout.Log.Pattern
