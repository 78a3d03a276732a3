import Scanout.Log.Level
import Scanout.Log.Pattern
import Scanout.Text.Bytes
import Scanout.Text.Split

/-!
Filters: which lines are written. A filter is a list of directives, each with a threshold for the
targets that begin with its own; the one that says most about a line decides.

A directive is written as `target[span{field=value}]=threshold`, and nearly all of that may be left
out.
-/

namespace Scanout.Log

structure Directive where
  /-- What targets begin with. Nothing matches all of them. -/
  target : Option String := none
  /-- A field that lines must have. -/
  field : Option String := none
  /-- The least level that passes, if any does. -/
  threshold : Option Level
  /-- Lines pass only inside certain spans of work. -/
  withinSpans : Bool := false
  deriving DecidableEq, Repr, Inhabited

namespace Directive

def messageField : String := "message"

/-- Lines outside all spans fall under a directive. -/
def covers (directive : Directive) (target : String) : Bool :=
  !directive.withinSpans && directive.field.all (· == messageField) &&
    directive.target.all (·.toList.isPrefixOf target.toList)

/-- How much a directive says: the longer its target the more, and least of all without one. A field
adds less than any letter of a target. -/
def weight (directive : Directive) : Nat :=
  let target := directive.target.elim 0 (·.length + 1)
  if directive.field.isSome then 2 * target + 1 else 2 * target

def passes (directive : Directive) (level : Level) : Bool :=
  match directive.threshold with
  | none => false
  | some threshold => threshold.severity ≤ level.severity

/-- A number, perhaps after a plus sign and with zeros before it. -/
def number? (text : String) : Option Nat :=
  let digits := match text.toList with
    | '+' :: digits => digits
    | digits => digits
  if !digits.isEmpty && digits.all Char.isDigit then some (Reading.numeral 10 digits) else none

/-- The thresholds by their numbers, from none at all to the lowest. -/
def numbered : List (Option Level) :=
  [none, some .error, some .warn, some .info, some .debug, some .trace]

/-- A threshold by its name in any case or by its number. -/
def threshold? (text : String) : Option (Option Level) :=
  match number? text with
  | some number => numbered[number]?
  | none =>
      let name := String.ofList (text.toList.map Char.toLower)
      if name = "off" then some none else some <$> Level.ofName? name

/-- The threshold of a directive: what begins at an equals sign is the end of the directive. Where
nothing is written it is the lowest one. -/
def thresholdFrom? (text : String) (place : Nat) : List Char → Option (Option Level)
  | [] => some (some .trace)
  | '=' :: _ => do
      match ← Text.between? text (place + 1) text.utf8ByteSize with
      | "" => return some .trace
      | written => threshold? written
  | _ => none

/-- What a directive may begin with, if that is no bracket. -/
def mayBegin (char : Char) : Bool :=
  char == '-' || char == ':' || char == '_' || Text.isAlphanumeric char

/-- Asks for a field, and if an equals sign follows its name, for a value of it. The name is given,
and whether there is a value. -/
def fieldOf? (text : String) : Option (String × Bool) :=
  match Text.split '=' text with
  | name :: value :: _ => if Pattern.isPattern value then some (name, true) else none
  | _ => if text = "" then none else some (text, false)

/-- Reads the rest of a directive after an opening bracket, which ends at `place`. Only a field
without a value, outside all spans with names, says something about lines outside of spans. -/
def inBrackets? (text : String) (target : Option String) (place : Nat) (rest : List Char) :
    Option Directive := do
  let (name, rest) := rest.span fun char => char != ']' && char != '\x7b'
  let stop := place + Text.byteCount name
  let span ← Text.between? text place stop
  match rest with
  | ']' :: rest =>
      return { target, threshold := ← thresholdFrom? text (stop + 1) rest, withinSpans := true }
  | '\x7b' :: rest =>
      let (content, rest) := rest.span (· != '\x7d')
      let last := stop + 1 + Text.byteCount content
      let (field, hasValue) ← fieldOf? (← Text.between? text (stop + 1) last)
      match rest with
      | '\x7d' :: ']' :: rest =>
          return {
            target, field
            threshold := ← thresholdFrom? text (last + 2) rest
            withinSpans := span != "" || hasValue }
      | _ => none
  | _ => none

/-- Reads a directive: a threshold, or a target, or both with an equals sign in between and perhaps
brackets after the target. The parts are found in the text without the blanks around it, but are
taken from the same places of the text with them. -/
def ofText? (text : String) : Option Directive := do
  let (head, rest) := (Text.trimmed text.toList).span fun char => char != '=' && char != '['
  let place := Text.byteCount head
  match head.head?, rest with
  | none, '[' :: rest => inBrackets? text none 1 rest
  | none, _ => none
  | some first, rest =>
      guard (mayBegin first)
      match rest with
      | [] =>
          match threshold? text with
          | some threshold => return { threshold }
          | none => return { target := some text, threshold := some .trace }
      | '[' :: rest => inBrackets? text (some (← Text.between? text 0 place)) (place + 1) rest
      | rest =>
          return {
            target := some (← Text.between? text 0 place)
            threshold := ← thresholdFrom? text place rest }

end Directive

structure Filter where
  directives : List Directive
  deriving DecidableEq, Repr, Inhabited

namespace Filter

def atLeast (level : Level) : Filter := ⟨[{ threshold := some level }]⟩

/-- Reads directives with commas between them. Where there are none, nothing passes. -/
def ofText? (text : String) : Option Filter :=
  Filter.mk <$> ((Text.split ',' text).filter (· != "")).mapM Directive.ofText?

/-- The directive that decides about a target outside all spans: of those that cover it the one that
says most, and the last of several that say the same. -/
def deciding? (filter : Filter) (target : String) : Option Directive :=
  (filter.directives.filter (·.covers target)).foldl
    (fun best directive =>
      match best with
      | some other => if directive.weight < other.weight then best else some directive
      | none => some directive) none

def passes (filter : Filter) (target : String) (level : Level) : Bool :=
  match filter.deciding? target with
  | some directive => directive.passes level
  | none => false

end Filter
end Scanout.Log
