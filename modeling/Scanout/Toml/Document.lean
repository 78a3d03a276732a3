import Scanout.Toml.Number
import Scanout.Toml.Section

/-!
Documents. A document is a list of lines: headers, which open a table, and keys with a value, which
go into the table opened last. `Table.ofText?` reads a whole document.
-/

namespace Scanout.Toml

/-- A line that says something. -/
inductive Line where
  | entry (path : List String) (key : String) (value : Value)
  | table (path : List String) (key : String)
  | element (path : List String) (key : String)

namespace Reading

open Scanout.Reading

/-- A value that has no values inside. -/
def scalar : Reading Value :=
  (.text <$> text) <|> (.boolean <$> boolean) <|> (.moment <$> moment) <|> (.float <$> float) <|>
    (.integer <$> integer)

/-- Values between square brackets, on any number of lines. -/
def array (element : Reading Value) : Reading (List Value) := do
  discard (char '[')
  let elements ← option?
    (separated (char ',') (gaps *> element <* gaps) <* option? (char ','))
  gaps
  discard (char ']')
  return elements.getD []

def assignment (value : Reading Value) : Reading (List String × String × Value) := do
  let (path, last) ← key
  discard (char '=')
  blanks
  return (path, last, ← value)

/-- Keys with values between braces, on one line. -/
def inlineTable (value : Reading Value) : Reading Table := do
  discard (char '\x7b')
  let entries ← option? (separated (char ',') (assignment value <* blanks))
  blanks
  discard (char '\x7d')
  let content : Section ← (entries.getD []).foldlM
    (fun content (path, key, value) => Section.insert content path key value) []
  return content.toTable

/-- A value with at most `depth` arrays and tables around what is inside. -/
def value : (depth : Nat) → Reading Value
  | 0 => scalar
  | depth + 1 =>
      scalar <|> (.array <$> array (value depth)) <|> (.table <$> inlineTable (value depth))

/-- The most arrays and inline tables that may lie inside each other. -/
def nestingLimit : Nat := 79

/-- One line, if it is not only a comment or empty. -/
def line : Reading (Option Line) :=
  (comment *> (lineBreak <|> atEnd)).giving none <|> lineBreak.giving none <|>
  (do
    exactly "[["
    let (path, last) ← key
    exactly "]]"
    endOfLine
    return some (.element path last)) <|>
  (do
    discard (char '[')
    let (path, last) ← key
    discard (char ']')
    endOfLine
    return some (.table path last)) <|>
  (do
    let (path, last, value) ← assignment (value nestingLimit)
    endOfLine
    return some (.entry path last value))

/-- All lines of a document, which may begin with a byte order mark. -/
def lines : Reading (List Line) := do
  discard (option? (char '\ufeff'))
  blanks
  let lines ← many (line <* blanks)
  return lines.filterMap id

end Reading

/-- A document as far as it has been read: what it holds, and the header in force. -/
structure Draft where
  content : Section := []
  header : List String := []

namespace Draft

def add (draft : Draft) : Line → Option Draft
  | .entry path key value => do
      return { draft with content := ← draft.content.insertWithin draft.header path key value }
  | .table path key => do
      return { content := ← draft.content.openTable path key, header := path ++ [key] }
  | .element path key => do
      return { content := ← draft.content.openElement path key, header := path ++ [key] }

end Draft

def Table.ofText? (text : String) : Option Table := do
  let lines ← Reading.lines.all? text
  let draft ← lines.foldlM Draft.add {}
  return draft.content.toTable

end Scanout.Toml
