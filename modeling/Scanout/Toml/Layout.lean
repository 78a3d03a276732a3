import Scanout.Text.Reading

/-!
What stands between the values of a document: blanks, line breaks and comments.
-/

namespace Scanout.Toml.Reading

open Scanout.Reading

def blanks : Reading Unit := discard (span fun char => char == ' ' || char == '\t')

/-- A line break: a line feed, perhaps after a carriage return. -/
def lineBreak : Reading Unit := do
  discard (option? (char '\r'))
  discard (char '\n')

/-- Control characters other than the tab stand in no comment and no text. -/
def isPlain (char : Char) : Bool := char == '\t' || (' ' ≤ char && char != '\x7f')

def comment : Reading Unit := do
  discard (char '#')
  discard (span isPlain)

/-- What may stand between the parts of an array: blanks, line breaks and comments. -/
def gaps : Reading Unit := do
  blanks
  discard (many (do
    discard (option? comment)
    lineBreak
    blanks))

/-- What may follow something that fills its line. -/
def endOfLine : Reading Unit := do
  blanks
  discard (option? comment)
  lineBreak <|> atEnd

end Scanout.Toml.Reading
