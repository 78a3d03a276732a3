import Scanout.Toml.Layout

/-!
Texts and keys. A basic text has escapes, a literal one has none, and both may run over several
lines between triple quotes. A key is bare or a text of one line; a dotted key has several parts.
-/

namespace Scanout.Toml.Reading

open Scanout.Reading

def escape : Reading Char := do
  discard (char '\\')
  match ← satisfying fun _ => true with
  | 'b' => return '\x08'
  | 't' => return '\t'
  | 'n' => return '\n'
  | 'f' => return '\x0c'
  | 'r' => return '\r'
  | '"' => return '"'
  | '\\' => return '\\'
  | 'u' => codePoint 4
  | 'U' => codePoint 8
  | _ => failure

def basicChar : Reading Char :=
  satisfying (fun char => isPlain char && char != '"' && char != '\\') <|> escape

def literalChar : Reading Char := satisfying fun char => isPlain char && char != '\''

def inLine (quote : Char) (content : Reading Char) : Reading String := do
  discard (char quote)
  let chars ← many content
  discard (char quote)
  return String.ofList chars

/-- One or two quotes inside a text that three of them end. -/
def innerQuotes (quote : Char) (next : Reading Unit) : Reading (List Char) :=
  (exactlySome (· == quote) 2 <* ahead next) <|> (exactlySome (· == quote) 1 <* ahead next)

/-- A text of several lines between triple quotes. A line break right at its start does not belong
to it, and one or two quotes right before its end do. -/
def multiLine (quote : Char) (content : Reading (List Char)) : Reading String := do
  let fence := exactly (String.ofList [quote, quote, quote])
  fence
  discard (option? lineBreak)
  let inside := content <|> lineBreak.giving ['\n'] <|>
    innerQuotes quote (discard (satisfying (· != quote)))
  let body ← many inside
  let last ← option? (innerQuotes quote fence)
  fence
  return String.ofList (body.flatten ++ last.getD [])

/-- A backslash at the end of a line leaves out everything up to the next visible character. -/
def joinedLines : Reading (List Char) := do
  discard (char '\\')
  blanks
  lineBreak
  discard (many (discard (satisfying fun char => char == ' ' || char == '\t') <|> lineBreak))
  return []

def text : Reading String :=
  multiLine '"' (joinedLines <|> (fun char => [char]) <$> basicChar) <|> inLine '"' basicChar <|>
    multiLine '\'' ((fun char => [char]) <$> literalChar) <|> inLine '\'' literalChar

def isBare (char : Char) : Bool := char.isAlphanum || char == '_' || char == '-'

def simpleKey : Reading String :=
  inLine '"' basicChar <|> inLine '\'' literalChar <|> do
    let chars ← span isBare
    guard !chars.isEmpty
    return String.ofList chars

def keyLimit : Nat := 79

/-- A key with the blanks around it: the parts that lead to its table, and the last one. -/
def key : Reading (List String × String) := do
  let parts ← separated (char '.') (blanks *> simpleKey <* blanks)
  guard (parts.length ≤ keyLimit)
  return (parts.dropLast, parts.getLastD "")

end Scanout.Toml.Reading
