import Scanout.Text.Printable

/-!
Quoted text, as messages show paths: between double quotes, on one line, with an escape for every
character that could not be read off the page.
-/

namespace Scanout.Text

def quotedChar (char : Char) : List Char :=
  match char with
  | '"' => ['\\', '"']
  | '\\' => ['\\', '\\']
  | '\n' => ['\\', 'n']
  | '\t' => ['\\', 't']
  | '\r' => ['\\', 'r']
  | '\x00' => ['\\', '0']
  | char =>
      if extending.contains char || invisible.contains char || unprintable.contains char then
        ['\\', 'u', '\x7b'] ++ Nat.toDigits 16 char.toNat ++ ['\x7d']
      else [char]

def quoted (text : String) : String :=
  String.ofList ('"' :: text.toList.flatMap quotedChar ++ ['"'])

def quotedList (texts : List String) : String := "[" ++ ", ".intercalate (texts.map quoted) ++ "]"

example : quoted "it's \"a\\b\"\t" = "\"it's \\\"a\\\\b\\\"\\t\"" := by decide +kernel

example : quoted "u\u0301\u0007" = "\"u\\u\x7b301\x7d\\u\x7b7\x7d\"" := by decide +kernel

example : quoted "\u3164\uff9e" = "\"\\u\x7b3164\x7d\uff9e\"" := by decide +kernel

end Scanout.Text
