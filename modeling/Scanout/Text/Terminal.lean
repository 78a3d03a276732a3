/-!
Text for terminals. A terminal takes some control characters for orders; written as escapes they do
nothing to it.
-/

namespace Scanout.Text

/-- Control characters of the second set, which is above ASCII, are escaped by their code points. -/
def tamedChar (char : Char) : List Char :=
  match char with
  | '\x07' => ['\\', 'x', '0', '7']
  | '\x08' => ['\\', 'x', '0', '8']
  | '\x0c' => ['\\', 'x', '0', 'c']
  | '\x1b' => ['\\', 'x', '1', 'b']
  | '\x7f' => ['\\', 'x', '7', 'f']
  | char =>
      if '\x80' ≤ char ∧ char ≤ '\x9f' then
        ['\\', 'u', '\x7b'] ++ Nat.toDigits 16 char.toNat ++ ['\x7d']
      else [char]

/-- A text without orders to a terminal. -/
def tamed (text : String) : String := String.ofList (text.toList.flatMap tamedChar)

example : tamed "\u001b[1m\u009b\t" = "\\x1b[1m\\u\x7b9b\x7d\t" := by decide +kernel

end Scanout.Text
