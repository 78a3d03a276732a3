/-!
Reading from the front of a text. A reading takes some characters off and makes something of them,
or it fails, and then the next alternative starts from where it had started.
-/

namespace Scanout

abbrev Reading := StateT (List Char) Option

namespace Reading

variable {α β : Type}

/-- The next character, if it is of a kind. -/
def satisfying (kind : Char → Bool) : Reading Char := fun input =>
  match input with
  | char :: rest => if kind char then some (char, rest) else none
  | [] => none

def char (wanted : Char) : Reading Char := satisfying (· == wanted)

def exactly (wanted : String) : Reading Unit := wanted.toList.forM fun next => discard (char next)

/-- All characters of a kind up to the first of another. -/
def span (kind : Char → Bool) : Reading (List Char) := modifyGet (·.span kind)

def atEnd : Reading Unit := do
  guard (← get).isEmpty

def ahead (reading : Reading α) : Reading Unit := fun input =>
  (reading.run input).map fun _ => ((), input)

def option? (reading : Reading α) : Reading (Option α) :=
  (some <$> reading) <|> pure none

/-- Reads something that stands for a value. -/
def giving (reading : Reading β) (value : α) : Reading α := do
  discard reading
  return value

/-- Reads until the reading fails, `fuel` times at most. -/
def manyWithin (reading : Reading α) : Nat → Reading (List α)
  | 0 => pure []
  | fuel + 1 => do
      match ← option? reading with
      | some first => return first :: (← manyWithin reading fuel)
      | none => return []

/-- Reads as often as possible something that is never empty, hence not more often than there are
characters. -/
def many (reading : Reading α) : Reading (List α) := do
  manyWithin reading (← get).length

def separated (separator : Reading β) (reading : Reading α) : Reading (List α) := do
  let first ← reading
  return first :: (← many (separator *> reading))

def all? (reading : Reading α) (text : String) : Option α :=
  ((reading <* atEnd).run text.toList).map Prod.fst

def hexDigit? (char : Char) : Option Nat :=
  if '0' ≤ char ∧ char ≤ '9' then some (char.toNat - '0'.toNat)
  else if 'a' ≤ char ∧ char ≤ 'f' then some (char.toNat - 'a'.toNat + 10)
  else if 'A' ≤ char ∧ char ≤ 'F' then some (char.toNat - 'A'.toNat + 10)
  else none

/-- The number that digits stand for, the highest digit first. Characters that are no digits count
as nothing. -/
def numeral (base : Nat) (digits : List Char) : Nat :=
  digits.foldl (fun number char => base * number + (hexDigit? char).getD 0) 0

def exactlySome (kind : Char → Bool) : Nat → Reading (List Char)
  | 0 => pure []
  | count + 1 => do return (← satisfying kind) :: (← exactlySome kind count)

/-- The character with a code point of so many hexadecimal digits. -/
def codePoint (width : Nat) : Reading Char := do
  let code := numeral 16 (← exactlySome (fun char => (hexDigit? char).isSome) width)
  guard code.isValidChar
  return Char.ofNat code

end Reading
end Scanout
