import Scanout.Text.Split

/-!
Paths as texts. The parts of a path are what stands between its slashes; empty parts and single dots
say nothing, except for the dot at the start of a path that is relative on purpose.
-/

namespace Scanout.Path

def saysNothing (part : String) : Bool := part == "" || part == "."

/-- Drops parts at the end that say nothing. -/
def trimEnd (parts : List String) : List String := (parts.reverse.dropWhile saysNothing).reverse

def isAbsolute (path : String) : Bool := path.toList.head? == some '/'

/-- What a path begins with before its parts: a slash for the root, a dot on purpose or nothing. -/
def start (path : String) : String :=
  match path.toList with
  | '/' :: _ => "/"
  | ['.'] | '.' :: '/' :: _ => "."
  | _ => ""

/-- The parts behind the start, without those at the end that say nothing. -/
def parts (path : String) : List String :=
  trimEnd (Text.split '/' (String.ofList (path.toList.drop (start path).length)))

/-- The path without its last part. The root and the empty path have no parent. -/
def parent? (path : String) : Option String :=
  match (parts path).reverse with
  | [] => if start path == "." then some "" else none
  | _ :: before => some (start path ++ "/".intercalate (trimEnd before.reverse))

def fileName? (path : String) : Option String :=
  (parts path).getLast?.filter (· != "..")

example : parent? "a//b/./c.log" = some "a//b" ∧ parent? "./c" = some "." ∧ parent? "c" = some "" ∧
    parent? "/" = none := by decide +kernel

example : fileName? "a/c.log/." = some "c.log" ∧ fileName? "a/.." = none ∧ fileName? "" = none := by
  decide +kernel

end Scanout.Path
