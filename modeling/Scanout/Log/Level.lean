/-!
Log levels, from the most talkative to the most severe.
-/

namespace Scanout.Log

inductive Level where
  | trace | debug | info | warn | error
  deriving DecidableEq, Repr, Inhabited

namespace Level

def all : List Level := [trace, debug, info, warn, error]

def name : Level → String
  | trace => "trace"
  | debug => "debug"
  | info => "info"
  | warn => "warn"
  | error => "error"

/-- The level of a name in lower case. -/
def ofName? (name : String) : Option Level := all.find? (·.name == name)

/-- The higher, the more urgent. -/
def severity : Level → Nat
  | trace => 1
  | debug => 2
  | info => 3
  | warn => 4
  | error => 5

theorem ofName?_name (level : Level) : ofName? level.name = some level := by
  cases level <;> decide

theorem name_of_ofName? {name : String} {level : Level} (found : ofName? name = some level) :
    level.name = name := by
  simpa using List.find?_some found

end Level

inductive Format where
  | text | json
  deriving DecidableEq, Repr, Inhabited

namespace Format

def all : List Format := [text, json]

def name : Format → String
  | text => "text"
  | json => "json"

/-- The format of a name in lower case. -/
def ofName? (name : String) : Option Format := all.find? (·.name == name)

end Format
end Scanout.Log
