import Scanout.Toml.Basic

/-!
Tables while a document is read. How a table came to be decides what may still be added to it: one
with a header of its own is closed to dotted keys from outside, one that dotted keys made gets no
header, and a key never gets a second value.
-/

namespace Scanout.Toml

inductive Origin where
  /-- By a header that names it, or as the document. -/
  | header
  /-- On the way to the table that a longer header names. -/
  | path
  /-- On the way to the value of a dotted key. -/
  | dotted
  deriving DecidableEq, Repr, Inhabited

inductive Item where
  | value (content : Value)
  | table (origin : Origin) (entries : List (String × Item))
  /-- An array of tables, of which only the latest can grow. -/
  | tables (earlier : List (List (String × Item))) (latest : List (String × Item))
  deriving Inhabited

abbrev Section := List (String × Item)

mutual

def Item.toValue : Item → Value
  | .value content => content
  | .table _ entries => .table (Item.toTable entries)
  | .tables earlier latest => .array (Item.toArray earlier ++ [.table (Item.toTable latest)])

def Item.toTable : List (String × Item) → Table
  | [] => []
  | (key, item) :: rest => (key, item.toValue) :: Item.toTable rest

def Item.toArray : List (List (String × Item)) → List Value
  | [] => []
  | entries :: rest => .table (Item.toTable entries) :: Item.toArray rest

end

namespace Section

def toTable (content : Section) : Table := Item.toTable content

/-- Changes what a key stands for. A new key comes last. -/
def update (key : String) (change : Option Item → Option Item) : Section → Option Section
  | [] => do return [(key, ← change none)]
  | (other, item) :: rest => do
      if other = key then
        return (other, ← change (some item)) :: rest
      else
        return (other, item) :: (← update key change rest)

/-- Changes the table at the end of a path. Tables that are not there yet are made with the origin
`step`; a dotted key does not lead into a table that has its own header. -/
def alter (step : Origin) (change : Origin → Section → Option Section) :
    List String → Origin → Section → Option Section
  | [], origin, content => change origin content
  | key :: path, _, content =>
      content.update key fun
        | none => .table step <$> alter step change path step []
        | some (.table origin inner) =>
            if step = .dotted ∧ origin = .header then none
            else .table origin <$> alter step change path origin inner
        | some (.tables earlier latest) =>
            .tables earlier <$> alter step change path .header latest
        | some (.value _) => none

/-- Gives a dotted key its value. The table it belongs to is either this one or one that dotted keys
made. -/
def insert (content : Section) (path : List String) (key : String) (value : Value) :
    Option Section :=
  let store (origin : Origin) (inner : Section) : Option Section :=
    if path.isEmpty = decide (origin = .dotted) then none
    else
      inner.update key fun
        | none => some (.value value)
        | some _ => none
  content.alter .dotted store path .header

/-- Opens the table that a header names. -/
def openTable (content : Section) (path : List String) (key : String) : Option Section :=
  let start (_ : Origin) (inner : Section) : Option Section :=
    inner.update key fun
      | none => some (.table .header [])
      | some (.table .path kept) => some (.table .header kept)
      | some _ => none
  content.alter .path start path .header

/-- Opens one more table of the array that a header names. -/
def openElement (content : Section) (path : List String) (key : String) : Option Section :=
  let start (_ : Origin) (inner : Section) : Option Section :=
    inner.update key fun
      | none => some (.tables [] [])
      | some (.tables earlier latest) => some (.tables (earlier ++ [latest]) [])
      | some _ => none
  content.alter .path start path .header

/-- Gives a dotted key its value in the table of a header. -/
def insertWithin (content : Section) (header path : List String) (key : String) (value : Value) :
    Option Section :=
  content.alter .path (fun _ inner => inner.insert path key value) header .header

end Section
end Scanout.Toml
