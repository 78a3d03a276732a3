import Scanout.Action
import Scanout.Buffer.SlotCache

/-!
A shelf: buffer handles outside the service. Handles and cache entries lie on it under names, next
to one slot cache. Putting something in the place of a handle lets go of that handle, and moving a
handle takes it from where it was.
-/

namespace Scanout

/-- Things under names, each name at most once. -/
abbrev Named (α : Type) := List (String × α)

/-- Replaces, or with `none` removes, what lies under a name. -/
def Named.put {α : Type} (things : Named α) (name : String) (thing : Option α) : Named α :=
  (thing.map (name, ·)).toList ++ things.filter (·.1 != name)

structure Shelf where
  handles : Named Handle := []
  entries : Named (Option Handle) := []
  cache : SlotCache := {}

namespace Shelf

/-- The content of a cache entry, empty if there is no entry. -/
def entry (shelf : Shelf) (name : String) : Option Handle := (shelf.entries.lookup name).getD none

/-- Puts a handle under a name, or with `none` clears the name. Tells whether the name had one. -/
def put (name : String) (handle : Option Handle) : Action Shelf Bool := do
  let held := (← get).handles.lookup name
  modify fun shelf => { shelf with handles := shelf.handles.put name handle }
  Action.release held.toList
  return held.isSome

/-- Imports a buffer and puts it under a name. A refusal changes nothing. -/
def importAs (name : String) (native : NativeHandle) :
    Action Shelf (Except BufferError Unit) := do
  match ← Action.ask (.importBuffer native) with
  | .ok () =>
      discard (put name (some (.owning native)))
      return .ok ()
  | .error reason => return .error reason

def takeHandle (name : Option String) : Action Shelf (Option Handle) :=
  modifyGet fun shelf =>
    match name with
    | none => (none, shelf)
    | some name =>
        (shelf.handles.lookup name, { shelf with handles := shelf.handles.put name none })

def assign (name : String) (content : Option Handle) : Action Shelf Unit := do
  let held := (← get).entry name
  modify fun shelf => { shelf with entries := shelf.entries.put name (some content) }
  Action.release held.toList

/-- Looks at a cache entry. If there is none, an empty one is put there. -/
def look (name : String) : Action Shelf (Option Handle) :=
  modifyGet fun shelf =>
    (shelf.entry name,
      { shelf with entries := shelf.entries.put name (some (shelf.entry name)) })

/-- Removes a cache entry with its content. Tells whether there was one. -/
def dropEntry (name : String) : Action Shelf Bool := do
  let shelf ← get
  set { shelf with entries := shelf.entries.put name none }
  Action.release (shelf.entry name).toList
  return shelf.entries.any (·.1 == name)

def replaceCache (cache : SlotCache) (released : List Handle) : Action Shelf Unit := do
  modify fun shelf => { shelf with cache }
  Action.release released

/-- Replaces the content of a slot by the handle of a name. Where the slot does not exist, the
handle stays under its name. -/
def store (slot : Nat) (source : Option String) : Action Shelf (Except BufferError Unit) := do
  let shelf ← get
  match shelf.cache.put slot (source.bind (shelf.handles.lookup ·)) with
  | .ok (cache, held) =>
      discard (takeHandle source)
      replaceCache cache held.toList
      return .ok ()
  | .error reason => return .error reason

end Shelf
end Scanout
