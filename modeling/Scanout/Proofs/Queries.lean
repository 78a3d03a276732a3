import Scanout.Engine.Commit
import Scanout.Proofs.Surroundings

/-!
Lists that are asked for in two calls, whatever is answered. The second call works on room for as
many entries as the first has told, and may leave any of its places as it likes. What is collected
is a beginning of the room as it was left, no longer than either call says; where a list was copied
into the room, it is a beginning of that list. The requests of a display come with a mask and have
a collection of their own, which treats the list as any other.
-/

namespace Scanout

section Rooms

variable {α : Type} {room : Nat}

/-- Writes entries from the first place on, as far as there is room. -/
def writeFront (places : Vector α room) (entries : List α) : Vector α room :=
  Vector.ofFn fun place => entries.getD place places[place]

theorem toList_writeFront (places : Vector α room) (entries : List α) :
    (writeFront places entries).toList =
      (entries ++ places.toList.drop entries.length).take room := by
  apply List.ext_getElem
  · simp only [Vector.length_toList, List.length_take, List.length_append, List.length_drop]
    omega
  · intro place here there
    have within : place < room := by simpa using here
    by_cases written : place < entries.length
    · simp [writeFront, written]
    · have kept : entries.length ≤ place := Nat.le_of_not_lt written
      simp [writeFront, List.getElem_append_right, kept]

/-- Of a list that was written to a room, as much is found there as there was room for. -/
theorem take_writeFront (places : Vector α room) (entries : List α) :
    (writeFront places entries).toList.take (min room entries.length) = entries.take room := by
  rw [toList_writeFront, List.take_take, Nat.min_eq_left (Nat.min_le_left _ _),
    List.take_append_of_le_length (Nat.min_le_right _ _)]
  exact List.take_eq_take_min.symm

variable [Inhabited α]

/-- The entries that count are a beginning of the room, once it is known how the room was left. -/
theorem Filled.entries_eq {filled : Filled α} {left : Vector α room}
    (places : (filled.written ++ List.replicate room default).take room = left.toList) :
    filled.entries room = left.toList.take (min room filled.reported) := by
  rw [entries, places]
  exact List.take_eq_take_iff.mpr (by simp [Nat.min_comm])

theorem Filled.entries_toList (left : Vector α room) (reported : Nat) :
    (⟨left.toList, reported⟩ : Filled α).entries room = left.toList.take (min room reported) := by
  apply entries_eq
  rw [List.take_append_of_le_length (by simp), List.take_of_length_le (by simp)]

/-- Fresh room holds the default wherever nothing was written. -/
theorem Filled.entries_writeFront (filled : Filled α) (room : Nat) :
    filled.entries room =
      (writeFront (Vector.replicate room default) filled.written).toList.take
        (min room filled.reported) := by
  apply entries_eq
  simp [toList_writeFront, List.take_append]

end Rooms

/-- A list that can be asked for in two calls. The second is given room for the entries: it may
change every place of it, and it says how many of them count. -/
structure ListQuery (m : Type → Type) (ε α : Type) where
  count : m (Except ε Nat)
  fill : {room : Nat} → Vector α room → m (Except ε Nat × Vector α room)

namespace ListQuery

variable {ε α : Type}

section Collect

variable {m : Type → Type} [Monad m]

/-- A list of which the second call writes entries from the first place on, as a device does. -/
def writing (count : m (Except ε Nat)) (fill : Nat → m (Except ε (Filled α))) :
    ListQuery m ε α where
  count
  fill {room} places := do
    match ← fill room with
    | .error reason => return (.error reason, places)
    | .ok filled => return (.ok filled.reported, writeFront places filled.written)

/-- A list that is kept somewhere, of which the second call copies what there is room for. It finds
the list as it is then. -/
def copying (count : m (Except ε Nat)) (kept : m (Except ε (List α))) : ListQuery m ε α where
  count
  fill {room} places := do
    match ← kept with
    | .error reason => return (.error reason, places)
    | .ok entries => return (.ok (min room entries.length), writeFront places entries)

theorem counted_congr {β : Type} {count : m (Except ε Nat)} {next other : Except ε Nat → m β}
    (failed : ∀ reason, next (.error reason) = other (.error reason))
    (empty : next (.ok 0) = other (.ok 0))
    (further : ∀ size, next (.ok (size + 1)) = other (.ok (size + 1))) :
    count >>= next = count >>= other := by
  congr 1
  funext answer
  match answer with
  | .error reason => exact failed reason
  | .ok 0 => exact empty
  | .ok (size + 1) => exact further size

variable [Inhabited α]

/-- Asks for the list, with the default in every place of the room. -/
def collect (query : ListQuery m ε α) : m (Except ε (List α)) :=
  querySized query.count fun room => do
    let (answer, left) ← query.fill (Vector.replicate room default)
    return answer.map (⟨left.toList, ·⟩)

variable [LawfulMonad m]

theorem collect_eq (query : ListQuery m ε α) : query.collect = (do
    match ← query.count with
    | .error reason => return .error reason
    | .ok 0 => return .ok []
    | .ok size =>
        let (answer, left) ← query.fill (Vector.replicate size default)
        return answer.map fun reported => left.toList.take (min size reported)) := by
  refine counted_congr (fun _ => rfl) rfl fun size => ?_
  simp only [bind_assoc, pure_bind]
  refine bind_congr fun filled => ?_
  obtain ⟨answer, left⟩ := filled
  cases answer with
  | error reason => rfl
  | ok reported => simp only [Except.map, Filled.entries_toList]

/-- Every list that is asked for is one that somebody writes to a room. -/
theorem querySized_eq (count : m (Except ε Nat)) (fill : Nat → m (Except ε (Filled α))) :
    querySized count fill = (writing count fill).collect := by
  rw [collect_eq]
  refine counted_congr (fun _ => rfl) rfl fun size => ?_
  simp only [writing, bind_assoc]
  refine bind_congr fun answer => ?_
  cases answer with
  | error reason => simp only [pure_bind, Except.map]
  | ok filled => simp only [pure_bind, Except.map, Filled.entries_writeFront filled]

/-- Of a list that is copied, the entries at the time of the second call are collected, as far as
the first has told, and nothing else. -/
theorem collect_copying (count : m (Except ε Nat)) (kept : m (Except ε (List α))) :
    (copying count kept).collect = (do
      match ← count with
      | .error reason => return .error reason
      | .ok 0 => return .ok []
      | .ok size => return (← kept).map (·.take size)) := by
  rw [collect_eq]
  refine counted_congr (fun _ => rfl) rfl fun size => ?_
  simp only [copying, bind_assoc]
  refine bind_congr fun answer => ?_
  cases answer with
  | error reason => simp only [pure_bind, Except.map]
  | ok entries =>
      have reported : min (size + 1) (min (size + 1) entries.length) =
          min (size + 1) entries.length := by omega
      simp only [pure_bind, Except.map, reported, take_writeFront]

/-- A list that loses its last entry between the calls. -/
example :
    let shrinking : ListQuery (StateM (List Nat)) Status Nat :=
      copying (modifyGet fun kept => (.ok kept.length, kept.dropLast)) (.ok <$> get)
    shrinking.collect.run [7, 8, 9] = (.ok [7, 8], [7, 8]) := by
  rfl

end Collect

section Collected

variable {σ : Type} [Inhabited α] {meddles : σ → σ → Prop} {before : σ}

/-- How asking for a list ends, by how its calls end. The second is made only where the first has
told that there is something to ask for. -/
inductive Collected (meddles : σ → σ → Prop) (query : ListQuery (Action σ) ε α) (before : σ) :
    List Exchange → Except ε (List α) → σ → Prop where
  | uncounted {exchanges reason final}
      (counted : (query.count.start before).Ends meddles exchanges (.error reason) final) :
      Collected meddles query before exchanges (.error reason) final
  | empty {exchanges final}
      (counted : (query.count.start before).Ends meddles exchanges (.ok 0) final) :
      Collected meddles query before exchanges (.ok []) final
  | unfilled {first second size reason left middle final} (some : 0 < size)
      (counted : (query.count.start before).Ends meddles first (.ok size) middle)
      (filled : ((query.fill (Vector.replicate size default)).start middle).Ends meddles second
        (.error reason, left) final) :
      Collected meddles query before (first ++ second) (.error reason) final
  | filled {first second size reported left middle final} (some : 0 < size)
      (counted : (query.count.start before).Ends meddles first (.ok size) middle)
      (filled : ((query.fill (Vector.replicate size default)).start middle).Ends meddles second
        (.ok reported, left) final) :
      Collected meddles query before (first ++ second)
        (.ok (left.toList.take (min size reported))) final

theorem ends_collect_iff (query : ListQuery (Action σ) ε α) {exchanges : List Exchange}
    {value : Except ε (List α)} {final : σ} :
    (query.collect.start before).Ends meddles exchanges value final ↔
      query.Collected meddles before exchanges value final := by
  rw [collect_eq, Action.start_bind, Run.ends_andThen]
  constructor
  · intro parts
    obtain ⟨first, answer, middle, rest, rfl, counted, ended⟩ := parts
    match answer with
    | .error reason =>
        cases ended
        rw [List.append_nil]
        exact .uncounted counted
    | .ok 0 =>
        cases ended
        rw [List.append_nil]
        exact .empty counted
    | .ok (size + 1) =>
        -- Nothing is asked after the second call, so the rest of the exchanges is its own.
        obtain ⟨⟨answer, left⟩, filled, rfl⟩ := Run.ends_andThen_done.mp ended
        cases answer with
        | error reason => exact .unfilled (Nat.succ_pos size) counted filled
        | ok reported => exact .filled (Nat.succ_pos size) counted filled
  · intro collected
    cases collected with
    | uncounted counted => exact ⟨_, _, _, [], (List.append_nil _).symm, counted, .done _ _⟩
    | empty counted => exact ⟨_, _, _, [], (List.append_nil _).symm, counted, .done _ _⟩
    | unfilled some counted filled =>
        obtain ⟨size, rfl⟩ := Nat.exists_eq_add_one.mpr some
        exact ⟨_, _, _, _, rfl, counted, Run.ends_andThen_done.mpr ⟨_, filled, rfl⟩⟩
    | filled some counted filled =>
        obtain ⟨size, rfl⟩ := Nat.exists_eq_add_one.mpr some
        exact ⟨_, _, _, _, rfl, counted, Run.ends_andThen_done.mpr ⟨_, filled, rfl⟩⟩

end Collected

end ListQuery

section Requests

open EngineAction

/-- An engine asks for lists as anybody does, and is left as it was. -/
theorem run_querySized {ε α : Type} [Inhabited α] (count : Action Registry (Except ε Nat))
    (fill : Nat → Action Registry (Except ε (Filled α))) (engine : Engine) :
    (querySized (lift count) fun room => lift (fill room)).run engine = (do
      let result ← querySized count fill
      return (result, engine)) := by
  unfold querySized lift
  simp only [StateT.run_bind, StateT.run_monadLift, bind_assoc, pure_bind]
  refine ListQuery.counted_congr (fun _ => rfl) rfl fun size => ?_
  simp only [StateT.run_bind, StateT.run_monadLift, bind_assoc, pure_bind]
  refine bind_congr fun filled => ?_
  cases filled with
  | error reason => rfl
  | ok filled => rfl

/-- Remembers the mask that comes with an answer, and passes on the rest. -/
def notingMask {β : Type} (asked : EngineAction (Except Status (Flags × β))) :
    StateT (Option Flags) EngineAction (Except Status β) := do
  match ← asked with
  | .error status => return .error status
  | .ok (mask, answer) =>
      set (some mask)
      return .ok answer

theorem run_notingMask {β : Type} (asked : EngineAction (Except Status (Flags × β)))
    (noted : Option Flags) : (notingMask asked).run noted = (do
      match ← asked with
      | .error status => return (.error status, noted)
      | .ok (mask, answer) => return (.ok answer, some mask)) := by
  unfold notingMask
  rw [StateT.run_bind, StateT.run_monadLift, bind_assoc]
  refine bind_congr fun answer => ?_
  rw [pure_bind]
  match answer with
  | .error status => rfl
  | .ok (mask, answer) => rfl

/-- The requests of a display, asked for as any list is. -/
def requestList (display : DisplayId) :
    StateT (Option Flags) EngineAction (Except Status (List LayerRequest)) :=
  querySized (notingMask (call (.layerRequestCount display))) fun room =>
    notingMask (call (.layerRequests display room))

/-- The mask of the last call that succeeded goes with the list. If that was the count and the
second call failed, there is neither a mask nor a request. -/
def settleRequests :
    Except Status (List LayerRequest) × Option Flags → Except Status (Flags × List LayerRequest)
  | (.ok requests, mask) => .ok (mask.getD .empty, requests)
  | (.error status, none) => .error status
  | (.error _, some _) => .ok (.empty, [])

theorem collectRequests_eq (display : DisplayId) :
    collectRequests display = settleRequests <$> (requestList display).run none := by
  unfold collectRequests requestList querySized
  simp only [StateT.run_bind, run_notingMask, bind_assoc, map_bind]
  refine bind_congr fun counted => ?_
  match counted with
  | .error status => rfl
  | .ok (mask, 0) => rfl
  | .ok (mask, room + 1) =>
      -- From here on a mask is noted, which tells a failure to fill from one to count.
      simp only [pure_bind, StateT.run_bind, run_notingMask, bind_assoc, map_bind]
      refine bind_congr fun answered => ?_
      match answered with
      | .error status => rfl
      | .ok (mask, filled) => rfl

end Requests

/-- Whatever is answered, no entry is invented and none is lost. Asking for a list ends with the
failure of either call, with no entry and without the second call where the first has told of none,
or with as much of the room, as it was left, as both calls have told of. Every list is asked for so,
those of an engine among them. Of a list that is copied this is the list at the second call, cut to
what the first has told. The requests of a display are collected like a list, with the mask of the
last call that succeeded; where the second call fails, there are none. -/
theorem ListQuery.neither_invents_nor_loses {ε α : Type} [Inhabited α] :
    (∀ {σ : Type} (query : ListQuery (Action σ) ε α) (before : σ),
      (∀ surroundings : Surroundings σ,
        let performance := query.collect.perform surroundings before
        query.Collected (fun _ _ => True) before performance.exchanges performance.value
          performance.state) ∧
      ∀ meddles exchanges value final,
        (query.collect.start before).Ends meddles exchanges value final ↔
          query.Collected meddles before exchanges value final) ∧
    (∀ {σ : Type} (count : Action σ (Except ε Nat)),
      (∀ fill : Nat → Action σ (Except ε (Filled α)),
        querySized count fill = (writing count fill).collect) ∧
      ∀ kept : Action σ (Except ε (List α)), (copying count kept).collect = (do
        match ← count with
        | .error reason => return .error reason
        | .ok 0 => return .ok []
        | .ok size => return (← kept).map (·.take size))) ∧
    (∀ (count : Action Registry (Except ε Nat))
      (fill : Nat → Action Registry (Except ε (Filled α))) (engine : Engine),
        (querySized (EngineAction.lift count) fun room => EngineAction.lift (fill room)).run engine =
          (do
            let result ← querySized count fill
            return (result, engine))) ∧
    ∀ display, collectRequests display = settleRequests <$> (requestList display).run none := by
  refine ⟨?_, ?_, run_querySized, collectRequests_eq⟩
  · intro σ query before
    constructor
    · intro surroundings
      exact query.ends_collect_iff.mp (Action.perform_ends (fun _ _ _ => trivial) _ before)
    · intro meddles exchanges value final
      exact query.ends_collect_iff
  · intro σ count
    exact ⟨querySized_eq count, collect_copying count⟩

end Scanout
