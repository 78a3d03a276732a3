import Scanout.Proofs.Captures.Operations
import Scanout.Proofs.Captures.Presence
import Scanout.Proofs.Clients.World
import Scanout.Proofs.References.Service

/-!
What holds of the world whenever somebody waits for an answer, and what those who wait find when they
go on. A call leaves the world tidy if it found it so, and leaves alone what the calls around it have
in hand: the client that makes a call stays, nothing is noted while one departs, and a worker keeps
the request that it tells of.
-/

namespace Scanout

namespace Service

theorem client_modifyClient (service : Service) (id other : ClientId) (change : Client → Client) :
    (service.modifyClient id change).client other =
      if id = other then change (service.client id) else service.client other := by
  unfold client
  rw [clients_modifyClient]
  split <;> rfl

/-- A change that leaves a client its registry leaves all clients theirs. -/
theorem registry_modifyClient_of_same {change : Client → Client}
    (same : ∀ client, (change client).registry = client.registry) (service : Service)
    (id other : ClientId) : (service.modifyClient id change).registry other = service.registry other := by
  unfold registry
  rw [client_modifyClient]
  split
  · next named => rw [same, named]
  · rfl

theorem modifyClient_self (service : Service) {id : ClientId} {client : Client}
    (present : service.clients[id]? = some client) :
    (service.modifyClient id fun client => { client with registry := service.registry id }) = service := by
  have same : service.client id = client := by simp [Service.client, present]
  unfold modifyClient registry
  rw [same, Table.insert_of_found present]

theorem modifyClient_modifyClient (service : Service) (id : ClientId) (first second : Client → Client) :
    (service.modifyClient id first).modifyClient id second =
      service.modifyClient id fun client => second (first client) := by
  have replaced : (service.modifyClient id first).client id = first (service.client id) := by
    rw [client_modifyClient, if_pos rfl]
  unfold modifyClient at replaced ⊢
  rw [replaced]
  congr 1
  apply Std.ExtTreeMap.ext_getElem?
  intro other
  simp only [Table.getElem?_insert]
  split <;> rfl

end Service

namespace Pipeline

theorem Spared.refl (worker? : Option (SessionId × Nat)) (pipeline : Pipeline) :
    Spared worker? pipeline pipeline where
  begun _ begun := begun
  inHand _ _ _ _ inHand := inHand

theorem Spared.trans {worker? : Option (SessionId × Nat)} {first second third : Pipeline}
    (begins : Spared worker? first second) (goesOn : Spared worker? second third) :
    Spared worker? first third where
  begun id begun := goesOn.begun id (begins.begun id begun)
  inHand id worker request own inHand :=
    goesOn.inHand id worker request own (begins.inHand id worker request own inHand)

end Pipeline

namespace World

/-- The notes about a client come to the displays that it has. -/
def Tracks (history : List Note) (client : ClientId) (registry : Registry) : Prop :=
  ∀ display, registry.outline display = recorded client history display

/-- The client has the display in its registry. -/
def Houses (world : World) (id : ClientId) (display : DisplayId) : Prop :=
  (world.service.registry id).contains display = true

/-- Captures that the device has not answered yet are `submitting`. Of a client that departs the
notes say that it has no displays any more, before that is so. -/
structure Tidy (submitting : List CaptureTicket) (world : World) : Prop where
  captures : ∃ events, CaptureState.Reaches events ⟨world.service.captures, submitting⟩
  occupied : ∀ id, world.occupant = some id → world.service.occupied = true
  listening : ∀ id, (world.service.client id).eventsEnabled = true → world.Serves id
  housed : ∀ id display, world.Houses id display → world.occupant = some id
  shown : ∀ display, world.service.captures.hasSession display = true →
    (∃ id, world.Houses id display) ∨ LeftBehind display world.history
  tracked : ∀ id, .departure id ∉ world.underway → Tracks world.history id (world.service.registry id)

/-- The worker is in the middle of a step, if there is one. -/
def Delivers (world : World) (worker? : Option (SessionId × Nat)) : Prop :=
  ∀ session worker, worker? = some (session, worker) → .delivery session worker ∈ world.underway

/-- What somebody who waits finds as it was. -/
structure Lasting (before after : World) : Prop where
  underway : after.underway = before.underway
  /-- A client that is being created. -/
  arriving : before.occupant = none → before.service.occupied = true →
    after.occupant = none ∧ after.service.occupied = true
  staying : ∀ id, .call id ∈ before.underway ∨ .departure id ∈ before.underway →
    before.occupant = some id → after.occupant = some id
  departing : ∀ id, .departure id ∈ before.underway → before.occupant = some id →
    after.history = before.history ∧
      (before.service.registry id).SameOutline (after.service.registry id)
  spared : ∀ worker?, before.Delivers worker? →
    before.service.captures.Spared worker? after.service.captures

/-- The world is tidy in the course of something, and what was there at its start lasts. -/
structure Stage (start : World) (submitting : List CaptureTicket) (world : World) : Prop where
  tidy : world.Tidy submitting
  lasting : start.Lasting world

/-- What calls do to a tidy world. -/
def Proceeds (before after : World) : Prop :=
  ∀ submitting, before.Tidy submitting → Stage before submitting after

variable {world first second third before after : World} {submitting : List CaptureTicket}
  {id : ClientId}

theorem houses_iff {display : DisplayId} :
    world.Houses id display ↔ ((world.service.registry id).outline display).isSome = true := by
  rw [Houses, Registry.contains_eq]

/-- Worlds in which clients have the same outlines have the same displays in them. -/
theorem houses_congr {other : World} {display : DisplayId}
    (same : (other.service.registry id).outline display =
      (world.service.registry id).outline display) :
    other.Houses id display ↔ world.Houses id display := by
  rw [houses_iff, houses_iff, same]

theorem Lasting.refl (world : World) : world.Lasting world where
  underway := rfl
  arriving vacant occupied := ⟨vacant, occupied⟩
  staying _ _ occupant := occupant
  departing _ _ _ := ⟨rfl, fun _ => rfl⟩
  spared worker? _ := .refl worker? _

theorem Lasting.trans (begins : first.Lasting second) (goesOn : second.Lasting third) :
    first.Lasting third where
  underway := goesOn.underway.trans begins.underway
  arriving vacant occupied := by
    obtain ⟨vacant, occupied⟩ := begins.arriving vacant occupied
    exact goesOn.arriving vacant occupied
  staying id engaged occupant := by
    have stays := begins.staying id engaged occupant
    rw [← begins.underway] at engaged
    exact goesOn.staying id engaged stays
  departing id departs occupant := by
    have stays := begins.staying id (.inr departs) occupant
    obtain ⟨history, outline⟩ := begins.departing id departs occupant
    rw [← begins.underway] at departs
    obtain ⟨later, outlineLater⟩ := goesOn.departing id departs stays
    exact ⟨later.trans history, fun display => (outlineLater display).trans (outline display)⟩
  spared worker? delivers := by
    apply (begins.spared worker? delivers).trans
    apply goesOn.spared worker?
    unfold Delivers
    rwa [begins.underway]

theorem Proceeds.refl (world : World) : world.Proceeds world := fun _ tidy => ⟨tidy, .refl world⟩

theorem Proceeds.trans (begins : first.Proceeds second) (goesOn : second.Proceeds third) :
    first.Proceeds third := by
  intro submitting tidy
  have middle := begins submitting tidy
  have stage := goesOn submitting middle.tidy
  exact ⟨stage.tidy, middle.lasting.trans stage.lasting⟩

theorem Stage.meddled {request : Request} (stage : Stage before submitting world)
    (meddled : request.Meddles Proceeds world after) : Stage before submitting after := by
  unfold Request.Meddles at meddled
  split at meddled
  · rwa [meddled]
  · obtain ⟨tidy, lasting⟩ := meddled submitting stage.tidy
    exact ⟨tidy, stage.lasting.trans lasting⟩

section Underway

theorem Lasting.popped {entry : Underway} (lasting : (before.pushed entry).Lasting after) :
    before.Lasting after.popped where
  underway := congrArg List.tail lasting.underway
  arriving := lasting.arriving
  staying id engaged := lasting.staying id (engaged.imp (List.mem_cons_of_mem _) (List.mem_cons_of_mem _))
  departing id departs := lasting.departing id (List.mem_cons_of_mem _ departs)
  spared worker? delivers := lasting.spared worker? fun session worker own =>
    List.mem_cons_of_mem _ (delivers session worker own)

/-- It makes no difference what is under way apart from departures. -/
theorem Tidy.of_departures (tidy : world.Tidy submitting) {underway : List Underway}
    (same : ∀ id, Underway.departure id ∈ underway ↔ Underway.departure id ∈ world.underway) :
    ({ world with underway } : World).Tidy submitting where
  captures := tidy.captures
  occupied := tidy.occupied
  listening id enabled := by
    have serves := tidy.listening id enabled
    exact ⟨serves.1, fun departs => serves.2 ((same id).mp departs)⟩
  housed := tidy.housed
  shown := tidy.shown
  tracked id stays := tidy.tracked id fun departs => stays ((same id).mpr departs)

end Underway

section Changes

/-- The world with another registry of a client. -/
def withRegistry (world : World) (id : ClientId) (registry : Registry) : World :=
  { world with service := world.service.modifyClient id fun client => { client with registry } }

def withCaptures (world : World) (captures : Pipeline) : World :=
  { world with service := { world.service with captures } }

@[simp] theorem registry_withRegistry (world : World) (id other : ClientId) (registry : Registry) :
    (world.withRegistry id registry).service.registry other =
      if id = other then registry else world.service.registry other := by
  unfold Service.registry withRegistry
  rw [Service.client_modifyClient]
  split <;> rfl

@[simp] theorem eventsEnabled_withRegistry (world : World) (id other : ClientId)
    (registry : Registry) :
    ((world.withRegistry id registry).service.client other).eventsEnabled =
      (world.service.client other).eventsEnabled := by
  unfold withRegistry
  rw [Service.client_modifyClient]
  split
  · next same => rw [same]
  · rfl

variable {registry : Registry} {captures : Pipeline} {notes : List Note}
  {later : List CaptureTicket}

theorem Tidy.revised (tidy : world.Tidy submitting)
    (reached : ∃ events, CaptureState.Reaches events ⟨captures, later⟩)
    (housed : ∀ display, registry.contains display = true → world.occupant = some id)
    (shown : ∀ display, captures.hasSession display = true → registry.contains display = true ∨
      (∃ other, other ≠ id ∧ world.Houses other display) ∨
      LeftBehind display (world.history ++ notes))
    (about : ∀ note ∈ notes, note.client = id)
    (tracked : .departure id ∉ world.underway → Tracks (world.history ++ notes) id registry) :
    (((world.withRegistry id registry).withCaptures captures).noted notes).Tidy later where
  captures := reached
  occupied := tidy.occupied
  listening other enabled := by
    have enabled : (world.service.client other).eventsEnabled = true := by
      rwa [← eventsEnabled_withRegistry world id other registry]
    exact tidy.listening other enabled
  housed other display houses := by
    have houses : ((world.withRegistry id registry).service.registry other).contains display = true :=
      houses
    rw [registry_withRegistry] at houses
    by_cases same : id = other
    · rw [if_pos same] at houses
      rw [← same]
      exact housed display houses
    · rw [if_neg same] at houses
      exact tidy.housed other display houses
  shown display session := by
    have houses (other : ClientId) (kept : (if id = other then registry else
        world.service.registry other).contains display = true) :
        (((world.withRegistry id registry).withCaptures captures).noted notes).Houses other display := by
      rw [← registry_withRegistry] at kept
      exact kept
    obtain own | ⟨other, different, there⟩ | left := shown display session
    · exact .inl ⟨id, houses id (by rwa [if_pos rfl])⟩
    · exact .inl ⟨other, houses other (by rwa [if_neg different.symm])⟩
    · exact .inr left
  tracked other stays := by
    change Tracks (world.history ++ notes) other ((world.withRegistry id registry).service.registry other)
    rw [registry_withRegistry]
    by_cases same : id = other
    · rw [if_pos same]
      rw [← same] at stays ⊢
      exact tracked stays
    · rw [if_neg same]
      have others : ∀ note ∈ notes, note.client ≠ other := by
        intro note member
        rw [about note member]
        exact same
      intro display
      rw [recorded_append_of_other others]
      exact tidy.tracked other stays display

/-- A client's registry changes, and no display goes. -/
theorem Tidy.grow (tidy : world.Tidy submitting) (occupant : world.occupant = some id)
    (kept : ∀ display, world.Houses id display → registry.contains display = true)
    (about : ∀ note ∈ notes, note.client = id)
    (left : ∀ display, LeftBehind display world.history →
      LeftBehind display (world.history ++ notes))
    (tracked : .departure id ∉ world.underway → Tracks (world.history ++ notes) id registry) :
    ((world.withRegistry id registry).noted notes).Tidy submitting := by
  apply tidy.revised tidy.captures (fun _ _ => occupant) _ about tracked
  intro display session
  cases tidy.shown display session with
  | inl houses =>
      obtain ⟨other, houses⟩ := houses
      by_cases same : other = id
      · rw [same] at houses
        exact .inl (kept display houses)
      · exact .inr (.inl ⟨other, same, houses⟩)
  | inr gone => exact .inr (.inr (left display gone))

/-- A display goes, and its session goes with it or stays behind. -/
theorem Tidy.lose {display : DisplayId} (tidy : world.Tidy submitting)
    (gone : ∀ other, registry.outline other =
      if display = other then none else (world.service.registry id).outline other)
    (reached : ∃ events, CaptureState.Reaches events ⟨captures, submitting⟩)
    (fewer : ∀ other, captures.hasSession other = true →
      world.service.captures.hasSession other = true)
    (left : ∀ other, captures.hasSession other = true →
      other = display ∨ LeftBehind other world.history → LeftBehind other (world.history ++ notes))
    (about : ∀ note ∈ notes, note.client = id)
    (tracked : .departure id ∉ world.underway → Tracks (world.history ++ notes) id registry) :
    (((world.withRegistry id registry).withCaptures captures).noted notes).Tidy submitting := by
  have contains (other : DisplayId) : registry.contains other =
      (decide (display ≠ other) && (world.service.registry id).contains other) := by
    rw [Registry.contains_eq, Registry.contains_eq, gone]
    by_cases same : display = other <;> simp [same]
  apply tidy.revised reached _ _ about tracked
  · intro other kept
    rw [contains, Bool.and_eq_true] at kept
    exact tidy.housed id other kept.2
  · intro other session
    cases tidy.shown other (fewer other session) with
    | inr behind => exact .inr (.inr (left other session (.inr behind)))
    | inl houses =>
        obtain ⟨owner, houses⟩ := houses
        by_cases same : owner = id
        · by_cases named : display = other
          · exact .inr (.inr (left other session (.inl named.symm)))
          · rw [same] at houses
            have kept : (world.service.registry id).contains other = true := houses
            exact .inl (by simp [contains, named, kept])
        · exact .inr (.inl ⟨owner, same, houses⟩)

theorem tracks_noted (tidy : world.Tidy submitting) (stays : .departure id ∉ world.underway)
    {note : Note} (outlines : ∀ display, registry.outline display =
      note.record id (world.service.registry id).outline display) :
    Tracks (world.history ++ [note]) id registry := by
  intro display
  have known : (world.service.registry id).outline = recorded id world.history :=
    funext (tidy.tracked id stays)
  rw [recorded_append_singleton, outlines, known]

/-- A client's registry changes as a note says, by which no display goes. -/
theorem Tidy.noted {note : Note} (tidy : world.Tidy submitting) (serves : world.Serves id)
    (about : note.client = id) (spares : ∀ client display, ¬note.Removes client display)
    (outlines : ∀ display, registry.outline display =
      note.record id (world.service.registry id).outline display) :
    ((world.withRegistry id registry).noted [note]).Tidy submitting := by
  apply tidy.grow serves.1
  · intro display houses
    have there : (world.service.registry id).contains display = true := houses
    rw [Registry.contains_eq] at there ⊢
    rw [outlines]
    exact Note.isSome_record (spares id display) there
  · simp [about]
  · intro display behind
    exact behind.noted fun client => spares client display
  · intro stays
    exact tracks_noted tidy stays outlines

theorem Tidy.step {display : DisplayId} {event : CaptureEvent} {state : CaptureState}
    (tidy : world.Tidy submitting)
    (step : CaptureState.Step ⟨world.service.captures, submitting⟩ display event state) :
    ∃ events, CaptureState.Reaches events state := by
  obtain ⟨events, reached⟩ := tidy.captures
  exact ⟨events ++ [event], reached.step step⟩

theorem Tidy.spared {display : DisplayId} {event : CaptureEvent} {state : CaptureState}
    (tidy : world.Tidy submitting)
    (step : CaptureState.Step ⟨world.service.captures, submitting⟩ display event state)
    (silent : ∀ id heard, event ≠ .told id heard) (worker? : Option (SessionId × Nat)) :
    world.service.captures.Spared worker? state.pipeline := by
  obtain ⟨events, reached⟩ := tidy.captures
  exact step.spared reached.sound fun id _ _ heard => silent id heard

/-- A display is forgotten with its captures, if it was there. -/
theorem Tidy.forget {display : DisplayId} (tidy : world.Tidy submitting)
    (gone : ∀ other, registry.outline other =
      if display = other then none else (world.service.registry id).outline other) :
    (((world.withRegistry id registry).withCaptures
      (world.service.captures.removeDisplay display)).noted
        [.displayRemoved id display]).Tidy submitting := by
  have ended (other : DisplayId)
      (session : (world.service.captures.removeDisplay display).hasSession other = true) :
      other ≠ display ∧ world.service.captures.hasSession other = true := by
    simpa [Pipeline.hasSession_removeDisplay] using session
  apply tidy.lose gone (tidy.step .remove) (fun other session => (ended other session).2)
  · intro other session reason
    have different := (ended other session).1
    cases reason with
    | inl same => exact absurd same different
    | inr behind =>
        apply behind.noted
        intro client removes
        simp [Note.Removes, Ne.symm different] at removes
  · simp [Note.client]
  · intro stays
    apply tracks_noted tidy stays
    intro other
    simp [gone, Note.record]

/-- Sessions begin only for displays that somebody has. -/
theorem Tidy.captured (tidy : world.Tidy submitting)
    (reached : ∃ events, CaptureState.Reaches events ⟨captures, later⟩)
    (shown : ∀ display, captures.hasSession display = true →
      world.service.captures.hasSession display = true ∨ ∃ id, world.Houses id display) :
    (world.withCaptures captures).Tidy later where
  captures := reached
  occupied := tidy.occupied
  listening := tidy.listening
  housed := tidy.housed
  shown display session := by
    cases shown display session with
    | inl before => exact tidy.shown display before
    | inr houses => exact .inl houses
  tracked := tidy.tracked

theorem Tidy.recaptured (tidy : world.Tidy submitting)
    (reached : ∃ events, CaptureState.Reaches events ⟨captures, later⟩)
    (same : ∀ display, captures.hasSession display = world.service.captures.hasSession display) :
    (world.withCaptures captures).Tidy later :=
  tidy.captured reached fun display session => .inl (same display ▸ session)

/-- A client that is served and does not depart may change what is its own. -/
theorem Lasting.further (lasting : before.Lasting world) (serves : before.Serves id)
    (underway : after.underway = world.underway) (occupant : after.occupant = world.occupant)
    (spared : ∀ worker?, world.service.captures.Spared worker? after.service.captures) :
    before.Lasting after where
  underway := underway.trans lasting.underway
  arriving vacant := by simp [serves.1] at vacant
  staying other engaged present := occupant.trans (lasting.staying other engaged present)
  departing other departs present := by
    obtain rfl : id = other := Option.some.inj (serves.1.symm.trans present)
    exact absurd departs serves.2
  spared worker? delivers := (lasting.spared worker? delivers).trans (spared worker?)

theorem Lasting.captured (lasting : before.Lasting world)
    (spared : ∀ worker?, before.Delivers worker? → world.service.captures.Spared worker? captures) :
    before.Lasting (world.withCaptures captures) where
  underway := lasting.underway
  arriving := lasting.arriving
  staying := lasting.staying
  departing := lasting.departing
  spared worker? delivers := (lasting.spared worker? delivers).trans (spared worker? delivers)

end Changes

end World
end Scanout
