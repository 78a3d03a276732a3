import Scanout.Proofs.Clients.Tidy

/-!
Calls leave a tidy world tidy. Each is followed from one request to the next; at every request the
world is tidy and what was there when the call began lasts, so whatever is done from within the
request may be done there.
-/

namespace Scanout.World

variable {α : Type} {may : World → World → Prop} {start before world after : World}
  {submitting : List CaptureTicket} {id : ClientId} {registry : Registry} {notes : List Note}

theorem lens_service : Lens World.service fun service world => { world with service } where
  part_replace _ _ := rfl
  replace_replace _ _ _ := rfl
  replace_part _ := rfl

theorem lens_captures :
    Lens (fun world : World => world.service.captures) fun captures world =>
      world.withCaptures captures where
  part_replace _ _ := rfl
  replace_replace _ _ _ := rfl
  replace_part _ := rfl

theorem focus_registry (id : ClientId) :
    Focus (fun world : World => world.service.registry id)
      fun registry world => world.withRegistry id registry where
  part_replace registry world := by simp
  replace_replace registry _ world := by
    simp only [withRegistry, Service.modifyClient_modifyClient]

theorem onService_bind {β : Type} (first : Action Service α) (next : α → Action Service β) :
    onService (first >>= next) = onService first >>= fun value => onService (next value) :=
  Action.within_bind lens_service.toFocus first next

theorem onService_onRegistry (action : Action Registry α) :
    onService (Service.onRegistry id action) =
      action.within (fun world => world.service.registry id)
        fun registry world => world.withRegistry id registry :=
  Action.within_within _ _ _ _ action

theorem onService_onCaptures (action : Action Pipeline α) :
    onService (Service.onCaptures action) =
      action.within (fun world => world.service.captures)
        fun captures world => world.withCaptures captures :=
  Action.within_within _ _ _ _ action

section Steps

variable {post : List Exchange → α → World → Prop}

theorem assures_pure {value : α} (holds : post [] value world) :
    (onService (pure value)).Assures (Request.Meddles may) world post :=
  .within_pure rfl holds

theorem assures_ask {request : Request} {next : request.Reply → Action Service α}
    (further : ∀ reply after, request.Meddles may world after →
      (onService (next reply)).Assures (Request.Meddles may) after
        fun exchanges => post (⟨request, reply⟩ :: exchanges)) :
    (onService (Action.ask request >>= next)).Assures (Request.Meddles may) world post :=
  .within_ask lens_service further

theorem assures_call {call : DeviceCall} {next : call.Reply → Action Service α}
    (further : ∀ reply after, (Request.device call).Meddles may world after →
      (onService (next reply)).Assures (Request.Meddles may) after
        fun exchanges => post (⟨.device call, reply⟩ :: exchanges)) :
    (onService (Action.call call >>= next)).Assures (Request.Meddles may) world post :=
  assures_ask further

theorem assures_notify {listener : EventListener} {event : DisplayEvent}
    {post : List Exchange → Unit → World → Prop}
    (heard : ∀ after, (Request.notify id listener event).Meddles may world after →
      post [⟨.notify id listener event, ()⟩] () after) :
    (onService (Action.ask (.notify id listener event))).Assures (Request.Meddles may) world post := by
  rw [← bind_pure (Action.ask (.notify id listener event))]
  refine assures_ask ?_
  intro _ after meddled
  exact assures_pure (heard after meddled)

theorem assures_get {next : Service → Action Service α}
    (further : (onService (next world.service)).Assures (Request.Meddles may) world post) :
    (onService (get >>= next)).Assures (Request.Meddles may) world post := further

theorem assures_modify {change : Service → Service} {next : Unit → Action Service α}
    (further : (onService (next ())).Assures (Request.Meddles may)
      { world with service := change world.service } post) :
    (onService (modify change >>= next)).Assures (Request.Meddles may) world post :=
  .within_modifyGet lens_service.toFocus further

end Steps

/-- A change of a registry fails and leaves it as it is, or is made and lets go of handles. -/
theorem assures_change {operation : Registry → Except Status (Registry × List Handle)}
    {post : List Exchange → Except Status Unit → World → Prop}
    (failed : ∀ status, operation (world.service.registry id) = .error status →
      post [] (.error status) (world.withRegistry id (world.service.registry id)))
    (changed : ∀ registry released exchanges,
      operation (world.service.registry id) = .ok (registry, released) →
      (∀ exchange ∈ exchanges, exchange.request.isReference) →
      post exchanges (.ok ()) (world.withRegistry id registry)) :
    (onService (Service.onRegistry id (Registry.change operation))).Assures (Request.Meddles may)
      world post := by
  rw [onService_onRegistry]
  apply Action.Assures.within_get
  cases outcome : operation (world.service.registry id) with
  | error status => exact Run.Assures.done (failed status outcome)
  | ok result =>
      obtain ⟨registry, released⟩ := result
      have focus := focus_registry id
      have settled : (world.withRegistry id registry).withRegistry id
          ((world.withRegistry id registry).service.registry id) = world.withRegistry id registry := by
        rw [focus.part_replace, focus.replace_replace]
      dsimp only
      refine Action.Assures.within_set focus ?_
      refine Action.Assures.within_release focus settled ?_
      intro exchanges references
      refine Action.Assures.within_pure settled ?_
      rw [List.append_nil]
      exact changed registry released exchanges outcome references

/-- However the removal of a display goes, the display is not there afterwards. -/
theorem assures_dropDisplay {display : DisplayId}
    {post : List Exchange → Except Status Unit → World → Prop}
    (dropped : ∀ answer registry exchanges,
      (∀ other, registry.outline other =
        if display = other then none else (world.service.registry id).outline other) →
      (∀ exchange ∈ exchanges, exchange.request.isReference) →
      post exchanges answer (world.withRegistry id registry)) :
    (onService (Service.dropDisplay id display)).Assures (Request.Meddles may) world post := by
  apply assures_change
  · intro status failed
    apply dropped _ _ [] _ (by simp)
    intro other
    by_cases named : display = other
    · rw [if_pos named, ← named, Registry.outline_of_failed_removal failed]
    · rw [if_neg named]
  · intro registry released exchanges removed references
    exact dropped _ _ exchanges (Registry.outline_removeDisplay removed) references

/-- A client in the middle of a call of its own. -/
structure Serving (start : World) (id : ClientId) (submitting : List CaptureTicket) (world : World) :
    Prop extends Stage start submitting world where
  serves : start.Serves id
  engaged : .call id ∈ start.underway

namespace Serving

variable (serving : Serving start id submitting world)

include serving

/-- The client is still served. -/
theorem still : world.Serves id := by
  refine ⟨serving.lasting.staying id (.inl serving.engaged) serving.serves.1, ?_⟩
  rw [serving.lasting.underway]
  exact serving.serves.2

theorem meddled {request : Request} (meddled : request.Meddles Proceeds world after) :
    Serving start id submitting after :=
  ⟨serving.toStage.meddled meddled, serving.serves, serving.engaged⟩

/-- Nobody but the client and its captures is concerned. -/
theorem further (tidy : after.Tidy submitting) (underway : after.underway = world.underway)
    (occupant : after.occupant = world.occupant)
    (spared : ∀ worker?, world.service.captures.Spared worker? after.service.captures) :
    Serving start id submitting after :=
  ⟨⟨tidy, serving.lasting.further serving.serves underway occupant spared⟩, serving.serves,
    serving.engaged⟩

theorem reoutlined (same : (world.service.registry id).SameOutline registry) :
    Serving start id submitting (world.withRegistry id registry) := by
  have unnoted : (world.withRegistry id registry).noted [] = world.withRegistry id registry := by
    simp [noted, withRegistry]
  have kept : ((world.withRegistry id registry).noted []).Tidy submitting := by
    apply serving.tidy.grow serving.still.1
    · intro display houses
      rw [Registry.contains_eq, same, ← Registry.contains_eq]
      exact houses
    · simp
    · simp
    · intro stays display
      rw [same, List.append_nil]
      exact serving.tidy.tracked id stays display
  rw [unnoted] at kept
  exact serving.further kept rfl rfl fun worker? => .refl worker? _

/-- The registry changes as a note says, by which no display goes. -/
theorem noted {note : Note} (about : note.client = id)
    (spares : ∀ client display, ¬note.Removes client display)
    (outlines : ∀ display, registry.outline display =
      note.record id (world.service.registry id).outline display) :
    Serving start id submitting ((world.withRegistry id registry).noted [note]) :=
  serving.further (serving.tidy.noted serving.still about spares outlines) rfl rfl
    fun worker? => .refl worker? _

end Serving

/-- Between its requests the action leaves outlines alone. -/
theorem Serving.abides {action : Action Registry α} (serving : Serving start id submitting world)
    (abides : action.Abides Registry.SameOutline) :
    (onService (Service.onRegistry id action)).Assures (Request.Meddles Proceeds) world
      fun _ _ after => Serving start id submitting after := by
  rw [onService_onRegistry]
  apply Run.Abides.assures_within (Serving start id submitting) _ _ (abides _) serving
  · intro world registry same serving
    exact serving.reoutlined same
  · intro request before after meddled serving
    exact serving.meddled meddled

/-- A call leaves its client in order, with the notes of it if it succeeded. -/
def Settles (start : World) (id : ClientId) (submitting : List CaptureTicket)
    (notes : α → List Note) (answer : Except Status α) (after : World) : Prop :=
  match answer with
  | .ok value => Serving start id submitting (after.noted (notes value))
  | .error _ => Serving start id submitting after

theorem Settles.unnoted {answer : Except Status α} (serving : Serving start id submitting world) :
    Settles start id submitting (fun _ => []) answer world := by
  cases answer with
  | error status => exact serving
  | ok value => simpa [Settles, noted] using serving

/-- However the call goes, it settles. -/
def Served (id : ClientId) (call : Action Service (Except Status α)) (notes : α → List Note) : Prop :=
  ∀ start submitting world, Serving start id submitting world →
    (onService call).Assures (Request.Meddles Proceeds) world
      fun _ answer after => Settles start id submitting notes answer after

/-- What is done while something is under way, apart from a departure. -/
theorem assures_during {entry : Underway} {action : Action World Unit}
    (ordinary : ∀ id, entry ≠ .departure id)
    (assured : ∀ submitting, (before.pushed entry).Tidy submitting →
      action.Assures (Request.Meddles Proceeds) (before.pushed entry)
        fun _ _ after => after.Tidy submitting ∧ after.underway = entry :: before.underway ∧
          before.Lasting after.popped) :
    (during entry action).Assures (Request.Meddles Proceeds) before
      fun _ _ after => before.Proceeds after := by
  intro exchanges value final finished submitting tidy
  have unchanged (id : ClientId) : Underway.departure id ∈ entry :: before.underway ↔
      .departure id ∈ before.underway := by
    simp [(ordinary id).symm]
  have kept : (during entry action).Assures (Request.Meddles Proceeds) before
      fun _ _ after => Stage before submitting after := by
    apply Action.Assures.bind
    apply Action.Assures.modify
    apply Action.Assures.bind
    refine Action.Assures.imp (assured submitting (tidy.of_departures unchanged)) ?_
    intro _ _ after settled
    obtain ⟨tidy, underway, lasting⟩ := settled
    apply Action.Assures.modify
    refine ⟨tidy.of_departures ?_, lasting⟩
    intro id
    rw [underway]
    exact (unchanged id).symm
  exact kept exchanges value final finished

theorem assures_serve {call : Action Service (Except Status α)} {notes : α → List Note}
    (served : Served id call notes) (serves : before.Serves id) :
    (serve id call notes).Assures (Request.Meddles Proceeds) before
      fun _ _ after => before.Proceeds after := by
  apply assures_during (by simp)
  intro submitting tidy
  have serving : Serving (before.pushed (.call id)) id submitting (before.pushed (.call id)) := by
    refine ⟨⟨tidy, .refl _⟩, ⟨serves.1, ?_⟩, List.mem_cons_self⟩
    simpa [pushed] using serves.2
  have settled (after : World) (serving : Serving (before.pushed (.call id)) id submitting after) :
      after.Tidy submitting ∧ after.underway = .call id :: before.underway ∧
        before.Lasting after.popped :=
    ⟨serving.tidy, serving.lasting.underway, serving.lasting.popped⟩
  apply Action.Assures.bind
  refine Action.Assures.imp (served _ _ _ serving) ?_
  intro _ answer after noted
  cases answer with
  | error status => exact .pure (settled _ noted)
  | ok value => exact .modify (settled _ noted)

section Served

variable {display : DisplayId} {note : Note}

theorem served_abides {action : Action Registry (Except Status α)}
    (abides : action.Abides Registry.SameOutline) :
    Served id (Service.onRegistry id action) fun _ => [] := by
  intro start submitting world serving
  refine Action.Assures.imp (serving.abides abides) ?_
  intro _ answer after serving
  exact .unnoted serving

theorem served_resizeClientTargets (id : ClientId) (display : DisplayId) (count : Nat) :
    Served id (Service.resizeClientTargets id display count) fun _ => [] :=
  served_abides (Registry.abides_change Registry.allows_sameOutline
    Registry.sameOutline_resizeClientTargets)

theorem served_resizeLayerBuffers (id : ClientId) (display : DisplayId) (layer : LayerId)
    (count : Nat) : Served id (Service.resizeLayerBuffers id display layer count) fun _ => [] :=
  served_abides (Registry.abides_change Registry.allows_sameOutline
    Registry.sameOutline_resizeLayerBuffers)

theorem served_execute (id : ClientId) (commands : List DisplayCommand) :
    Served id (Service.execute id commands) fun _ => [] := by
  have allows := Registry.allows_sameOutline
  exact served_abides (EngineAction.abides_run allows
    (EngineAction.abides_batch allows (EngineAction.abides_displayCommand allows) commands) {})

theorem served_executeExtended (id : ClientId) (commands : List ExtendedDisplayCommand) :
    Served id (Service.executeExtended id commands) fun _ => [] := by
  have allows := Registry.allows_sameOutline
  exact served_abides (EngineAction.abides_run allows
    (EngineAction.abides_batch allows (EngineAction.abides_extendedDisplayCommand allows) commands) {})

theorem assures_noted_change {operation : Registry → Except Status (Registry × List Handle)}
    (serving : Serving start id submitting world) (about : note.client = id)
    (spares : ∀ client display, ¬note.Removes client display)
    (outlines : ∀ registry released,
      operation (world.service.registry id) = .ok (registry, released) →
        ∀ display, registry.outline display =
          note.record id (world.service.registry id).outline display) :
    (onService (Service.onRegistry id (Registry.change operation))).Assures
      (Request.Meddles Proceeds) world
      fun _ answer after => Settles start id submitting (fun _ => [note]) answer after := by
  apply assures_change
  · intro status _
    exact serving.reoutlined fun _ => rfl
  · intro registry released exchanges outcome _
    exact serving.noted about spares (outlines registry released outcome)

theorem served_createLayer (id : ClientId) (display : DisplayId) (slots : Nat) :
    Served id (Service.createLayer id display slots)
      fun layer => [.layerCreated id display layer] := by
  intro start submitting world serving
  apply assures_call
  intro reply after meddled
  have serving := serving.meddled meddled
  cases reply with
  | error status => exact assures_pure serving
  | ok layer =>
      rw [onService_bind]
      apply Action.Assures.bind
      have changed := @assures_noted_change _ _ _ _ (.layerCreated id display layer)
        (·.addLayer display layer slots) serving rfl (by simp [Note.Removes])
      refine Action.Assures.imp (changed ?_) ?_
      · intro registry released added other
        simp [Registry.outline_addLayer added, Note.record]
      · intro _ answer after settled
        cases answer with
        | error status => exact assures_pure settled
        | ok _ => exact assures_pure settled

theorem served_destroyLayer (id : ClientId) (display : DisplayId) (layer : LayerId) :
    Served id (Service.destroyLayer id display layer)
      fun _ => [.layerDestroyed id display layer] := by
  intro start submitting world serving
  apply assures_call
  intro reply after meddled
  have serving := serving.meddled meddled
  cases reply with
  | error status => exact assures_pure serving
  | ok _ =>
      apply assures_noted_change serving rfl (by simp [Note.Removes])
      intro registry released removed other
      simp [Registry.outline_removeLayer removed, Note.record]

theorem served_createVirtualDisplay (id : ClientId) (width height : Nat) (format : PixelFormat)
    (outputSlots : Nat) :
    Served id (Service.createVirtualDisplay id width height format outputSlots)
      fun created => [.displayAdded id created.1 true] := by
  intro start submitting world serving
  apply assures_call
  intro reply after meddled
  have serving := serving.meddled meddled
  cases reply with
  | error status => exact assures_pure serving
  | ok created =>
      apply assures_modify
      refine assures_pure ?_
      apply serving.noted rfl (by simp [Note.Removes])
      intro other
      simp [Registry.outline_addDisplay, Note.record, Service.registry]

theorem served_destroyVirtualDisplay (id : ClientId) (display : DisplayId) :
    Served id (Service.destroyVirtualDisplay id display)
      fun _ => [.displayRemoved id display] := by
  intro start submitting world serving
  apply assures_call
  intro reply after meddled
  have serving := serving.meddled meddled
  cases reply with
  | error status => exact assures_pure serving
  | ok _ =>
      rw [onService_bind]
      apply Action.Assures.bind
      apply assures_change
      · intro status _
        exact assures_pure (serving.reoutlined fun _ => rfl)
      · intro registry released exchanges removed _
        have forgotten := serving.tidy.forget (Registry.outline_removeDisplay removed)
        have spared := serving.tidy.spared (@CaptureState.Step.remove _ display) (by simp)
        apply assures_modify
        refine assures_pure ?_
        exact serving.further forgotten rfl rfl spared

section Post

variable {captures : Pipeline} {later : List CaptureTicket} {state : CaptureState}
  {event : CaptureEvent} {ticket : CaptureTicket}

/-- A step of the captures that no worker takes. -/
theorem Serving.step (serving : Serving start id submitting world)
    (step : CaptureState.Step ⟨world.service.captures, submitting⟩ display event state)
    (silent : ∀ session request, event ≠ .told session request)
    (shown : ∀ display, state.pipeline.hasSession display = true →
      world.service.captures.hasSession display = true ∨ ∃ owner, world.Houses owner display) :
    Serving start id state.submitting (world.withCaptures state.pipeline) where
  tidy := serving.tidy.captured (serving.tidy.step step) shown
  lasting := serving.lasting.captured fun worker? _ => serving.tidy.spared step silent worker?
  serves := serving.serves
  engaged := serving.engaged

theorem Serving.accept (serving : Serving start id (ticket :: submitting) world)
    (begun : world.service.captures.sessions[ticket.session]?.isSome) :
    Serving start id submitting (world.withCaptures (world.service.captures.accept ticket)) := by
  obtain ⟨session, found⟩ := Option.isSome_iff_exists.mp begun
  have step := @CaptureState.Step.accept ⟨world.service.captures, ticket :: submitting⟩ ticket
    session List.mem_cons_self found
  rw [List.erase_cons_head] at step
  apply serving.step step (by simp)
  intro display session
  rw [Pipeline.hasSession_accept] at session
  exact .inl session

theorem Serving.refuse (serving : Serving start id (ticket :: submitting) world)
    (begun : world.service.captures.sessions[ticket.session]?.isSome) :
    Serving start id submitting (world.withCaptures (world.service.captures.refuse ticket).2) := by
  obtain ⟨session, found⟩ := Option.isSome_iff_exists.mp begun
  have step := @CaptureState.Step.refuse ⟨world.service.captures, ticket :: submitting⟩ ticket
    session List.mem_cons_self found
  rw [List.erase_cons_head] at step
  apply serving.step step (by simp)
  intro display session
  rw [Pipeline.hasSession_refuse] at session
  exact .inl session

theorem served_postCapture (id : ClientId) (display : DisplayId) (config : CaptureConfig)
    (buffer : NativeHandle) (listener : CaptureListener) :
    Served id (Service.postCapture id display config buffer listener) fun _ => [] := by
  intro start submitting world serving
  have kept {answer : Except Status Unit} {after : World} :
      Serving start id submitting after →
        Settles start id submitting (fun _ => []) answer after := Settles.unnoted
  refine assures_get ?_
  cases houses : (world.service.registry id).contains display with
  | false => exact assures_pure (kept serving)
  | true =>
  -- The importer leaves the display where it is until the request is queued.
  have shown {session : DisplayId} {captures : Pipeline}
      (same : captures.hasSession session = (session == display ||
        world.service.captures.hasSession session)) (opened : captures.hasSession session = true) :
      world.service.captures.hasSession session = true ∨ ∃ owner, world.Houses owner session := by
    rw [same, Bool.or_eq_true, beq_iff_eq] at opened
    cases opened with
    | inl named => exact .inr ⟨id, named ▸ houses⟩
    | inr before => exact .inl before
  rw [if_pos rfl, onService_onCaptures, Pipeline.post]
  cases buffer.id.isAnonymous with
  | true => exact .within_pure rfl (kept serving)
  | false =>
  refine .within_ask lens_captures ?_
  intro reply imported untouched
  obtain rfl : imported = world := untouched
  cases reply with
  | error reason => exact .within_pure rfl (kept serving)
  | ok _ =>
  obtain ⟨events, reached⟩ := serving.tidy.captures
  refine .within_modifyGet lens_captures.toFocus ?_
  cases queued : imported.service.captures.enqueue display config (.owning buffer) listener with
  | mk ticket? captures =>
  have opened (session : DisplayId) := @Pipeline.hasSession_enqueue _ _ _ session _ _ _ _ reached.sound queued
  cases ticket? with
  | none =>
      have serving := serving.step (.decline queued) (by simp) fun session => shown (opened session)
      refine .within_release lens_captures.toFocus rfl ?_
      intro exchanges _
      exact .within_pure rfl (kept serving)
  | some ticket =>
      have serving := serving.step (.queue queued) (by simp) fun session => shown (opened session)
      refine .within_ask lens_captures ?_
      intro answer told meddled
      have lasting : (imported.withCaptures captures).Lasting told := (meddled _ serving.tidy).lasting
      have begun := (lasting.spared none nofun).begun ticket.session (Pipeline.enqueue_begun queued)
      have serving := serving.meddled meddled
      cases answer with
      | ok _ =>
          refine .within_modifyGet lens_captures.toFocus ?_
          exact .within_pure rfl (kept (serving.accept begun))
      | error status =>
          refine .within_modifyGet lens_captures.toFocus ?_
          refine .within_release lens_captures.toFocus rfl ?_
          intro exchanges _
          exact .within_pure rfl (kept (serving.refuse begun))

end Post

end Served

end Scanout.World
