import Scanout.Proofs.Clients.Departure

/-!
All calls proceed, whatever is called from within them. The calls that a client makes are one case
and its departure is another; here are those of the device, of workers and of clients to be, and from
one call the whole is shown by induction on how deep calls are made from within others.
-/

namespace Scanout.World

variable {may : World → World → Prop} {before world after : World}
  {submitting : List CaptureTicket} {id : ClientId}

section Listener

theorem proceeds_registerListener (serves : before.Serves id) (listener : EventListener) :
    (onService (Service.registerListener id listener)).Assures (Request.Meddles may) before
      fun _ _ after => before.Proceeds after := by
  apply Action.Assures.modify
  intro submitting tidy
  have registry (other : ClientId) :
      (before.service.modifyClient id fun client =>
        { client with listener := some listener, eventsEnabled := true }).registry other =
        before.service.registry other := by
    apply Service.registry_modifyClient_of_same
    intro _
    rfl
  constructor
  case tidy =>
    constructor
    case captures => exact tidy.captures
    case occupied => exact tidy.occupied
    case listening =>
      intro other enabled
      by_cases same : id = other
      · rw [← same]
        exact serves
      · apply tidy.listening other
        simpa [Service.client_modifyClient, same] using enabled
    case housed =>
      intro other display houses
      rw [Houses, registry] at houses
      exact tidy.housed other display houses
    case shown =>
      intro display session
      apply (tidy.shown display session).imp_left
      intro houses
      obtain ⟨other, there⟩ := houses
      exact ⟨other, by rwa [Houses, registry]⟩
    case tracked =>
      intro other stays
      rw [registry]
      exact tidy.tracked other stays
  case lasting =>
    exact (Lasting.refl before).further serves rfl rfl fun worker? => .refl worker? _

variable {listener : EventListener} {event : DisplayEvent}

theorem serves_of_active (tidy : before.Tidy submitting)
    (active : (before.service.client id).activeListener = some listener) : before.Serves id := by
  apply tidy.listening
  unfold Client.activeListener at active
  split at active
  · assumption
  · cases active

theorem stage_connect (tidy : before.Tidy submitting) (serves : before.Serves id) (display : DisplayId)
    (slots : Nat) :
    Stage before submitting ((before.withRegistry id
      ((before.service.registry id).addDisplay display false slots 0).2).noted
        [.displayAdded id display false]) where
  tidy := by
    apply tidy.noted serves rfl (by simp [Note.Removes])
    intro other
    simp [Registry.outline_addDisplay, Note.record]
  lasting := (Lasting.refl before).further serves rfl rfl fun worker? => .refl worker? _

theorem stage_disconnect {display : DisplayId} {registry : Registry}
    (stage : Stage before submitting world) (serves : before.Serves id)
    (gone : ∀ other, registry.outline other =
      if display = other then none else (world.service.registry id).outline other) :
    Stage before submitting (((world.withRegistry id registry).withCaptures
      (world.service.captures.removeDisplay display)).noted [.displayRemoved id display]) where
  tidy := stage.tidy.forget gone
  lasting := stage.lasting.further serves rfl rfl
    (stage.tidy.spared (@CaptureState.Step.remove _ display) (by simp))

theorem proceeds_receive (id : ClientId) (event : DisplayEvent) :
    (receive id event).Assures (Request.Meddles Proceeds) before
      fun _ _ after => before.Proceeds after := by
  intro exchanges value final finished submitting tidy
  have kept : (receive id event).Assures (Request.Meddles Proceeds) before
      fun _ _ after => Stage before submitting after := by
    unfold receive Service.receive
    refine Action.Assures.get ?_
    cases active : (before.service.client id).activeListener with
    | none =>
        refine assures_get ?_
        rw [active]
        exact assures_pure ⟨tidy, .refl before⟩
    | some listener =>
        have serves := serves_of_active tidy active
        cases kind : event.kind with
        | hotplug connected =>
            cases connected with
            | true =>
                apply Action.Assures.bind
                apply Action.Assures.modify
                refine assures_get ?_
                dsimp only [noted]
                rw [active]
                refine assures_modify ?_
                refine assures_notify ?_
                intro after meddled
                exact (stage_connect tidy serves event.display _).meddled meddled
            | false =>
                apply Action.Assures.bind
                refine assures_get ?_
                rw [active]
                refine assures_ask ?_
                intro _ heard meddled
                have stage := Stage.meddled ⟨tidy, .refl before⟩ meddled
                refine assures_call ?_
                intro _ refreshed meddled
                have stage := stage.meddled meddled
                rw [onService_bind]
                apply Action.Assures.bind
                apply assures_dropDisplay
                intro _ registry _ gone _
                apply Action.Assures.modify
                apply Action.Assures.modify
                exact stage_disconnect stage serves gone
        | _ =>
            refine assures_get ?_
            rw [active]
            refine assures_notify ?_
            intro after meddled
            exact Stage.meddled ⟨tidy, .refl before⟩ meddled
  exact kept exchanges value final finished

end Listener

section Completion

theorem proceeds_completeCapture (display : DisplayId) (code : Int) (buffer : BufferId) :
    (onService (do let _ ← Service.completeCapture display code buffer)).Assures
      (Request.Meddles may) before fun _ _ after => before.Proceeds after := by
  unfold Service.completeCapture
  rw [bind_assoc]
  refine assures_get ?_
  cases completed : before.service.captures.complete display code buffer with
  | error status => exact assures_pure (.refl before)
  | ok captures =>
      refine assures_modify ?_
      refine assures_pure ?_
      intro submitting tidy
      have step : CaptureState.Step ⟨before.service.captures, submitting⟩ display
          (.completed display code buffer) ⟨captures, submitting⟩ := .complete completed
      constructor
      · apply tidy.recaptured (tidy.step step)
        exact fun _ => Pipeline.hasSession_complete completed
      · exact (Lasting.refl before).captured fun worker? _ => tidy.spared step (by simp) worker?

end Completion

section Worker

variable {session : SessionId} {worker : Nat} {pipeline : Pipeline} {request : CaptureRequest}

/-- A worker that is through with its request disturbs no other. -/
theorem spared_resume (worker? : Option (SessionId × Nat)) (other : worker? ≠ some (session, worker)) :
    pipeline.Spared worker? (pipeline.modifySession session (·.resume worker)) where
  begun id begun := CaptureState.begun_modifySession begun session _
  inHand id place request named notifying := by
    have undisturbed : Pipeline.Undisturbed (some (session, worker)) pipeline
        (pipeline.modifySession session (·.resume worker)) := by
      apply Pipeline.Undisturbed.modifySession
      intro kept _ place request different notifying
      apply notifying.resume
      rintro rfl
      exact different rfl
    apply undisturbed id place request _ notifying
    rintro same
    exact other (named.trans same.symm)

theorem stage_look {start : World} {kept : CaptureSession} (stage : Stage start submitting world)
    (found : world.service.captures.sessions[session]? = some kept)
    (awake : kept.workers[worker]? = some .awake) :
    Stage start submitting
      (world.withCaptures (world.service.captures.modifySession session (·.look worker))) := by
  have step := @CaptureState.Step.look ⟨world.service.captures, submitting⟩ session worker kept found awake
  constructor
  · exact stage.tidy.recaptured (stage.tidy.step step) (Pipeline.hasSession_modifySession _ _ _)
  · exact stage.lasting.captured fun worker? _ => stage.tidy.spared step (by simp) worker?

theorem tidy_resume (tidy : world.Tidy submitting)
    (notifying : world.service.captures.Notifying session worker request) :
    (world.withCaptures
      (world.service.captures.modifySession session (·.resume worker))).Tidy submitting := by
  obtain ⟨kept, found, inHand⟩ := notifying
  have step := @CaptureState.Step.tell ⟨world.service.captures, submitting⟩ session worker kept
    request found inHand
  exact tidy.recaptured (tidy.step step) (Pipeline.hasSession_modifySession _ _ _)

theorem proceeds_work (idle : .delivery session worker ∉ before.underway) :
    (during (.delivery session worker)
      (onService (Service.onCaptures (Pipeline.work session worker)))).Assures
        (Request.Meddles Proceeds) before fun _ _ after => before.Proceeds after := by
  apply assures_during (by simp)
  intro submitting tidy
  have settled {after : World}
      (stage : Stage (before.pushed (.delivery session worker)) submitting after) :
      after.Tidy submitting ∧ after.underway = .delivery session worker :: before.underway ∧
        before.Lasting after.popped :=
    ⟨stage.tidy, stage.lasting.underway, stage.lasting.popped⟩
  have begun : Stage (before.pushed (.delivery session worker)) submitting
      (before.pushed (.delivery session worker)) := ⟨tidy, .refl _⟩
  rw [onService_onCaptures]
  unfold Pipeline.work
  refine .within_get ?_
  cases found : (before.pushed (.delivery session worker)).service.captures.sessions[session]? with
  | none => exact .within_pure rfl (settled begun)
  | some kept =>
  cases entry : kept.workers[worker]? with
  | none =>
      simp only [entry]
      exact .within_pure rfl (settled begun)
  | some doing =>
  simp only [entry]
  cases doing with
  | asleep => exact .within_pure rfl (settled begun)
  | awake =>
      apply Action.Assures.modify
      exact settled (stage_look begun found entry)
  | notifying request =>
      refine .within_ask lens_captures ?_
      intro _ told meddled
      have stage := begun.meddled meddled
      have notifying := (stage.lasting.spared (some (session, worker)) (by
        intro _ _ own
        cases own
        exact List.mem_cons_self)).inHand session worker request rfl ⟨kept, found, entry⟩
      refine .within_release lens_captures.toFocus rfl ?_
      intro _ _
      apply Action.Assures.modify
      refine ⟨tidy_resume stage.tidy notifying, stage.lasting.underway, ?_⟩
      apply stage.lasting.popped.captured
      intro worker? delivers
      apply spared_resume
      rintro rfl
      exact idle (delivers session worker rfl)

end Worker

section Arrival

theorem vacant_of_free (tidy : world.Tidy submitting) (free : world.service.occupied = false) :
    world.occupant = none := by
  cases occupant : world.occupant with
  | none => rfl
  | some id => simp [tidy.occupied id occupant] at free

theorem not_houses_of_vacant (tidy : world.Tidy submitting) (vacant : world.occupant = none)
    (other : ClientId) (display : DisplayId) : ¬world.Houses other display := by
  intro there
  have occupant := tidy.housed other display there
  simp [vacant] at occupant

theorem registry_of_vacant (tidy : world.Tidy submitting) (vacant : world.occupant = none)
    (id : ClientId) : world.service.registry id = ∅ := by
  apply Registry.eq_empty_of_outline
  intro display
  have absent := not_houses_of_vacant tidy vacant id display
  rwa [houses_iff, Option.isSome_iff_ne_none, ne_eq, not_not] at absent

/-- The world with the client slot taken, for a client with a record of its own. -/
def taken (world : World) (id : ClientId) (next : Nat) : World :=
  { world with service := { world.service with
      occupied := true, clients := world.service.clients.insert id {}, nextClient := next } }

theorem client_taken (world : World) (id other : ClientId) (next : Nat) :
    (world.taken id next).service.client other =
      if id = other then {} else world.service.client other := by
  unfold Service.client taken
  rw [Table.getElem?_insert]
  split <;> rfl

theorem Tidy.taken (tidy : world.Tidy submitting) (free : world.service.occupied = false)
    (id : ClientId) (next : Nat) : (world.taken id next).Tidy submitting := by
  have vacant := vacant_of_free tidy free
  -- Nobody had a display, so the client with the new record has none either.
  have outline (other : ClientId) (display : DisplayId) :
      ((world.taken id next).service.registry other).outline display =
        (world.service.registry other).outline display := by
    unfold Service.registry
    rw [client_taken]
    by_cases same : id = other
    · have empty : (world.service.client other).registry = ∅ := registry_of_vacant tidy vacant other
      rw [if_pos same, empty]
    · rw [if_neg same]
  have houses (other : ClientId) (display : DisplayId) := houses_congr (outline other display)
  constructor
  case captures => exact tidy.captures
  case occupied => exact fun _ _ => rfl
  case listening =>
    intro other enabled
    rw [client_taken] at enabled
    by_cases same : id = other
    · rw [if_pos same] at enabled
      cases enabled
    · rw [if_neg same] at enabled
      exact tidy.listening other enabled
  case housed =>
    intro other display there
    exact tidy.housed other display ((houses other display).mp there)
  case shown =>
    intro display session
    apply (tidy.shown display session).imp_left
    intro there
    obtain ⟨other, there⟩ := there
    exact ⟨other, (houses other display).mpr there⟩
  case tracked =>
    intro other stays display
    rw [outline]
    exact tidy.tracked other stays display

theorem Tidy.arrived (tidy : world.Tidy submitting) (vacant : world.occupant = none)
    (occupied : world.service.occupied = true) (id : ClientId) :
    ({ world with occupant := some id } : World).Tidy submitting where
  captures := tidy.captures
  occupied _ _ := occupied
  listening other enabled := by
    have served := (tidy.listening other enabled).1
    simp [vacant] at served
  housed other display there := absurd there (not_houses_of_vacant tidy vacant other display)
  shown := tidy.shown
  tracked := tidy.tracked

/-- A client moves in when the slot is free, which it is not for whoever waits around it. -/
theorem stage_arrived (stage : Stage before submitting world) (free : world.service.occupied = false)
    {id : ClientId} {next : Nat} (arrived : Stage (world.taken id next) submitting after) :
    Stage before submitting { after with occupant := some id } := by
  have vacant := vacant_of_free stage.tidy free
  obtain ⟨stillVacant, occupied⟩ := arrived.lasting.arriving vacant rfl
  have nobody (other : ClientId)
      (engaged : .call other ∈ before.underway ∨ .departure other ∈ before.underway)
      (occupant : before.occupant = some other) : False := by
    have stays := stage.lasting.staying other engaged occupant
    simp [vacant] at stays
  refine ⟨arrived.tidy.arrived stillVacant occupied id, ?_⟩
  constructor
  case underway => exact arrived.lasting.underway.trans stage.lasting.underway
  case arriving =>
    intro unoccupied taken
    have still := (stage.lasting.arriving unoccupied taken).2
    simp [free] at still
  case staying => exact fun other engaged occupant => (nobody other engaged occupant).elim
  case departing => exact fun other departs occupant => (nobody other (.inr departs) occupant).elim
  case spared =>
    intro worker? delivers
    apply (stage.lasting.spared worker? delivers).trans
    apply arrived.lasting.spared
    unfold Delivers
    rw [taken, stage.lasting.underway]
    exact delivers

/-- The client that moves in becomes the occupant once its receiver is installed. -/
theorem assures_moveIn (stage : Stage before submitting world) (free : world.service.occupied = false) :
    (onService (do
      let id ← modifyGet fun service : Service =>
        let id : ClientId := ⟨service.nextClient⟩
        (id, { service with
          occupied := true
          clients := service.clients.insert id {}
          nextClient := service.nextClient + 1 })
      Action.call (.setEventReceiver (some id))
      return .ok id : Action Service (Except Status ClientId))).Assures (Request.Meddles Proceeds)
        world fun _ answer after => ∃ id, answer = .ok id ∧
          Stage before submitting { after with occupant := some id } := by
  refine .within_modifyGet lens_service.toFocus ?_
  refine assures_call ?_
  intro _ after meddled
  have arrived := Stage.meddled ⟨stage.tidy.taken free _ _, .refl _⟩ meddled
  exact assures_pure ⟨_, rfl, stage_arrived stage free arrived⟩

theorem proceeds_createClient :
    ServiceCall.createClient.action.Assures (Request.Meddles Proceeds) before
      fun _ _ after => before.Proceeds after := by
  intro exchanges value final finished submitting tidy
  have kept : ServiceCall.createClient.action.Assures (Request.Meddles Proceeds) before
      fun _ _ after => Stage before submitting after := by
    have stage : Stage before submitting before := ⟨tidy, .refl before⟩
    apply Action.Assures.bind
    unfold Service.createClient
    refine assures_get ?_
    dsimp only
    cases occupied : before.service.occupied with
    | false =>
        refine Action.Assures.imp (assures_moveIn stage occupied) ?_
        intro _ answer after arrived
        obtain ⟨id, rfl, stage⟩ := arrived
        exact .modify stage
    | true =>
        refine assures_get ?_
        refine assures_ask ?_
        intro _ waited meddled
        have stage := stage.meddled meddled
        refine assures_get ?_
        cases occupied : waited.service.occupied with
        | true => exact assures_pure (.pure stage)
        | false =>
            refine Action.Assures.imp (assures_moveIn stage occupied) ?_
            intro _ answer after arrived
            obtain ⟨id, rfl, stage⟩ := arrived
            exact .modify stage
  exact kept exchanges value final finished

end Arrival

/-- Every call proceeds, if whatever is called from within it does. -/
theorem proceeds_call (call : ServiceCall) (permitted : call.Permitted before) :
    call.action.Assures (Request.Meddles Proceeds) before fun _ _ after => before.Proceeds after := by
  cases call with
  | createClient => exact proceeds_createClient
  | dropClient id =>
      intro exchanges value final finished submitting tidy
      exact (assures_dropClient tidy permitted.1 permitted.2 exchanges value final finished).1
  | registerListener id listener => exact proceeds_registerListener permitted listener
  | createLayer id display slots => exact assures_serve (served_createLayer id display slots) permitted
  | destroyLayer id display layer =>
      exact assures_serve (served_destroyLayer id display layer) permitted
  | createVirtualDisplay id width height format outputSlots =>
      exact assures_serve (served_createVirtualDisplay id width height format outputSlots) permitted
  | destroyVirtualDisplay id display =>
      exact assures_serve (served_destroyVirtualDisplay id display) permitted
  | resizeClientTargets id display count =>
      exact assures_serve (served_resizeClientTargets id display count) permitted
  | resizeLayerBuffers id display layer count =>
      exact assures_serve (served_resizeLayerBuffers id display layer count) permitted
  | execute id commands => exact assures_serve (served_execute id commands) permitted
  | executeExtended id commands => exact assures_serve (served_executeExtended id commands) permitted
  | postCapture id display config buffer listener =>
      exact assures_serve (served_postCapture id display config buffer listener) permitted
  | completeCapture display code buffer => exact proceeds_completeCapture display code buffer
  | receive id event => exact proceeds_receive id event
  | work session worker => exact proceeds_work permitted

theorem proceeds_of_calls (implies : ∀ before after, may before after → before.Proceeds after)
    (calls : Calls may before after) : before.Proceeds after := by
  obtain ⟨call, permitted, exchanges, finished⟩ := calls
  apply proceeds_call call permitted exchanges ()
  exact finished.imp fun _ _ _ meddled => meddled.imp implies

theorem proceeds_of_many (implies : ∀ before after, may before after → before.Proceeds after)
    (many : Relation.ReflTransGen (Calls may) before after) : before.Proceeds after := by
  induction many with
  | refl => exact .refl before
  | tail _ last ih => exact ih.trans (proceeds_of_calls implies last)

theorem proceeds_of_happens {depth : Nat} (happens : Happens depth before after) :
    before.Proceeds after := by
  induction depth generalizing before after with
  | zero => exact happens ▸ .refl before
  | succ depth ih => exact proceeds_of_many (fun _ _ => ih) happens

theorem tidy_fresh (settings : Settings) : ({ service := settings.service } : World).Tidy [] where
  captures := ⟨[], .start⟩
  occupied _ occupant := by cases occupant
  listening id enabled := by simp [Service.client, Settings.service] at enabled
  housed id display houses := by
    simp [Houses, Service.registry, Service.client, Settings.service, Registry.contains_eq] at houses
  shown display session := by simp [Pipeline.hasSession, Settings.service] at session
  tracked id _ display := by simp [Service.registry, Service.client, Settings.service, recorded]

/-- Between two calls at the top the world is tidy, and nothing is under way. -/
theorem Reached.tidy {settings : Settings} (reached : Reached settings world) :
    world.Tidy [] ∧ world.underway = [] := by
  obtain ⟨depth, happens⟩ := reached
  have stage := proceeds_of_happens happens [] (tidy_fresh settings)
  exact ⟨stage.tidy, stage.lasting.underway⟩

section Reached

variable {settings : Settings}

theorem Reached.serves (reached : Reached settings world)
    (occupant : world.occupant = some id) : world.Serves id := by
  simp [Serves, occupant, reached.tidy.2]

theorem Reached.departs (reached : Reached settings world)
    (occupant : world.occupant = some id) :
    (ServiceCall.dropClient id).Permitted world := by
  simp [ServiceCall.Permitted, reached.serves occupant, reached.tidy.2]

theorem Reached.rests (reached : Reached settings world) (session : SessionId) (worker : Nat) :
    (ServiceCall.work session worker).Permitted world := by
  simp [ServiceCall.Permitted, reached.tidy.2]

theorem happens_refl (depth : Nat) (world : World) : Happens depth world world := by
  cases depth with
  | zero => rfl
  | succ depth => exact .refl

/-- What a call comes to when nobody comes back from within. -/
def performed (world : World) (call : ServiceCall) (replies : Replies) : World :=
  (call.action.perform replies.quiet world).state

theorem finishes_performed (stays : ∀ world, may world world) (before : World)
    (call : ServiceCall) (replies : Replies) : (call.action.start before).Finishes (Request.Meddles may)
      (call.action.perform replies.quiet before).exchanges () (before.performed call replies) := by
  have ended : (call.action.start before).Ends (· = ·)
      (call.action.perform replies.quiet before).exchanges () (before.performed call replies) :=
    Action.perform_ends (fun _ _ _ => rfl) call.action before
  exact ended.finishes (Request.Meddles.refl stays)

theorem calls_performed {call : ServiceCall} (permitted : call.Permitted before)
    (stays : ∀ world, may world world) (replies : Replies) :
    Calls may before (before.performed call replies) :=
  ⟨call, permitted, _, finishes_performed stays before call replies⟩

theorem Reached.performed (reached : Reached settings world)
    (call : ServiceCall) (permitted : call.Permitted world) (replies : Replies) :
    Reached settings (world.performed call replies) := by
  obtain ⟨depth, happens⟩ := reached
  have last (depth : Nat) := calls_performed permitted (happens_refl depth) replies
  cases depth with
  | zero =>
      obtain rfl : _ = world := happens
      exact ⟨1, .single (last 0)⟩
  | succ depth => exact ⟨depth + 1, .tail happens (last depth)⟩

end Reached

end Scanout.World
