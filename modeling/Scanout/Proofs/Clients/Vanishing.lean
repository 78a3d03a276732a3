import Scanout.Proofs.Captures.Loss
import Scanout.Proofs.Clients.Tidy
import Scanout.Proofs.Interruption

/-!
A display that vanishes while the device looks at a call for it. The device reports it lost from
inside the call, so the client's listener hears of it and everything that the display held is let go
before the call returns. What the operation does then finds no display, and leaves none.
-/

namespace Scanout

namespace Registry

variable {registry : Registry} {display : DisplayId}

/-- What the display holds, if it is there. -/
def held (registry : Registry) (display : DisplayId) : List Handle :=
  (registry.displays[display]?.map Display.handles).getD []

def without (registry : Registry) (display : DisplayId) : Registry := ⟨registry.displays.erase display⟩

theorem display_without (registry : Registry) (display : DisplayId) :
    (registry.without display).display display = .error .badDisplay := by
  have absent : (registry.without display).displays[display]? = none :=
    (Table.getElem?_erase _ _ _).trans (if_pos rfl)
  simp only [Registry.display, absent]

/-- The display is not there afterwards, and what it held is given back. -/
theorem ensures_removeDisplay (registry : Registry) (display : DisplayId) :
    (change (·.removeDisplay display)).Ensures Eq registry fun freed _ final =>
      freed.map Exchange.request = (referencesOf (registry.held display)).map Request.freeBuffer ∧
        final = registry.without display := by
  unfold change
  refine .get ?_
  cases entry : registry.displays[display]? with
  | none =>
      have missing : registry.removeDisplay display = .error .badDisplay := by
        simp [removeDisplay, Registry.display, entry, bind, Except.bind]
      simp only [missing]
      refine .pure ⟨?_, ?_⟩
      · rw [held, entry]
        rfl
      · rw [without, Table.erase_of_absent entry]
  | some found =>
      have removed : registry.removeDisplay display = .ok (registry.without display, found.handles) := by
        simp [removeDisplay, Registry.display, entry, bind, Except.bind, without]
      simp only [removed]
      refine .set (.releasing _ fun freed frees => ⟨?_, rfl⟩)
      rw [frees, held, entry]
      rfl

end Registry

namespace Service

variable {service : Service} {id : ClientId} {display : DisplayId} {listener : EventListener}

theorem focus_registry (id : ClientId) :
    Focus (fun service : Service => service.registry id) fun registry service =>
      service.modifyClient id fun client => { client with registry } where
  part_replace registry service := service.registry_modifyClient id registry
  replace_replace _ _ _ := modifyClient_modifyClient _ _ _ _

theorem lens_captures : Lens captures fun captures service => { service with captures } where
  part_replace _ _ := rfl
  replace_replace _ _ _ := rfl
  replace_part _ := rfl

/-- The service once the display is lost to the client. -/
def without (service : Service) (id : ClientId) (display : DisplayId) : Service :=
  { service.modifyClient id fun client => { client with registry := client.registry.without display }
    with captures := service.captures.removeDisplay display }

theorem clients_without (service : Service) (id other : ClientId) (display : DisplayId) :
    (service.without id display).clients[other]? =
      if id = other then
        some { service.client id with registry := (service.registry id).without display }
      else service.clients[other]? :=
  service.clients_modifyClient id other fun client =>
    { client with registry := client.registry.without display }

theorem client_without (service : Service) (id : ClientId) (display : DisplayId) :
    (service.without id display).client id =
      { service.client id with registry := (service.registry id).without display } := by
  rw [client, clients_without, if_pos rfl]
  rfl

/-- What the device does while it looks at a call. -/
def vanishing (id : ClientId) (display : DisplayId) : Action Service Unit :=
  receive id ⟨display, .hotplug false⟩

/-- What is exchanged then: the client hears that the display is lost, the primary display is
refreshed, and what the display held is given back. -/
def Loss (service : Service) (id : ClientId) (display : DisplayId) (listener : EventListener)
    (exchanges : List Exchange) : Prop :=
  exchanges.map Exchange.request =
    .notify id listener ⟨display, .hotplug false⟩ :: .device (.refresh primaryDisplay) ::
      (referencesOf ((service.registry id).held display)).map Request.freeBuffer

theorem ensures_vanishing (heard : (service.client id).activeListener = some listener) :
    (vanishing id display).Ensures Eq service fun exchanges _ final =>
      service.Loss id display listener exchanges ∧ final = service.without id display := by
  unfold vanishing receive
  refine .get ?_
  simp only [heard]
  refine .bind (Run.Ensures.ask fun told after same => ?_)
  subst same
  refine Run.Ensures.done (.bind (.call fun refreshed after same => ?_))
  subst same
  refine .bind (.within (focus_registry id) ?_)
  refine ((service.registry id).ensures_removeDisplay display).imp ?_
  rintro freed _ registry ⟨frees, rfl⟩
  refine Run.Ensures.done ⟨?_, rfl⟩
  simp [Loss, frees]

/-- Of the client's displays all but this one are as they were, and so is everything else; its own
captures have failed, and these come behind them. -/
structure Forgets (service : Service) (id : ClientId) (display : DisplayId)
    (remaining : List CaptureRequest) (final : Service) : Prop where
  gone : (final.registry id).contains display = false
  displays {other : DisplayId} (different : other ≠ display) :
    (final.registry id).displays[other]? = (service.registry id).displays[other]?
  client : { final.client id with registry := service.registry id } = service.client id
  clients {other : ClientId} (different : other ≠ id) :
    final.clients[other]? = service.clients[other]?
  captures : service.captures.Loses display remaining final.captures
  rest : { final with clients := service.clients, captures := service.captures } = service

theorem forgets_without {remaining : List CaptureRequest} {captures : Pipeline} (id : ClientId)
    (loses : service.captures.Loses display remaining captures) :
    service.Forgets id display remaining { service.without id display with captures } := by
  have lost := service.client_without id display
  have registry : ({ service.without id display with captures } : Service).registry id =
      (service.registry id).without display := congrArg Client.registry lost
  constructor
  case gone =>
    rw [registry, Registry.contains, Registry.without, Table.contains_erase]
    simp
  case displays =>
    intro other different
    rw [registry]
    exact Table.getElem?_erase_of_ne different.symm
  case client => exact congrArg (fun client => { client with registry := service.registry id }) lost
  case clients =>
    intro other different
    exact (service.clients_without id other display).trans (if_neg different.symm)
  case captures => exact loses
  case rest => rfl

/-- What comes of an operation that has made its call when the display vanishes. The device's failure
is the answer, or that there is no such display. Nothing follows the call. -/
inductive Foiled {α β : Type} (service : Service) (id : ClientId) (display : DisplayId)
    (listener : EventListener) (call : Except Status β → Exchange) :
    Interruption → Except Status α → Service → Prop where
  | refused {status within final} (loss : service.Loss id display listener within)
      (forgets : service.Forgets id display [] final) :
      Foiled service id display listener call ⟨[], call (.error status), within, []⟩ (.error status) final
  | vanished {value within final} (loss : service.Loss id display listener within)
      (forgets : service.Forgets id display [] final) :
      Foiled service id display listener call ⟨[], call (.ok value), within, []⟩ (.error .badDisplay)
        final

/-- An operation that looks for the display fails, and changes nothing. -/
theorem ensures_missing {operation : Registry → Except Status (Registry × List Handle)}
    (missing : ∀ registry : Registry,
      registry.display display = .error .badDisplay → operation registry = .error .badDisplay) :
    (onRegistry id (Registry.change operation)).Ensures Eq (service.without id display)
      fun exchanges answer final => exchanges = [] ∧ answer = .error .badDisplay ∧
        final = service.without id display := by
  have present := (service.clients_without id id display).trans (if_pos rfl)
  have failed : operation ((service.without id display).registry id) = .error .badDisplay := by
    apply missing
    rw [registry, client_without]
    exact Registry.display_without _ _
  refine Action.Ensures.within (focus_registry id) ?_
  unfold Registry.change
  refine .get ?_
  simp only [failed]
  exact .pure ⟨rfl, rfl, modifyClient_self _ present⟩

section Foiled

variable (sound : service.captures.Sound) (heard : (service.client id).activeListener = some listener)

include sound heard

/-- An operation that is through when the device fails, and looks for the display when it succeeds, is
foiled. -/
theorem ensures_foiled {α β : Type} {call : Except Status β → Exchange}
    {rest : Except Status β → Action Service (Except Status α)}
    (refused : ∀ status, rest (.error status) = pure (.error status))
    (missing : ∀ value, (rest (.ok value)).Ensures Eq (service.without id display)
      fun exchanges answer final => exchanges = [] ∧ answer = .error .badDisplay ∧
        final = service.without id display) (reply : Except Status β) :
    (vanishing id display).Ensures Eq service fun within _ middle =>
      (rest reply).Ensures Eq middle fun later =>
        service.Foiled id display listener call ⟨[], call reply, within, later⟩ := by
  have forgets := forgets_without id (sound.loses_removeDisplay display)
  refine (ensures_vanishing heard).imp ?_
  rintro within _ _ ⟨loss, rfl⟩
  cases reply with
  | error status =>
      rw [refused]
      exact .pure (.refused loss forgets)
  | ok value =>
      refine (missing value).imp ?_
      rintro _ _ _ ⟨rfl, rfl, rfl⟩
      exact .vanished loss forgets

theorem withstands_createLayer (slots : Nat) :
    ((createLayer id display slots).start service).Withstands (vanishing id display)
      (service.Foiled id display listener fun reply => ⟨.device (.createLayer display), reply⟩) := by
  refine Action.withstands_call (ensures_foiled sound heard (fun _ => rfl) fun layer => ?_)
  refine .bind ((ensures_missing ?_).imp ?_)
  · intro registry missing
    simp [Registry.addLayer, missing, bind, Except.bind]
  · rintro _ _ _ ⟨rfl, rfl, rfl⟩
    exact .pure ⟨rfl, rfl, rfl⟩

theorem withstands_destroyLayer (layer : LayerId) :
    ((destroyLayer id display layer).start service).Withstands (vanishing id display)
      (service.Foiled id display listener fun reply =>
        ⟨.device (.destroyLayer display layer), reply⟩) := by
  refine Action.withstands_call (ensures_foiled sound heard (fun _ => rfl) fun _ => ?_)
  apply ensures_missing
  intro registry missing
  simp [Registry.removeLayer, missing, bind, Except.bind]

theorem withstands_destroyVirtualDisplay :
    ((destroyVirtualDisplay id display).start service).Withstands (vanishing id display)
      (service.Foiled id display listener fun reply =>
        ⟨.device (.destroyVirtualDisplay display), reply⟩) := by
  refine Action.withstands_call (ensures_foiled sound heard (fun _ => rfl) fun _ => ?_)
  refine .bind ((ensures_missing ?_).imp ?_)
  · intro registry missing
    simp [Registry.removeDisplay, missing, bind, Except.bind]
  · rintro _ _ _ ⟨rfl, rfl, rfl⟩
    exact .pure ⟨rfl, rfl, rfl⟩

end Foiled

/-- What comes of a post, when the display vanishes while the device looks at it. The device's failure
is the answer, and the listener is never told; or the post succeeds, and fails later. -/
inductive Overtaken (service : Service) (id : ClientId) (display : DisplayId)
    (listener : EventListener) (submitting : List CaptureTicket) (config : CaptureConfig)
    (buffer : NativeHandle) (target : CaptureListener) :
    Interruption → Except Status Unit → Service → Prop where
  | refused {status within later final} (loss : service.Loss id display listener within)
      (freed : later.map Exchange.request = [.freeBuffer buffer])
      (forgets : service.Forgets id display [] final)
      (never : CaptureState.Destined ⟨final.captures, submitting⟩ (service.captures.ticket display) []) :
      Overtaken service id display listener submitting config buffer target
        ⟨[⟨.importBuffer buffer, .ok ()⟩],
          ⟨.device (.submitCapture display buffer config), .error status⟩, within, later⟩
        (.error status) final
  | accepted {within final request} (loss : service.Loss id display listener within)
      (posted : request =
        { number := (service.captures.ticket display).number, buffer := .owning buffer,
          listener := target, config, submitted := true, status := some .failure })
      (forgets : service.Forgets id display [request] final)
      (owes : CaptureState.Owes ⟨final.captures, submitting⟩ (service.captures.ticket display).session
        request .failure) :
      Overtaken service id display listener submitting config buffer target
        ⟨[⟨.importBuffer buffer, .ok ()⟩],
          ⟨.device (.submitCapture display buffer config), .ok ()⟩, within, []⟩ (.ok ()) final

section Overtaken

variable {events : List CaptureEvent} {submitting : List CaptureTicket} {config : CaptureConfig}
  {buffer : NativeHandle} {target : CaptureListener}

theorem withstands_postCapture
    (reached : CaptureState.Reaches events ⟨service.captures, submitting⟩)
    (heard : (service.client id).activeListener = some listener) :
    ((postCapture id display config buffer target).start service).Withstands (vanishing id display)
      (service.Overtaken id display listener submitting config buffer target) := by
  unfold postCapture
  rw [Action.start_bind, Action.start_get, Run.done_andThen]
  cases houses : (service.registry id).contains display with
  | false => exact .of_asks trivial
  | true =>
  rw [if_pos rfl, Pipeline.post]
  cases buffer.id.isAnonymous with
  | true => exact .of_asks trivial
  | false =>
  refine Action.withstands_within_ask lens_captures rfl fun reply => ?_
  cases reply with
  | error reason => exact .of_asks trivial
  | ok _ =>
  refine Action.withstands_within_modifyGet lens_captures.toFocus ?_
  cases enqueued : service.captures.enqueue display config (.owning buffer) target with
  | mk ticket? queued =>
  cases ticket? with
  | none =>
      have asks : (Action.release [.owning buffer] >>= fun _ => pure (.error .badParameter) :
          Action Pipeline (Except Status Unit)).Asks (·.isCall = false) :=
        .bind (.forM _ fun native => .ask rfl) fun _ _ => trivial
      exact .of_asks ((asks queued).within _)
  | some ticket =>
  obtain rfl : ticket = service.captures.ticket display := by
    obtain ⟨_, same, -⟩ := Pipeline.enqueue_some reached.sound enqueued
    exact same
  let posted : Service := { service with captures := queued }
  have still : (posted.client id).activeListener = some listener := heard
  -- The request is queued when the device looks at it, and fails with the others.
  refine Action.withstands_within_call lens_captures fun reply => (ensures_vanishing still).imp ?_
  rintro within _ _ ⟨loss, rfl⟩
  cases reply with
  | ok _ =>
      obtain ⟨loses, owes⟩ := CaptureState.lost_accepted reached enqueued
      refine Run.Ensures.done ?_
      exact .accepted loss rfl (forgets_without id loses) owes
  | error status =>
      obtain ⟨given, loses, never⟩ := CaptureState.lost_refused reached enqueued
      refine Action.Ensures.within lens_captures.toFocus (.modifyGet (.releasing _ fun freed frees => ?_))
      have returned := congrArg
        (fun held : Option Handle => (referencesOf held.toList).map Request.freeBuffer) given
      exact .refused loss (frees.trans returned) (forgets_without id loses) never

end Overtaken

/-- While the device looks at one of these calls it reports the display lost, to a client that hears of
it, and then answers as it likes. Whatever the client and the captures have come to, the operation
returns, no call is made after it, the display is gone with its captures and all that its slots held,
and everything else is as it was. -/
theorem vanished_display_leaves_no_trace {events : List CaptureEvent}
    {submitting : List CaptureTicket}
    (reached : CaptureState.Reaches events ⟨service.captures, submitting⟩)
    (heard : (service.client id).activeListener = some listener) (display : DisplayId) :
    (∀ slots, ((createLayer id display slots).start service).Withstands (vanishing id display)
      (service.Foiled id display listener fun reply => ⟨.device (.createLayer display), reply⟩)) ∧
    (∀ layer, ((destroyLayer id display layer).start service).Withstands (vanishing id display)
      (service.Foiled id display listener fun reply =>
        ⟨.device (.destroyLayer display layer), reply⟩)) ∧
    ((destroyVirtualDisplay id display).start service).Withstands (vanishing id display)
      (service.Foiled id display listener fun reply =>
        ⟨.device (.destroyVirtualDisplay display), reply⟩) ∧
    ∀ config buffer target, ((postCapture id display config buffer target).start service).Withstands
      (vanishing id display)
      (service.Overtaken id display listener submitting config buffer target) := by
  refine ⟨?_, ?_, ?_, ?_⟩
  · exact withstands_createLayer reached.sound heard
  · exact withstands_destroyLayer reached.sound heard
  · exact withstands_destroyVirtualDisplay reached.sound heard
  · intro config buffer target
    exact withstands_postCapture reached heard

/-- A display is lost while the device creates a layer on it, and another time while it accepts a
capture. -/
theorem vanished_display_leaves_no_trace_unplugged :
    let registry := ((∅ : Registry).addDisplay ⟨5⟩ false 1 0).2
    let client : Client := { registry, listener := some ⟨1⟩, eventsEnabled := true }
    let service : Service := { clients := (∅ : Table ClientId Client).insert ⟨0⟩ client }
    (service.client ⟨0⟩).activeListener = some ⟨1⟩ ∧ (service.registry ⟨0⟩).contains ⟨5⟩ = true ∧
      (∃ interruption final, ((createLayer ⟨0⟩ ⟨5⟩ 1).start service).Interrupted
        (vanishing ⟨0⟩ ⟨5⟩) interruption (.error .badDisplay) final ∧
          (final.registry ⟨0⟩).contains ⟨5⟩ = false) ∧
      ∃ interruption final request,
        ((postCapture ⟨0⟩ ⟨5⟩ {} ⟨⟨7⟩, [], []⟩ ⟨2⟩).start service).Interrupted
          (vanishing ⟨0⟩ ⟨5⟩) interruption (.ok ()) final ∧
          CaptureState.Owes ⟨final.captures, []⟩ ⟨0⟩ request .failure := by
  intro registry client service
  have heard : (service.client ⟨0⟩).activeListener = some ⟨1⟩ := rfl
  have present : (service.registry ⟨0⟩).contains ⟨5⟩ = true := rfl
  have withstands := @vanished_display_leaves_no_trace service ⟨0⟩ ⟨1⟩ [] [] .start heard ⟨5⟩
  refine ⟨heard, present, ?_, ?_⟩
  · have called : ∃ within later answer final,
        ((createLayer ⟨0⟩ ⟨5⟩ 1).start service).Interrupted (vanishing ⟨0⟩ ⟨5⟩)
          ⟨[], ⟨.device (.createLayer ⟨5⟩), .ok ⟨1⟩⟩, within, later⟩ answer final :=
      Run.exists_interrupted _ _ _ _
    obtain ⟨within, later, answer, final, interrupted⟩ := called
    cases (withstands.1 1).holds interrupted with
    | vanished loss forgets => exact ⟨_, final, interrupted, forgets.gone⟩
  · let native : NativeHandle := ⟨⟨7⟩, [], []⟩
    have post := withstands.2.2.2 {} native ⟨2⟩
    -- Without the interruption the device would be asked once, and accept.
    have ended : ∃ value final, ((postCapture ⟨0⟩ ⟨5⟩ {} native ⟨2⟩).start service).Ends Eq
        [⟨.importBuffer native, .ok ()⟩, ⟨.device (.submitCapture ⟨5⟩ native {}), .ok ()⟩]
        value final := ⟨_, _, .ask _ rfl (.ask _ rfl (.done _ _))⟩
    obtain ⟨_, _, ended⟩ := ended
    rcases post.returns ended with silent | ⟨interruption, answer, final, interrupted, begins⟩
    · cases silent
    · cases post.holds interrupted with
      | refused => simp at begins
      | accepted loss posted forgets owes => exact ⟨_, final, _, interrupted, owes⟩

end Service
end Scanout
