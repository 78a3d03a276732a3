import Scanout.Proofs.Clients.Crowd
import Scanout.Proofs.Clients.Discretion
import Scanout.Proofs.Clients.Tenancy

/-!
Where those in a crowd can stand. A party that creates a client, drops one or registers a listener is
at one of a few places; all others do discreet things. A turn leads from one such place to the next,
and what it does to the client slot is what its role there allows.
-/

namespace Scanout

open Service

/-- A party took the slot, at its first look or when its wait ended. -/
inductive Entered : List Moment → Prop where
  | atOnce : Entered [.locked true]
  | afterwards (timeout : Nat) :
      Entered [.locked false, .exchanged ⟨.awaitDeparture timeout, ()⟩, .locked true]

/-- How a party that was to create a client has fared. -/
inductive Admission : List Moment → Answer → Prop where
  | admitted {past : List Moment} (entered : Entered past) (id : ClientId) :
      Admission (past ++ [.exchanged ⟨.device (.setEventReceiver (some id)), ()⟩]) (.ok (some id))
  /-- The slot was taken when it came, and when its wait ended. -/
  | refused (timeout : Nat) :
      Admission [.locked false, .exchanged ⟨.awaitDeparture timeout, ()⟩, .locked false]
        (.error .noResources)

/-- The last turn of a client's departure. -/
def leave : Thread Service Answer :=
  (fun () => .ok none) <$> Thread.atomically fun service => ((), service.release)

namespace Party

/-- What the party does that matters for the client slot. -/
def role? (party : Party) : Option Role :=
  match party.operation, party.rest with
  | .createClient, .ask (.device (.setEventReceiver (some id))) _ => some (.arriving id)
  | .createClient, .done (.ok (some id)) => some (.settled id)
  | .dropClient id, .done _ => some (.departed id)
  | .dropClient id, _ => some (.departing id party.unregistered)
  | _, _ => none

/-- Where a party can stand. -/
inductive Proper : Party → Prop where
  | outside : Proper (.begin .createClient)
  | waiting (timeout : Nat) :
      Proper ⟨.createClient, [.locked false],
        .ask (.awaitDeparture timeout) fun _ => Except.map some <$> lookAgain⟩
  | returned (timeout : Nat) :
      Proper ⟨.createClient, [.locked false, .exchanged ⟨.awaitDeparture timeout, ()⟩],
        Except.map some <$> lookAgain⟩
  | arriving {past : List Moment} (entered : Entered past) (id : ClientId) :
      Proper ⟨.createClient, past, Except.map some <$> install id⟩
  | answered {past : List Moment} {answer : Answer} (admission : Admission past answer) :
      Proper ⟨.createClient, past, .done answer⟩
  | leaving (id : ClientId) : Proper (.begin (.dropClient id))
  | muted (id : ClientId) (free : Bool) :
      Proper ⟨.dropClient id, [.locked free],
        .ask (.device (.setEventReceiver none)) fun _ => retireAll id >>= fun _ => leave⟩
  | retiring (id : ClientId) {past : List Moment} {rest : Thread Service Unit}
      (unregistered : past.any Moment.removesReceiver = true) (discreet : rest.Discreet) :
      Proper ⟨.dropClient id, past, rest >>= fun _ => leave⟩
  | departed (id : ClientId) {past : List Moment}
      (unregistered : past.any Moment.removesReceiver = true) :
      Proper ⟨.dropClient id, past, .done (.ok none)⟩
  | registering (id : ClientId) (listener : EventListener) :
      Proper (.begin (.registerListener id listener))
  | registered (id : ClientId) (listener : EventListener) {past : List Moment} (done : past ≠ []) :
      Proper ⟨.registerListener id listener, past, .done (.ok none)⟩
  | discreet {operation : Operation} {past : List Moment} {rest : Thread Service Answer}
      (other : operation.isMembership = false) (discreet : rest.Discreet) :
      Proper ⟨operation, past, rest⟩

theorem role?_retiring (id : ClientId) (past : List Moment) (rest : Thread Service Unit) :
    role? ⟨.dropClient id, past, rest >>= fun _ => leave⟩ =
      some (.departing id (past.any Moment.removesReceiver)) := by
  cases rest <;> rfl

theorem role?_eq_settled {party : Party} {id : ClientId} : party.role? = some (.settled id) ↔
    party.operation = .createClient ∧ party.rest = .done (.ok (some id)) := by
  unfold role?
  split <;> simp_all

theorem role?_eq_departed {party : Party} {id : ClientId} : party.role? = some (.departed id) ↔
    party.operation = .dropClient id ∧ party.Finished := by
  unfold role? Finished
  split <;> simp_all

theorem role?_eq_departing {party : Party} {id : ClientId} {unregistered : Bool}
    (departing : party.role? = some (.departing id unregistered)) :
    party.operation = .dropClient id ∧ party.unregistered = unregistered := by
  unfold role? at departing
  split at departing <;> simp_all

theorem role?_of_other (party : Party) (other : party.operation.isMembership = false) :
    party.role? = none := by
  obtain ⟨operation, past, rest⟩ := party
  cases operation <;> first | rfl | cases other

end Party

theorem Operation.thread_dropClient (id : ClientId) : (Operation.dropClient id).thread =
    .locked (mute id) fun _ => .ask (.device (.setEventReceiver none)) fun _ =>
      retireAll id >>= fun _ => leave := by
  refine congrArg (Thread.locked _) (funext fun _ => congrArg (Thread.ask _) (funext fun _ => ?_))
  exact Thread.andThen_assoc (retireAll id) _ _

theorem discreet_retire (id : ClientId) (display : DisplayId) (isVirtual : Bool)
    (layers : List LayerId) : (retire id display isVirtual layers).Discreet := by
  unfold retire
  refine .bind (.forM _ fun layer => .bind (.request (by trivial)) fun _ => trivial) fun _ => ?_
  have dropped : Thread.Discreet (do let _ ← (dropDisplay id display).thread) :=
    .bind (discreet_change id _).thread fun _ => trivial
  cases isVirtual with
  | true =>
      refine .bind (.request (by trivial)) fun _ => ?_
      exact .bind (discreet_dropCaptures display).thread fun _ => dropped
  | false => exact .bind (discreet_presentFinally display).thread fun _ => dropped

theorem discreet_retireAll (id : ClientId) : (retireAll id).Discreet := by
  unfold retireAll
  refine .bind (fun service => ⟨.refl service, by trivial⟩) fun displays => ?_
  exact .forM displays fun _ => discreet_retire id _ _ _

section Turns

variable {α : Type} {service after : Service} {moment : Moment} {party : Party}
  {rest : Thread Service Answer}

theorem Turn.of_locked {change : Service → Service} {next : Service → Thread Service α}
    {rest : Thread Service α} (turn : Turn service (.locked change next) moment after rest) :
    moment = .locked !service.occupied ∧ after = change service ∧ rest = next service := by
  cases turn
  exact ⟨rfl, rfl, rfl⟩

theorem Turn.of_ask {request : Request} {resume : request.Reply → Thread Service α}
    {rest : Thread Service α} (turn : Turn service (.ask request resume) moment after rest) :
    ∃ reply, moment = .exchanged ⟨request, reply⟩ ∧ after = service ∧ rest = resume reply := by
  cases turn with
  | asked _ _ reply => exact ⟨reply, rfl, rfl, rfl⟩

theorem Turn.not_done {value : α} {rest : Thread Service α} :
    ¬Turn service (.done value) moment after rest := by
  intro turn
  cases turn

theorem Turn.of_bind {β : Type} {first : Thread Service α} {next : α → Thread Service β}
    {rest : Thread Service β} (turn : Turn service (first >>= next) moment after rest) :
    (∃ value, first = .done value) ∨
      ∃ further, Turn service first moment after further ∧ rest = further >>= next := by
  cases first with
  | done value => exact .inl ⟨value, rfl⟩
  | locked change goesOn =>
      obtain ⟨rfl, rfl, rfl⟩ := turn.of_locked
      exact .inr ⟨_, .locked change goesOn, rfl⟩
  | ask request resume =>
      obtain ⟨reply, rfl, rfl, rfl⟩ := turn.of_ask
      exact .inr ⟨_, .asked request resume reply, rfl⟩

theorem Moment.receiver_of_discreet {request : Request} (discreet : request.Discreet)
    (reply : request.Reply) (before : Option ClientId) :
    receiver before (.exchanged ⟨request, reply⟩) = before := by
  cases request with
  | device call =>
      cases call with
      | setEventReceiver => exact discreet.elim
      | _ => rfl
  | _ => rfl

theorem Turn.of_discreet {thread rest : Thread Service α} (discreet : thread.Discreet)
    (turn : Turn service thread moment after rest) : Undisturbed service after ∧
      (∀ before, moment.receiver before = before) ∧ rest.Discreet := by
  cases turn with
  | locked change next => exact ⟨(discreet service).1, fun _ => rfl, (discreet service).2⟩
  | asked request resume reply =>
      exact ⟨.refl service, Moment.receiver_of_discreet discreet.1 reply, discreet.2 reply⟩

/-- What a turn of a party makes of it and of the service. -/
structure Turned (service : Service) (party : Party) (moment : Moment) (after : Service)
    (rest : Thread Service Answer) : Prop where
  proper : (party.next moment rest).Proper
  tenancy : ∀ {receiver : Option ClientId} {others : Multiset Role},
    Tenancy service.occupied service.nextClient receiver (party.role?.elim others (· ::ₘ others)) →
      Tenancy after.occupied after.nextClient (moment.receiver receiver)
        ((party.next moment rest).role?.elim others (· ::ₘ others))
  /-- A client whose events are switched off hears of none until it registers a listener. -/
  silent : ∀ id, (∀ listener, party.operation = .registerListener id listener → party.past ≠ []) →
    (service.client id).eventsEnabled = false → (after.client id).eventsEnabled = false
  muted : ∀ id, party.operation = .dropClient id → party.past = [] →
    (after.client id).eventsEnabled = false

/-- A turn after which the party has the role that it had. -/
theorem Turned.of_undisturbed (undisturbed : Undisturbed service after)
    (receiver : ∀ before, moment.receiver before = before)
    (same : (party.next moment rest).role? = party.role?)
    (muted : ∀ id, party.operation = .dropClient id → party.past ≠ [])
    (proper : (party.next moment rest).Proper) : Turned service party moment after rest where
  proper := proper
  tenancy tenancy := by
    rw [undisturbed.occupied, undisturbed.nextClient, receiver, same]
    exact tenancy
  silent id _ silent := (undisturbed.events id).trans silent
  muted id drops new := (muted id drops new).elim

/-- A look at the client slot takes it if it is free. -/
theorem Turn.of_look {next : Except Nat ClientId → Thread Service α} {rest : Thread Service α}
    (turn : Turn service (look >>= next) moment after rest) :
    (moment = .locked false ∧ after = service ∧ rest = next (.error service.handoverTimeout)) ∨
      (service.occupied = false ∧ moment = .locked true ∧ after = service.welcome ∧
        rest = next (.ok ⟨service.nextClient⟩)) := by
  obtain ⟨rfl, rfl, rfl⟩ := turn.of_locked
  cases occupied : service.occupied <;> simp [occupied, Thread.andThen]

theorem Service.client_welcome (service : Service) (id : ClientId) : service.welcome.client id =
    if (⟨service.nextClient⟩ : ClientId) = id then {} else service.client id := by
  unfold client welcome
  rw [Table.getElem?_insert]
  split <;> rfl

theorem Service.silent_welcome {id : ClientId} (silent : (service.client id).eventsEnabled = false) :
    (service.welcome.client id).eventsEnabled = false := by
  rw [client_welcome]
  split
  · rfl
  · exact silent

/-- A first look at the slot, or a second one. -/
theorem turned_look {past : List Moment}
    {next : Except Nat ClientId → Thread Service (Except Status ClientId)}
    (admits : ∀ id, next (.ok id) = install id) (entered : Entered (past ++ [.locked true]))
    (refused : ∀ timeout, let party : Party :=
      ⟨.createClient, past ++ [.locked false], Except.map some <$> next (.error timeout)⟩
      party.Proper ∧ party.role? = none)
    (turn : Turn service (Except.map some <$> (look >>= next)) moment after rest) :
    Turned service ⟨.createClient, past, Except.map some <$> (look >>= next)⟩ moment after rest := by
  have looked : Turn service (look >>= fun found => Except.map some <$> next found) moment after
      rest := turn
  rcases looked.of_look with ⟨rfl, rfl, rfl⟩ | ⟨free, rfl, rfl, rfl⟩
  · obtain ⟨proper, idle⟩ := refused after.handoverTimeout
    exact .of_undisturbed (.refl after) (fun _ => rfl) idle nofun proper
  · rw [admits]
    exact {
      proper := .arriving entered _
      tenancy := fun tenancy => (free ▸ tenancy).takes
      silent := fun _ _ => silent_welcome
      muted := nofun }

theorem turned_install {past : List Moment} (entered : Entered past) (id : ClientId)
    (turn : Turn service (Except.map some <$> install id) moment after rest) :
    Turned service ⟨.createClient, past, Except.map some <$> install id⟩ moment after rest := by
  obtain ⟨_, rfl, rfl, rfl⟩ := turn.of_ask
  exact {
    proper := .answered (.admitted entered id)
    tenancy := .installs
    silent := fun _ _ silent => silent
    muted := nofun }

theorem turned_leaving (id : ClientId)
    (turn : Turn service (Operation.dropClient id).thread moment after rest) :
    Turned service (.begin (.dropClient id)) moment after rest := by
  rw [Operation.thread_dropClient] at turn
  obtain ⟨rfl, rfl, rfl⟩ := turn.of_locked
  have muted (other : ClientId) : ((service.mute id).client other).eventsEnabled =
      if id = other then false else (service.client other).eventsEnabled := by
    unfold mute
    rw [client_modifyClient]
    split <;> rfl
  constructor
  case proper => exact .muted id _
  case tenancy => exact fun tenancy => tenancy
  case silent =>
    intro other _ silent
    rw [muted, silent, ite_self]
  case muted =>
    intro other drops _
    cases drops
    rw [muted, if_pos rfl]

theorem turned_muted (id : ClientId) (free : Bool)
    (turn : Turn service (.ask (.device (.setEventReceiver none)) fun _ =>
      retireAll id >>= fun _ => leave) moment after rest) :
    Turned service ⟨.dropClient id, [.locked free],
      .ask (.device (.setEventReceiver none)) fun _ => retireAll id >>= fun _ => leave⟩ moment after
      rest := by
  obtain ⟨_, rfl, rfl, rfl⟩ := turn.of_ask
  have departing := Party.role?_retiring id
    [.locked free, .exchanged ⟨.device (.setEventReceiver none), ()⟩] (retireAll id)
  exact {
    proper := .retiring id rfl (discreet_retireAll id)
    tenancy := fun tenancy => departing ▸ tenancy.unregisters
    silent := fun _ _ silent => silent
    muted := nofun }

theorem turned_retiring (id : ClientId) {past : List Moment} {body : Thread Service Unit}
    (unregistered : past.any Moment.removesReceiver = true) (discreet : body.Discreet)
    (turn : Turn service (body >>= fun _ => leave) moment after rest) :
    Turned service ⟨.dropClient id, past, body >>= fun _ => leave⟩ moment after rest := by
  have begun : past ≠ [] := by
    rintro rfl
    cases unregistered
  have still : (past ++ [moment]).any Moment.removesReceiver = true := by
    rw [List.any_append, unregistered, Bool.true_or]
  rcases turn.of_bind with ⟨_, rfl⟩ | ⟨further, within, rfl⟩
  · obtain ⟨rfl, rfl, rfl⟩ := turn.of_locked
    have departing := Party.role?_retiring id past (.done ())
    rw [unregistered] at departing
    exact {
      proper := .departed id still
      tenancy := fun tenancy => (departing ▸ tenancy).releases
      silent := fun _ _ silent => silent
      muted := fun _ _ new => (begun new).elim }
  · obtain ⟨undisturbed, receiver, discreet⟩ := within.of_discreet discreet
    have same : Party.role? ⟨.dropClient id, past ++ [moment], further >>= fun _ => leave⟩ =
        Party.role? ⟨.dropClient id, past, body >>= fun _ => leave⟩ := by
      rw [Party.role?_retiring, Party.role?_retiring, unregistered, still]
    exact .of_undisturbed undisturbed receiver same (fun _ _ => begun) (.retiring id still discreet)

theorem turned_registering (id : ClientId) (listener : EventListener)
    (turn : Turn service (Operation.registerListener id listener).thread moment after rest) :
    Turned service (.begin (.registerListener id listener)) moment after rest := by
  obtain ⟨rfl, rfl, rfl⟩ := turn.of_locked
  constructor
  case proper => exact .registered id listener (by simp)
  case tenancy => exact fun tenancy => tenancy
  case silent =>
    intro other mine silent
    have another : id ≠ other := by
      rintro rfl
      exact mine listener rfl rfl
    let registered := service.modifyClient id fun client =>
      { client with listener := some listener, eventsEnabled := true }
    change (registered.client other).eventsEnabled = false
    rw [client_modifyClient, if_neg another, silent]
  case muted => nofun

theorem Party.Proper.turned (proper : party.Proper) (turn : Turn service party.rest moment after rest) :
    Turned service party moment after rest := by
  cases proper with
  | outside => exact turned_look (fun _ => rfl) .atOnce (fun timeout => ⟨.waiting timeout, rfl⟩) turn
  | waiting timeout =>
      obtain ⟨_, rfl, rfl, rfl⟩ := turn.of_ask
      exact .of_undisturbed (.refl after) (fun _ => rfl) rfl nofun (.returned timeout)
  | returned timeout =>
      exact turned_look (fun _ => rfl) (.afterwards timeout)
        (fun _ => ⟨.answered (.refused timeout), rfl⟩) turn
  | arriving entered id => exact turned_install entered id turn
  | leaving id => exact turned_leaving id turn
  | muted id free => exact turned_muted id free turn
  | retiring id unregistered discreet => exact turned_retiring id unregistered discreet turn
  | registering id listener => exact turned_registering id listener turn
  | answered | departed | registered => exact turn.not_done.elim
  | discreet other discreet =>
      obtain ⟨undisturbed, receiver, discreet⟩ := turn.of_discreet discreet
      refine .of_undisturbed undisturbed receiver ?_ ?_ (.discreet other discreet)
      · rw [Party.role?_of_other _ other, Party.role?_of_other _ other]
      · rintro id rfl
        cases other

end Turns
end Scanout
