import Scanout.Proofs.Clients.Parties

/-!
One client after another. However the turns of a crowd fall, no two clients are alive at a time, the
device's receiver is the client that is alive or nobody, and a client whose drop is finished hears of
nothing any more.
-/

namespace Scanout

open Service

theorem Operation.discreet_thread {operation : Operation} (other : operation.isMembership = false) :
    operation.thread.Discreet := by
  cases operation with
  | createClient | dropClient | registerListener => cases other
  | _ => exact .bind (Operation.discreet rfl).thread fun _ => trivial

namespace Party

theorem proper_begin (operation : Operation) : (begin operation).Proper := by
  cases operation with
  | createClient => exact .outside
  | dropClient id => exact .leaving id
  | registerListener id listener => exact .registering id listener
  | _ => exact .discreet rfl (Operation.discreet_thread rfl)

theorem role?_begin {operation : Operation} (stays : ∀ id, operation ≠ .dropClient id) :
    (begin operation).role? = none := by
  cases operation with
  | dropClient id => exact (stays id rfl).elim
  | createClient | registerListener => rfl
  | _ => exact role?_of_other _ rfl

/-- A listener is registered in one turn. -/
theorem Proper.unfinished {party : Party} (proper : party.Proper) {id : ClientId}
    {listener : EventListener} (registers : party.operation = .registerListener id listener)
    (new : party.past = []) : ¬party.Finished := by
  rintro ⟨answer, finished⟩
  cases proper with
  | registering => cases finished
  | registered _ _ begun => exact begun new
  | discreet other =>
      cases registers
      cases other
  | _ => cases registers

theorem Proper.admission {party : Party} (proper : party.Proper)
    (creates : party.operation = .createClient) {answer : Answer}
    (finished : party.rest = .done answer) : Admission party.past answer := by
  cases proper with
  | answered admission =>
      cases finished
      exact admission
  | outside | waiting | returned | arriving => cases finished
  | discreet other =>
      cases creates
      cases other
  | _ => cases creates

theorem Proper.entered {party : Party} (proper : party.Proper)
    (creates : party.operation = .createClient) (entered : Entered party.past) : ∃ id, party.rest =
      .ask (.device (.setEventReceiver (some id))) fun _ => .done (.ok (some id)) := by
  cases proper with
  | arriving _ id => exact ⟨id, rfl⟩
  | outside | waiting | returned => cases entered
  | answered admission =>
      cases admission with
      | admitted before => cases before <;> cases entered
      | refused => cases entered
  | discreet other =>
      cases creates
      cases other
  | _ => cases creates

theorem Proper.begun {party : Party} (proper : party.Proper) {id : ClientId}
    (drops : party.operation = .dropClient id) (finished : party.Finished) :
    party.unregistered = true := by
  obtain ⟨answer, finished⟩ := finished
  cases proper with
  | departed _ unregistered => exact unregistered
  | leaving | muted => cases finished
  | @retiring _ _ rest => cases rest <;> cases finished
  | discreet other =>
      cases drops
      cases other
  | _ => cases drops

end Party

namespace Crowd

def roles (parties : Multiset Party) : Multiset Role := parties.filterMap Party.role?

theorem roles_cons (party : Party) (others : Multiset Party) :
    roles (party ::ₘ others) = party.role?.elim (roles others) (· ::ₘ roles others) := by
  unfold roles
  cases role : party.role? with
  | none => rw [Multiset.filterMap_cons_none _ _ role, Option.elim_none]
  | some taken => rw [Multiset.filterMap_cons_some _ _ _ role, Option.elim_some]

variable {settings : Settings} {crowd after : Crowd} {id : ClientId}

theorem mem_roles {role : Role} :
    role ∈ roles crowd.parties ↔ ∃ party ∈ crowd.parties, party.role? = some role :=
  Multiset.mem_filterMap ..

theorem created_iff : crowd.Created id ↔ .settled id ∈ roles crowd.parties := by
  simp only [Created, mem_roles, Party.role?_eq_settled]

theorem departed_iff : crowd.Departed id ↔ .departed id ∈ roles crowd.parties := by
  simp only [Departed, mem_roles, Party.role?_eq_departed]

theorem drops_of_departing {unregistered : Bool}
    (departing : .departing id unregistered ∈ roles crowd.parties) :
    ∃ party ∈ crowd.parties, party.operation = .dropClient id ∧ party.unregistered = unregistered := by
  obtain ⟨party, present, role⟩ := mem_roles.mp departing
  exact ⟨party, present, Party.role?_eq_departing role⟩

/-- What holds at every moment. -/
structure Orderly (crowd : Crowd) : Prop where
  proper : ∀ party ∈ crowd.parties, party.Proper
  tenancy : Tenancy crowd.service.occupied crowd.service.nextClient crowd.receiver
    (roles crowd.parties)
  silent : ∀ party ∈ crowd.parties, ∀ id, party.operation = .dropClient id → party.past ≠ [] →
    (crowd.service.client id).eventsEnabled = false
  alone : ∀ party ∈ crowd.parties, ∀ id listener,
    party.operation = .registerListener id listener → party.past = [] →
      ∀ other ∈ crowd.parties, other.operation ≠ .dropClient id

theorem orderly_fresh (settings : Settings) : Orderly { service := settings.service } where
  proper := by simp
  tenancy := .vacant 0
  silent := by simp
  alone := by simp

theorem Orderly.begins (orderly : crowd.Orderly) {operation : Operation}
    (permitted : crowd.Permits operation) :
    Orderly { crowd with parties := .begin operation ::ₘ crowd.parties } where
  proper party present := by
    rcases Multiset.mem_cons.mp present with rfl | present
    · exact Party.proper_begin operation
    · exact orderly.proper party present
  tenancy := by
    rw [roles_cons]
    by_cases drops : ∃ id, operation = .dropClient id
    · obtain ⟨id, rfl⟩ := drops
      obtain ⟨created, stays⟩ := permitted.serves id rfl
      apply orderly.tenancy.leaves (created_iff.mp created)
      · intro unregistered departing
        obtain ⟨party, present, drops, _⟩ := drops_of_departing departing
        exact stays party present drops
      · intro departed
        obtain ⟨party, present, drops, _⟩ := departed_iff.mpr departed
        exact stays party present drops
    · rw [Party.role?_begin fun id same => drops ⟨id, same⟩]
      exact orderly.tenancy
  silent party present id drops begun := by
    rcases Multiset.mem_cons.mp present with rfl | present
    · exact (begun rfl).elim
    · exact orderly.silent party present id drops begun
  alone party present id listener registers new other found drops := by
    rcases Multiset.mem_cons.mp present with rfl | present
    · obtain rfl : operation = .registerListener id listener := registers
      rcases Multiset.mem_cons.mp found with rfl | found
      · cases drops
      · exact (permitted.serves id rfl).2 other found drops
    · rcases Multiset.mem_cons.mp found with rfl | found
      · have finished := permitted.idle id drops party present (by rw [registers]; rfl)
        exact (orderly.proper party present).unfinished registers new finished
      · exact orderly.alone party present id listener registers new other found drops

theorem Orderly.turns (orderly : crowd.Orderly) {party : Party} {others : Multiset Party}
    {moment : Moment} {service : Service} {rest : Thread Service Answer}
    (present : crowd.parties = party ::ₘ others)
    (turned : Turned crowd.service party moment service rest) :
    Orderly { service, receiver := moment.receiver crowd.receiver,
              parties := party.next moment rest ::ₘ others } := by
  have mine : party ∈ crowd.parties := present ▸ Multiset.mem_cons_self party others
  have theirs {other : Party} (found : other ∈ others) : other ∈ crowd.parties :=
    present ▸ Multiset.mem_cons_of_mem found
  -- A party that is about to register a listener has no drop of its client beside it.
  have stays {other : Party} (found : other ∈ crowd.parties) (id : ClientId)
      (drops : other.operation = .dropClient id) :
      ∀ listener, party.operation = .registerListener id listener → party.past ≠ [] :=
    fun listener registers new => orderly.alone party mine id listener registers new other found drops
  constructor
  case proper =>
    intro other found
    rcases Multiset.mem_cons.mp found with rfl | found
    · exact turned.proper
    · exact orderly.proper other (theirs found)
  case tenancy =>
    have tenancy := orderly.tenancy
    rw [present, roles_cons] at tenancy
    rw [roles_cons]
    exact turned.tenancy tenancy
  case silent =>
    intro other found id drops begun
    rcases Multiset.mem_cons.mp found with rfl | found
    · by_cases new : party.past = []
      · exact turned.muted id drops new
      · exact turned.silent id (stays mine id drops) (orderly.silent party mine id drops new)
    · exact turned.silent id (stays (theirs found) id drops)
        (orderly.silent other (theirs found) id drops begun)
  case alone =>
    intro other found id listener registers new another met drops
    rcases Multiset.mem_cons.mp found with rfl | found
    · exact List.append_ne_nil_of_right_ne_nil _ (List.cons_ne_nil _ _) new
    · have alone := orderly.alone other (theirs found) id listener registers new
      rcases Multiset.mem_cons.mp met with rfl | met
      · exact alone party mine drops
      · exact alone another (theirs met) drops

theorem Step.orderly (step : Step crowd after) (orderly : crowd.Orderly) : after.Orderly := by
  cases step with
  | begins permitted => exact orderly.begins permitted
  | turns present turn =>
      have proper := orderly.proper _ (present ▸ Multiset.mem_cons_self ..)
      exact orderly.turns present (proper.turned turn)

theorem Reached.orderly (reached : Reached settings crowd) : crowd.Orderly := by
  induction reached with
  | refl => exact orderly_fresh settings
  | tail _ step ih => exact step.orderly ih

/-- One client is served at a time. -/
structure ServesOne (crowd : Crowd) : Prop where
  one : ∀ first second, crowd.Alive first → crowd.Alive second → first = second
  occupied : crowd.service.occupied = true ↔ ∃ id, crowd.Alive id
  /-- Nobody receives the device's events but the client that is alive. -/
  receiver : ∀ id, crowd.receiver = some id → crowd.Alive id
  /-- A client receives them from its creation until its own drop removes it. -/
  installed : ∀ id, crowd.Created id →
    (∀ party ∈ crowd.parties, party.operation = .dropClient id → party.unregistered = false) →
      crowd.receiver = some id
  /-- A creation that has ended came to a free slot, at once or after a wait, or failed. -/
  admission : ∀ party ∈ crowd.parties, party.operation = .createClient →
    ∀ answer, party.rest = .done answer → Admission party.past answer
  /-- A party that has got the slot is about to succeed: it only has to tell the device. -/
  entered : ∀ party ∈ crowd.parties, party.operation = .createClient → Entered party.past →
    ∃ id, party.rest = .ask (.device (.setEventReceiver (some id))) fun _ => .done (.ok (some id))
  /-- An event that is brought to a client after its departure does nothing. -/
  silent : ∀ id event, crowd.Departed id →
    (Service.receive id event).start crowd.service = .done () crowd.service

theorem Orderly.silent_receive (orderly : crowd.Orderly) (departed : crowd.Departed id)
    (event : DisplayEvent) :
    (Service.receive id event).start crowd.service = .done () crowd.service := by
  obtain ⟨party, present, drops, finished⟩ := departed
  have unregistered := (orderly.proper party present).begun drops finished
  have begun : party.past ≠ [] := by
    intro new
    simp [Party.unregistered, new] at unregistered
  have inactive : (crowd.service.client id).activeListener = none := by
    rw [Client.activeListener, orderly.silent party present id drops begun]
    rfl
  rw [Service.receive, Action.start_bind, Action.start_get, Run.done_andThen, inactive]
  rfl

/-- A departing client that has no displays has nothing to let go of. -/
theorem turn_retireAll {service : Service} (bare : (service.registry id).snapshot = []) :
    Turn service (retireAll id >>= fun _ => leave) (.locked !service.occupied) service leave := by
  have turn : Turn service (retireAll id >>= fun _ => leave) (.locked !service.occupied) service
      (retireEach id (service.registry id).snapshot >>= fun _ => leave) := .locked _ _
  rw [bare] at turn
  exact turn

theorem serves_one (reached : Reached settings crowd) : crowd.ServesOne := by
  have orderly := reached.orderly
  have last {id : ClientId} (alive : crowd.Alive id) :=
    orderly.tenancy.last alive.1 fun departed => alive.2 (departed_iff.mpr departed)
  have alive {id : ClientId} (stays : id.raw < crowd.service.nextClient ∧
      .departed id ∉ roles crowd.parties) : crowd.Alive id :=
    ⟨stays.1, fun departed => stays.2 (departed_iff.mp departed)⟩
  constructor
  case one =>
    rintro ⟨one⟩ ⟨two⟩ first second
    have := (last first).2.trans (last second).2.symm
    exact congrArg ClientId.mk (Nat.succ.inj this)
  case occupied =>
    constructor
    · intro occupied
      have tenancy := orderly.tenancy
      rw [occupied] at tenancy
      exact tenancy.alive_of_occupied.imp fun id => alive
    · rintro ⟨id, stays⟩
      exact (last stays).1
  case receiver =>
    intro id received
    have tenancy := orderly.tenancy
    rw [received] at tenancy
    exact alive tenancy.alive_of_receiver
  case installed =>
    intro id created registered
    apply orderly.tenancy.receiver_of_settled (created_iff.mp created)
    · intro departing
      obtain ⟨party, present, drops, unregistered⟩ := drops_of_departing departing
      simp [registered party present drops] at unregistered
    · intro departed
      obtain ⟨party, present, drops, finished⟩ := departed_iff.mpr departed
      have unregistered := (orderly.proper party present).begun drops finished
      simp [registered party present drops] at unregistered
  case admission =>
    intro party present creates answer finished
    exact (orderly.proper party present).admission creates finished
  case entered =>
    intro party present creates entered
    exact (orderly.proper party present).entered creates entered
  case silent =>
    intro id event departed
    exact orderly.silent_receive departed event

/-- One client waits for another to depart. -/
theorem serves_one_successor : ∃ crowd, Reached {} crowd ∧ crowd.Departed ⟨0⟩ ∧
    crowd.receiver = some ⟨1⟩ ∧ crowd.ServesOne := by
  let installs (id : Option ClientId) : Moment := .exchanged ⟨.device (.setEventReceiver id), ()⟩
  let taken : Service := Service.welcome (Settings.service {})
  let muted : Service := taken.mute ⟨0⟩
  let first : Party :=
    ⟨.createClient, [.locked true, installs (some ⟨0⟩)], .done (.ok (some ⟨0⟩))⟩
  let waiting : Party := ⟨.createClient, [.locked false],
    .ask (.awaitDeparture 1000) fun _ => Except.map some <$> lookAgain⟩
  let dropping : Party := ⟨.dropClient ⟨0⟩, [.locked false, installs none],
    retireAll ⟨0⟩ >>= fun _ => leave⟩
  let dropped : Party := ⟨.dropClient ⟨0⟩,
    [.locked false, installs none, .locked false, .locked false], .done (.ok none)⟩
  let second : Party := ⟨.createClient,
    [.locked false, .exchanged ⟨.awaitDeparture 1000, ()⟩, .locked true, installs (some ⟨1⟩)],
    .done (.ok (some ⟨1⟩))⟩
  have creates (crowd : Crowd) : crowd.Permits .createClient :=
    ⟨by simp [Operation.caller?, Operation.client?], by simp⟩
  have arrived : Reached {} ⟨taken, some ⟨0⟩, first ::ₘ 0⟩ :=
    ((Reached.begins .refl .createClient (creates _)).turns (.locked _ _)).turns
      (.asked (.device (.setEventReceiver (some ⟨0⟩))) _ ())
  have queued : Reached {} ⟨taken, some ⟨0⟩, waiting ::ₘ first ::ₘ 0⟩ :=
    (arrived.begins .createClient (creates _)).turns (.locked _ _)
  have permitted : Permits ⟨taken, some ⟨0⟩, waiting ::ₘ first ::ₘ 0⟩ (.dropClient ⟨0⟩) :=
    ⟨by simp [Operation.caller?, Operation.client?, Serves, Created, waiting, first],
      by simp [Operation.caller?, Operation.client?, waiting, first]⟩
  have mutes : Turn taken (Operation.dropClient ⟨0⟩).thread (.locked false) muted
      (.ask (.device (.setEventReceiver none)) fun _ => retireAll ⟨0⟩ >>= fun _ => leave) := by
    rw [Operation.thread_dropClient]
    exact .locked _ _
  have begun : Reached {} ⟨muted, none, dropping ::ₘ waiting ::ₘ first ::ₘ 0⟩ :=
    ((queued.begins (.dropClient ⟨0⟩) permitted).turns mutes).turns
      (.asked (.device (.setEventReceiver none)) _ ())
  have bare : (muted.registry ⟨0⟩).snapshot = [] := by
    have empty : taken.client ⟨0⟩ = {} := (client_welcome _ _).trans (if_pos rfl)
    have same : muted.registry ⟨0⟩ = taken.registry ⟨0⟩ :=
      registry_modifyClient_of_same (fun _ => by rfl) taken ⟨0⟩ ⟨0⟩
    rw [same, registry, empty]
    rfl
  have gone : Reached {} ⟨muted.release, none, dropped ::ₘ waiting ::ₘ first ::ₘ 0⟩ :=
    (begun.turns (turn_retireAll bare)).turns (.locked _ _)
  rw [Multiset.cons_swap] at gone
  have followed : Reached {} ⟨muted.release.welcome, some ⟨1⟩, second ::ₘ dropped ::ₘ first ::ₘ 0⟩ :=
    ((gone.turns (.asked (.awaitDeparture 1000) _ ())).turns (.locked _ _)).turns
      (.asked (.device (.setEventReceiver (some ⟨1⟩))) _ ())
  exact ⟨_, followed, ⟨dropped, by simp, rfl, _, rfl⟩, rfl, serves_one followed⟩

end Crowd
end Scanout
