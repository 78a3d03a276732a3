import Scanout.Proofs.References.Pool

/-!
Conservation of references. Each operation under way keeps its own account, whatever the others do
to the service meanwhile, and the accounts add up: what the importer has granted is what was given
back and what something in the system owns. With the counting pool as the importer, its counts are
the numbers of owners.
-/

namespace Scanout

/-- What an operation can be held to while it is under way: the clients that it knows, what it
relies on in the captures, and what it may have in hand. -/
structure Terms (worker? : Option (SessionId × Nat)) where
  known : Nat
  relies : Pipeline → Prop
  hands : Multiset NativeHandle → Prop
  persists : ∀ {own before after}, (∀ worker, worker? = some worker → own ≠ some worker) →
    Pipeline.Undisturbed own before after → relies before → relies after
  unbound : worker? = none → ∀ pipeline, relies pipeline
  unburdened : worker?.isSome → ∀ hand, hands hand → hand = 0

namespace Terms

/-- The terms of an operation that no worker carries out. -/
def ofClient (known : Nat) : Terms none where
  known
  relies _ := True
  hands _ := True
  persists _ _ _ := trivial
  unbound _ _ := trivial
  unburdened := nofun

/-- The terms of a worker that began with the given captures. -/
def ofWorker (start : Pipeline) (session : SessionId) (worker : Nat) :
    Terms (some (session, worker)) where
  known := 0
  relies := start.Keeping session worker
  hands := (· = 0)
  persists others step keeping request kept :=
    step session worker request (others _ rfl) (keeping request kept)
  unbound := nofun
  unburdened _ _ empty := empty

end Terms

section Accounts

variable {worker? : Option (SessionId × Nat)} {copying : Prop} {service after : Service}
  {run : Run Service (Option ResolvedBuffer)} {total hand : Multiset NativeHandle}

def Terms.books (terms : Terms worker?) (copying : Prop) : Books Service :=
  Service.books copying worker? terms.known terms.relies

/-- An execution under way is answerable for a number of references. -/
def Terms.Answerable (terms : Terms worker?) (copying : Prop) :
    Run Service (Option ResolvedBuffer) → Service → Multiset NativeHandle → Prop :=
  Run.Accounts (terms.books copying) terms.hands fun buffer service total =>
    total = service.owned + referencesOf? buffer

/-- A suspended operation has `hand` in hand and will account for it. -/
def Suspended.Accountable (copying : Prop) (waiting : Suspended) (service : Service)
    (hand : Multiset NativeHandle) : Prop :=
  ∃ terms : Terms waiting.worker?, (terms.books copying).Relies service ∧ terms.hands hand ∧
    ∀ reply after, (terms.books copying).Sound after → (terms.books copying).Relies after →
      ∃ rest, after.owned + hand + waiting.request.granted reply =
          rest + waiting.request.returned ∧
        terms.Answerable copying (waiting.resume reply after) after rest

theorem Service.sound_emptied (service : Service) : service.emptied.Sound copying where
  captures := Pipeline.sound_empty
  known found := absurd found (by simp [emptied])
  copied _ _ _ found := absurd found (by simp [emptied])

theorem Service.owned_emptied (service : Service) : service.emptied.owned = 0 := by
  unfold owned
  rw [show service.emptied.clients = ∅ from rfl, Table.gather_empty, Pipeline.heldBy_handles,
    show service.emptied.captures.sessions = ∅ from rfl, Table.gather_empty, add_zero]

theorem Request.granted_refusal (request : Request) : request.granted request.refusal = 0 := by
  cases request <;> rfl

theorem Request.returned_or_granted (request : Request) :
    request.returned = 0 ∨ ∀ reply, request.granted reply = 0 := by
  cases request with
  | freeBuffer native => exact .inr fun _ => rfl
  | _ => exact .inl rfl

theorem Terms.Answerable.total_eq {terms : Terms none} {start : Service}
    (bound : terms.known ≤ service.nextClient)
    (answerable : terms.Answerable copying run start total) :
    total = run.remains service.emptied := by
  induction run generalizing start total with
  | done buffer state => exact answerable.2.2
  | ask request state resume ih =>
      obtain ⟨_, _, _, hand, _, rfl, further⟩ := answerable
      obtain ⟨rest, moved, resumed⟩ := further request.refusal service.emptied
        service.sound_emptied ⟨bound, terms.unbound rfl _⟩
      rw [Request.granted_refusal, add_zero] at moved
      have empty : (terms.books copying).owned service.emptied = 0 := service.owned_emptied
      rw [empty, zero_add, ih _ _ resumed, add_comm] at moved
      rw [moved]
      rfl

theorem Suspended.Accountable.hand_eq {waiting : Suspended}
    (accountable : waiting.Accountable copying service hand) :
    hand = waiting.inHand service := by
  obtain ⟨worker?, request, resume⟩ := waiting
  obtain ⟨terms, ⟨bound, _⟩, held, further⟩ := accountable
  cases worker? with
  | some worker => exact terms.unburdened rfl hand held
  | none =>
      obtain ⟨rest, moved, resumed⟩ := further request.refusal service.emptied
        service.sound_emptied ⟨bound, terms.unbound rfl _⟩
      rw [Request.granted_refusal, add_zero, service.owned_emptied, zero_add,
        resumed.total_eq bound, add_comm] at moved
      exact moved

/-- A suspended operation stays accountable while another one goes on. -/
theorem Suspended.Accountable.keep {waiting : Suspended} {own : Option (SessionId × Nat)}
    (accountable : waiting.Accountable copying service hand)
    (apart : ∀ worker, waiting.worker? = some worker → own ≠ some worker)
    (clients : service.nextClient ≤ after.nextClient)
    (captures : Pipeline.Undisturbed own service.captures after.captures) :
    waiting.Accountable copying after hand := by
  obtain ⟨terms, ⟨bound, relied⟩, held, further⟩ := accountable
  exact ⟨terms, ⟨bound.trans clients, terms.persists apart captures relied⟩, held, further⟩

end Accounts

section Operations

variable {copying : Prop} {known : Nat}

/-- The account of an operation that no worker carries out. -/
abbrev Operation.Carries (copying : Prop) (known : Nat)
    (action : Action Service (Option ResolvedBuffer)) (hand : Multiset NativeHandle) : Prop :=
  Action.Carries (Service.books copying none known fun _ => True) hand
    (fun buffer rest => rest = referencesOf? buffer) action

theorem Operation.carries_quietly {α : Type} {action : Action Service α}
    {hand : Multiset NativeHandle}
    (carried : action.Carries (Service.books copying none known fun _ => True) hand
      fun _ rest => rest = 0) :
    Carries copying known (quietly action) hand := by
  refine .bind Service.books_stable carried ?_
  rintro _ _ rfl
  exact .pure rfl

theorem Operation.carries_action {operation : Operation}
    (created : ∀ id, operation.client? = some id → id.raw < known)
    (copies : copying → operation.CopiesStreams) (unworked : operation.worker? = none) :
    Carries copying known operation.action (referencesOf? operation.buffer?) := by
  cases operation with
  | addDisplay id display isVirtual clientTargetSlots outputSlots =>
      refine carries_quietly (Service.carries_onRegistry (created id rfl) (.modifyGet ?_))
      intro registry copied _
      exact ⟨fun copies => (copied copies).addDisplay isVirtual _ outputSlots, trivial, 0, rfl,
        congrArg (· + 0) (registry.heldBy_addDisplay display isVirtual _ outputSlots).symm⟩
  | removeDisplay id display =>
      exact carries_quietly (Service.neutral_dropDisplay (created id rfl) display)
  | addLayer id display layer slots =>
      exact carries_quietly (Service.carries_onRegistry (created id rfl)
        (Registry.neutral_change (Registry.conserves_addLayer display layer slots)))
  | removeLayer id display layer =>
      exact carries_quietly (Service.carries_onRegistry (created id rfl)
        (Registry.neutral_change (Registry.conserves_removeLayer display layer)))
  | resizeClientTargets id display count =>
      exact carries_quietly (Service.neutral_resizeClientTargets (created id rfl) display count)
  | resizeLayerBuffers id display layer count =>
      exact carries_quietly (Service.neutral_resizeLayerBuffers (created id rfl) display layer count)
  | lookup id display kind slot reuse handle =>
      refine .bind Service.books_stable (Service.carries_onRegistry (created id rfl)
        (Registry.carries_lookup display kind slot reuse handle)) ?_
      intro answer rest found
      cases answer with
      | error status => exact .pure found
      | ok buffer => exact .pure found.1
  | update id display kind slot reuse buffer =>
      refine carries_quietly (Service.carries_onRegistry (created id rfl) ?_)
      cases reuse with
      | true => exact .release_pure Registry.books_stable _ _
      | false => exact Registry.carries_update display kind slot false buffer copies
  | forgo buffer =>
      refine carries_quietly ?_
      rw [show referencesOf? (forgo buffer).buffer? = heldBy buffer.handle?.toList + 0 from
        (add_zero _).symm]
      exact .release Service.books_stable buffer.handle?.toList
  | execute id engine commands =>
      exact carries_quietly (Service.neutral_execute (created id rfl) engine commands)
  | executeExtended id engine commands =>
      exact carries_quietly (Service.neutral_executeExtended (created id rfl) engine commands)
  | createClient => exact carries_quietly Service.neutral_createClient
  | dropClient id => exact carries_quietly (Service.neutral_dropClient (created id rfl))
  | registerListener id listener =>
      exact carries_quietly (Service.neutral_registerListener (created id rfl) listener)
  | receive id event => exact carries_quietly (Service.neutral_receive (created id rfl) event)
  | createLayer id display slots =>
      exact carries_quietly (Service.neutral_createLayer (created id rfl) display slots)
  | destroyLayer id display layer =>
      exact carries_quietly (Service.neutral_destroyLayer (created id rfl) display layer)
  | createVirtualDisplay id width height format outputSlots =>
      exact carries_quietly
        (Service.neutral_createVirtualDisplay (created id rfl) width height format outputSlots)
  | destroyVirtualDisplay id display =>
      exact carries_quietly (Service.neutral_destroyVirtualDisplay (created id rfl) display)
  | postCapture id display config buffer listener =>
      exact carries_quietly (Service.neutral_postCapture id display config buffer listener)
  | post display config buffer listener =>
      exact carries_quietly
        (Service.neutral_onCaptures (Pipeline.neutral_post display config buffer listener))
  | completeCapture display code buffer =>
      exact carries_quietly (Service.neutral_completeCapture display code buffer)
  | dropCaptures display => exact carries_quietly (Service.neutral_dropCaptures display)
  | work session worker => cases unworked

variable {service : Service}

theorem Operation.answerable_work (sound : service.Sound copying) (session : SessionId)
    (worker : Nat) :
    (Terms.ofWorker service.captures session worker).Answerable copying
      ((Operation.work session worker).action.start service) service service.owned := by
  have lens : (Pipeline.books (some (session, worker))
        (service.captures.Keeping session worker)).Part
      (Service.books copying (some (session, worker)) 0 _) _ _ _ := Service.captures_part
  have accounts := Run.Accounts.within lens sound ⟨Nat.zero_le _, fun _ kept => kept⟩
    (Pipeline.accounts_work sound.captures session worker)
  refine Run.Accounts.andThen (Run.Accounts.imp ?_ accounts)
  rintro _ state _ soundAfter ⟨_, rfl, rfl⟩
  exact ⟨soundAfter, (Service.books copying _ 0 _).refl state, (add_zero _).symm⟩

theorem Operation.answerable {operation : Operation} (sound : service.Sound copying)
    (created : ∀ id, operation.client? = some id → id.raw < service.nextClient)
    (copies : copying → operation.CopiesStreams) :
    ∃ terms : Terms operation.worker?, terms.Answerable copying (operation.action.start service)
      service (service.owned + referencesOf? operation.buffer?) := by
  cases unworked : operation.worker? with
  | none =>
      refine ⟨Terms.ofClient service.nextClient, Run.Accounts.imp ?_
        (carries_action created copies unworked service sound ⟨Nat.le_refl _, trivial⟩)⟩
      rintro buffer state _ _ ⟨_, rfl, rfl⟩
      rfl
  | some worker =>
      cases operation with
      | work session place =>
          cases unworked
          refine ⟨Terms.ofWorker service.captures session place, ?_⟩
          rw [show referencesOf? (work session place).buffer? = 0 from rfl, add_zero]
          exact answerable_work sound session place
      | _ => cases unworked

end Operations

namespace System

variable {κ : Type} {copying : Prop} {system : System κ} {importer : Importer κ}
  {allowed : Operation → Prop}

/-- Everything adds up, and every operation under way can be held to its account. -/
structure Balanced (copying : Prop) (system : System κ) : Prop where
  sound : system.service.Sound copying
  accountable : ∀ waiting ∈ system.suspended,
    waiting.Accountable copying system.service (waiting.inHand system.service)
  apart : (system.suspended.filterMap Suspended.worker?).Nodup
  balance : system.imported = system.freed + system.owned

section Advance

variable {worker? : Option (SessionId × Nat)} {waiting : Suspended} {suspended : Multiset Suspended}
  {service after : Service}

theorem sum_kept (buffer : Option ResolvedBuffer) (kept : Multiset ResolvedBuffer) :
    ((buffer.toList + kept).map ResolvedBuffer.references).sum =
      referencesOf? buffer + (kept.map ResolvedBuffer.references).sum := by
  cases buffer with
  | none =>
      rw [Option.toList_none, Multiset.coe_nil, zero_add]
      exact (zero_add _).symm
  | some buffer =>
      rw [Option.toList_some, Multiset.coe_singleton, Multiset.singleton_add, Multiset.map_cons,
        Multiset.sum_cons]
      rfl

theorem workers_cons (waiting : Suspended) (suspended : Multiset Suspended) :
    (waiting ::ₘ suspended).filterMap Suspended.worker? =
      waiting.worker?.toList + suspended.filterMap Suspended.worker? := by
  cases unworked : waiting.worker? with
  | none =>
      rw [Multiset.filterMap_cons_none _ _ unworked]
      exact (zero_add _).symm
  | some worker =>
      rw [Multiset.filterMap_cons_some Suspended.worker? _ _ unworked, ← Multiset.singleton_add]
      rfl

theorem ne_of_apart (apart : (worker?.toList + suspended.filterMap Suspended.worker?).Nodup)
    (member : waiting ∈ suspended) (worker : SessionId × Nat)
    (carriedOut : waiting.worker? = some worker) : worker? ≠ some worker := by
  rintro rfl
  have disjoint := (Multiset.nodup_add.mp apart).2.2
  refine Multiset.disjoint_left.mp disjoint (Multiset.mem_coe.mpr (List.mem_singleton_self worker)) ?_
  exact (Multiset.mem_filterMap _ _).mpr ⟨waiting, member, carriedOut⟩

theorem kept_accountable (clients : service.nextClient ≤ after.nextClient)
    (captures : Pipeline.Undisturbed worker? service.captures after.captures)
    (apart : (worker?.toList + suspended.filterMap Suspended.worker?).Nodup)
    (accountable : ∀ waiting ∈ suspended,
      waiting.Accountable copying service (waiting.inHand service)) :
    (∀ waiting ∈ suspended, waiting.Accountable copying after (waiting.inHand after)) ∧
      suspended.map (Suspended.inHand after) = suspended.map (Suspended.inHand service) := by
  have kept (waiting : Suspended) (member : waiting ∈ suspended) :
      waiting.Accountable copying after (waiting.inHand service) :=
    (accountable waiting member).keep (ne_of_apart apart member) clients captures
  have same (waiting : Suspended) (member : waiting ∈ suspended) :
      waiting.inHand after = waiting.inHand service := (kept waiting member).hand_eq.symm
  constructor
  · intro waiting member
    rw [same waiting member]
    exact kept waiting member
  · exact Multiset.map_congr rfl same

/-- An operation that goes on, while all others wait, passes its account on. -/
theorem Balanced.advance {terms : Terms worker?} {run : Run Service (Option ResolvedBuffer)}
    {total : Multiset NativeHandle}
    (answerable : terms.Answerable copying run system.service total)
    (accountable : ∀ waiting ∈ system.suspended,
      waiting.Accountable copying system.service (waiting.inHand system.service))
    (apart : (worker?.toList + system.suspended.filterMap Suspended.worker?).Nodup)
    (balance : system.imported = system.freed + (total +
      (system.kept.map ResolvedBuffer.references).sum +
      (system.suspended.map (Suspended.inHand system.service)).sum)) :
    (system.advance worker? run).Balanced copying := by
  cases run with
  | done buffer after =>
      obtain ⟨sound, ⟨clients, captures⟩, rfl⟩ := answerable
      obtain ⟨still, same⟩ := kept_accountable clients captures apart accountable
      refine ⟨sound, still, (Multiset.nodup_add.mp apart).2.1, balance.trans ?_⟩
      change _ = system.freed + (after.owned +
        ((buffer.toList + system.kept).map ResolvedBuffer.references).sum +
        (system.suspended.map (Suspended.inHand after)).sum)
      rw [sum_kept, same, ← add_assoc after.owned]
  | ask request after resume =>
      obtain ⟨sound, ⟨clients, captures⟩, relied, hand, held, rfl, further⟩ := answerable
      obtain ⟨still, same⟩ := kept_accountable clients captures apart accountable
      -- It joins those who wait, with what it has in hand at its request.
      have own : Suspended.Accountable copying ⟨worker?, request, resume⟩ after hand :=
        ⟨terms, relied, held, further⟩
      have hand_eq := own.hand_eq
      refine ⟨sound, ?_, ?_, balance.trans ?_⟩
      · intro waiting member
        obtain rfl | member := Multiset.mem_cons.mp member
        · rw [hand_eq] at own
          exact own
        · exact still waiting member
      · change (Multiset.filterMap Suspended.worker? (_ ::ₘ system.suspended)).Nodup
        rwa [workers_cons]
      · change _ = system.freed + (after.owned + (system.kept.map ResolvedBuffer.references).sum +
          ((⟨worker?, request, resume⟩ ::ₘ system.suspended).map (Suspended.inHand after)).sum)
        rw [Multiset.map_cons, Multiset.sum_cons, ← hand_eq, same]
        change system.freed + (after.owned + hand + _ + _) = _
        abel

end Advance

theorem balanced_fresh {service : Service} (importer : κ) (sound : service.Sound copying)
    (empty : service.owned = 0) : (fresh service importer).Balanced copying where
  sound := sound
  accountable _ member := absurd member (Multiset.notMem_zero _)
  apart := Multiset.nodup_zero
  balance := by
    change 0 = 0 + (service.owned + (Multiset.map _ 0).sum + (Multiset.map _ 0).sum)
    rw [empty]
    rfl

theorem Step.balanced {after : System κ} (step : Step importer allowed system after)
    (copies : ∀ operation, allowed operation → copying → operation.CopiesStreams)
    (balanced : system.Balanced copying) : after.Balanced copying := by
  cases step with
  | @start operation others permitted created idle taken =>
      obtain ⟨terms, answerable⟩ :=
        operation.answerable balanced.sound created (copies operation permitted)
      refine Balanced.advance answerable balanced.accountable ?_ ?_
      · refine Multiset.nodup_add.mpr ⟨?_, balanced.apart, ?_⟩
        · cases operation.worker? <;> simp
        · refine Multiset.disjoint_left.mpr fun {worker} member waits => ?_
          obtain ⟨waiting, present, carriedOut⟩ := (Multiset.mem_filterMap _ _).mp waits
          exact idle waiting present worker (by simpa using member) carriedOut
      · rw [balanced.balance, owned, taken, sum_kept, ← add_assoc system.service.owned]
  | @answer waiting others reply after present answered =>
      have known (member : Suspended) (among : member ∈ others) :=
        balanced.accountable member (present ▸ Multiset.mem_cons_of_mem among)
      obtain ⟨terms, relied, held, further⟩ :=
        balanced.accountable waiting (present ▸ Multiset.mem_cons_self waiting others)
      obtain ⟨rest, moved, answerable⟩ := further reply system.service balanced.sound relied
      refine Balanced.advance answerable known ?_ ?_
      · have apart := balanced.apart
        rwa [present, workers_cons] at apart
      · change waiting.request.granted reply + system.imported =
          waiting.request.returned + system.freed +
            (rest + (system.kept.map ResolvedBuffer.references).sum +
              (others.map (Suspended.inHand system.service)).sum)
        rw [balanced.balance, owned, present, Multiset.map_cons, Multiset.sum_cons]
        refine Eq.trans (b := system.service.owned + waiting.inHand system.service +
          waiting.request.granted reply + (system.freed +
            ((system.kept.map ResolvedBuffer.references).sum +
              (others.map (Suspended.inHand system.service)).sum))) (by abel) ?_
        rw [moved]
        abel

theorem Reaches.balanced {first : System κ} (reached : Reaches importer allowed first system)
    (copies : ∀ operation, allowed operation → copying → operation.CopiesStreams)
    (balanced : first.Balanced copying) : system.Balanced copying := by
  induction reached with
  | here => exact balanced
  | step _ next ih => exact next.balanced copies ih

end System

namespace Pool

variable {pool after : Pool}

theorem refCount_answers {request : Request} {reply : request.Reply}
    (answered : importer.Answers pool request reply after) (id : BufferId)
    (outstanding : request.returned.countP (·.id = id) ≤ pool.refCount id) :
    after.refCount id + request.returned.countP (·.id = id) =
      pool.refCount id + (request.granted reply).countP (·.id = id) := by
  cases request with
  | importBuffer native =>
      simp only [Importer.Answers, Pool.importer] at answered
      cases outcome : pool.importBuffer native with
      | ok granted =>
          rw [outcome] at answered
          cases answered
          rw [refCount_importBuffer outcome]
          change _ + 0 = _ + Multiset.countP _ {native}
          rw [Multiset.countP_eq_card_filter, Multiset.filter_singleton]
          split <;> rfl
      | error reason =>
          rw [outcome] at answered
          cases answered
          rfl
  | freeBuffer native =>
      have left : pool.freeBuffer native = after := answered
      have one : Multiset.countP (fun handle : NativeHandle => handle.id = id) {native} =
          if native.id = id then 1 else 0 := by
        rw [Multiset.countP_eq_card_filter, Multiset.filter_singleton]
        split <;> rfl
      change Multiset.countP _ {native} ≤ _ at outstanding
      change _ + Multiset.countP _ {native} = _ + 0
      rw [one] at outstanding ⊢
      rw [← left, refCount_freeBuffer, Nat.sub_add_cancel outstanding, add_zero]
  | device | notify | captured | awaitDeparture =>
      have same : after = pool := answered
      rw [same]
      rfl

end Pool

namespace System

variable {κ : Type} {system : System κ} {allowed : Operation → Prop}

@[simp] theorem importer_advance (system : System κ) (worker? : Option (SessionId × Nat))
    (run : Run Service (Option ResolvedBuffer)) :
    (system.advance worker? run).importer = system.importer := by
  cases run <;> rfl

@[simp] theorem imported_advance (system : System κ) (worker? : Option (SessionId × Nat))
    (run : Run Service (Option ResolvedBuffer)) :
    (system.advance worker? run).imported = system.imported := by
  cases run <;> rfl

@[simp] theorem freed_advance (system : System κ) (worker? : Option (SessionId × Nat))
    (run : Run Service (Option ResolvedBuffer)) :
    (system.advance worker? run).freed = system.freed := by
  cases run <;> rfl

/-- The pool counts, for an identity, what was granted and not given back. -/
def Counted (id : BufferId) (system : System Pool) : Prop :=
  system.importer.refCount id + system.freed.countP (·.id = id) =
    system.imported.countP (·.id = id)

theorem Step.counted {id : BufferId} {system after : System Pool}
    (step : Step Pool.importer allowed system after) (counted : system.Counted id)
    (balanced : after.Balanced False) : after.Counted id := by
  cases step with
  | start => simpa [Counted] using counted
  | @answer waiting others reply pool present answered =>
      have balance := congrArg (Multiset.countP (·.id = id)) balanced.balance
      simp only [imported_advance, freed_advance, Multiset.countP_add] at balance
      have outstanding :
          waiting.request.returned.countP (·.id = id) ≤ system.importer.refCount id := by
        obtain nothing | nothing := waiting.request.returned_or_granted
        · rw [nothing]
          exact Nat.zero_le _
        · rw [nothing reply, Multiset.countP_zero] at balance
          unfold Counted at counted
          omega
      have answers := Pool.refCount_answers answered id outstanding
      unfold Counted at counted ⊢
      simp only [importer_advance, imported_advance, freed_advance, Multiset.countP_add]
      omega

theorem Reaches.counted {first system : System Pool} {id : BufferId}
    (reached : Reaches Pool.importer allowed first system) (counted : first.Counted id)
    (balanced : first.Balanced False) : system.Counted id := by
  induction reached with
  | here => exact counted
  | step reached next ih =>
      exact next.counted ih ((reached.step next).balanced (fun _ _ => False.elim) balanced)

/-- The streams of layers come without references. -/
def StreamsCopied (system : System κ) : Prop :=
  ∀ (client : ClientId) (display : DisplayId) (layer : LayerId) (slot : Nat) (handle : Handle),
    (system.service.registry client).content display (.sidebandStream layer) slot =
      .ok (some handle) → handle.imported = false

theorem Balanced.streamsCopied {copying : Prop} (balanced : system.Balanced copying)
    (copies : copying) : system.StreamsCopied := by
  intro client display layer slot handle stored
  obtain ⟨found, shown, content⟩ := bind_ok stored
  obtain ⟨kept, present, stream⟩ := bind_ok content
  split at stream
  · exact balanced.sound.client_copied copies client display found (Registry.display_ok shown)
      layer kept (Display.layer_ok present) handle (Except.ok.inj stream)
  · cases stream

theorem balanced_settings {copying : Prop} (settings : Settings) (importer : κ) :
    (fresh settings.service importer).Balanced copying :=
  balanced_fresh importer ⟨Pipeline.sound_empty, fun found => absurd found (by simp [Settings.service]),
    fun _ _ _ found => absurd found (by simp [Settings.service])⟩ settings.service.owned_emptied

theorem lookup_stream (registry : Registry) (display : DisplayId) (layer : LayerId) (slot : Nat)
    (reuse : Bool) (handle : Option NativeHandle) :
    ∃ answer,
      (Registry.lookup display (.sidebandStream layer) slot reuse handle).start registry =
          .done answer registry ∧
        ∀ buffer, answer = .ok buffer → buffer.references = 0 := by
  unfold Registry.lookup
  cases reuse with
  | true =>
      refine ⟨_, rfl, ?_⟩
      intro buffer found
      cases content : registry.content display (.sidebandStream layer) slot with
      | error status => rw [content] at found; cases found
      | ok held => rw [content] at found; cases found; rfl
  | false =>
      cases handle with
      | none => exact ⟨_, rfl, fun _ found => by cases found; rfl⟩
      | some native => exact ⟨_, rfl, fun _ found => by cases found; rfl⟩

/-- In every run of a system, with any importer, the references that were granted are those that
were given back and those that something owns; between operations, these are the slots, the captures
and the buffers that were looked up. Streams have no part in it, and the pool counts the owners of
each identity. -/
theorem references_conserved (settings : Settings) (allowed : Operation → Prop) :
    (∀ (κ : Type) (importer : Importer κ) (first : κ) (system : System κ),
      Reaches importer allowed (fresh settings.service first) system →
        system.imported = system.freed + system.owned ∧ system.freed ≤ system.imported ∧
          (system.suspended = 0 → system.imported = system.freed +
            (system.service.owned + (system.kept.map ResolvedBuffer.references).sum)) ∧
          ((∀ operation, allowed operation → operation.CopiesStreams) → system.StreamsCopied)) ∧
      (∀ (registry : Registry) (display : DisplayId) (layer : LayerId) (slot : Nat) (reuse : Bool)
        (handle : Option NativeHandle), ∃ answer,
          (Registry.lookup display (.sidebandStream layer) slot reuse handle).start registry =
              .done answer registry ∧
            ∀ buffer, answer = .ok buffer → buffer.references = 0) ∧
      ∀ system : System Pool,
        Reaches Pool.importer allowed (fresh settings.service settings.pool) system →
          ∀ id, system.importer.refCount id = system.owned.countP (·.id = id) := by
  refine ⟨?_, lookup_stream, ?_⟩
  · intro κ importer first system reached
    have balanced : system.Balanced (∀ operation, allowed operation → operation.CopiesStreams) :=
      reached.balanced (fun operation permitted copies => copies operation permitted)
        (balanced_settings settings first)
    refine ⟨balanced.balance, ?_, ?_, balanced.streamsCopied⟩
    · rw [balanced.balance]
      exact Multiset.le_add_right _ _
    · intro idle
      rw [balanced.balance, owned, idle, Multiset.map_zero, Multiset.sum_zero, add_zero]
  · intro system reached id
    have first : (fresh settings.service settings.pool).Balanced False :=
      balanced_settings settings settings.pool
    have balanced := reached.balanced (fun _ _ => False.elim) first
    have counted : system.Counted id := reached.counted (by simp [Counted, fresh, Settings.pool,
      Pool.refCount]) first
    have balance := congrArg (Multiset.countP (·.id = id)) balanced.balance
    rw [Multiset.countP_add] at balance
    unfold Counted at counted
    omega

/-- A capture whose buffer was granted is on its way to the device, and is the one owner. -/
theorem references_conserved_posted :
    ∃ system : System Pool,
      Reaches Pool.importer (fun _ => True) (fresh ({} : Settings).service ({} : Settings).pool) system ∧
        system.imported = {⟨⟨7⟩, [], []⟩} ∧ system.imported = system.freed + system.owned ∧
          system.importer.refCount ⟨7⟩ = system.owned.countP (·.id = ⟨7⟩) := by
  have begun := Reaches.here.step (@Step.start Pool Pool.importer (fun _ => True)
    (fresh ({} : Settings).service ({} : Settings).pool)
    (.post ⟨0⟩ {} ⟨⟨7⟩, [], []⟩ ⟨0⟩) 0 trivial (fun _ client => nomatch client)
    (fun _ member => absurd member (Multiset.notMem_zero _)) rfl)
  have granted := begun.step (@Step.answer Pool Pool.importer (fun _ => True) _
    ⟨none, .importBuffer ⟨⟨7⟩, [], []⟩, _⟩ 0 (Except.ok () : Except BufferError Unit) _ rfl rfl)
  obtain ⟨conserved, _, counted⟩ := references_conserved {} fun _ => True
  exact ⟨_, granted, rfl, (conserved Pool Pool.importer _ _ granted).1, counted _ granted ⟨7⟩⟩

end System

end Scanout
