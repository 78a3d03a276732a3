import Scanout.Proofs.References.Batches
import Scanout.Proofs.References.Captures
import Scanout.Service.Client

/-!
The service keeps the account. It holds what its clients' displays and its captures hold, and each
of its operations works on one of these at a time, begins and ends with empty hands.
-/

namespace Scanout.Service

variable {copying : Prop} {own : Option (SessionId × Nat)} {known : Nat}
  {relies : Pipeline → Prop} {service : Service} {id : ClientId}

/-- The references that the displays of all clients and the captures hold. -/
def owned (service : Service) : Multiset NativeHandle :=
  heldBy service.captures.handles +
    Table.gather (fun client : Client => heldBy client.registry.handles) service.clients

/-- The captures are in order and the clients are those that were created. With `copying`, streams
hold copies. -/
structure Sound (copying : Prop) (service : Service) : Prop where
  captures : service.captures.Sound
  known : ∀ {id : ClientId} {client : Client}, service.clients[id]? = some client →
    id.raw < service.nextClient
  copied : copying → ∀ {id : ClientId} {client : Client}, service.clients[id]? = some client →
    client.registry.StreamsCopied

/-- The account of the service, kept by an operation that knows the first clients. -/
def books (copying : Prop) (own : Option (SessionId × Nat)) (known : Nat)
    (relies : Pipeline → Prop) : Books Service where
  owned := owned
  Sound := Sound copying
  Relies service := known ≤ service.nextClient ∧ relies service.captures
  Permits before after := before.nextClient ≤ after.nextClient ∧
    Pipeline.Undisturbed own before.captures after.captures
  refl service := ⟨Nat.le_refl _, .refl own service.captures⟩
  trans begins goesOn := ⟨begins.1.trans goesOn.1, begins.2.trans goesOn.2⟩

theorem books_stable : (books copying own known fun _ => True).Stable :=
  fun step relied => ⟨relied.1.trans step.1, trivial⟩

theorem clients_modifyClient (service : Service) (id other : ClientId) (change : Client → Client) :
    (service.modifyClient id change).clients[other]? =
      if id = other then some (change (service.client id)) else service.clients[other]? :=
  Table.getElem?_insert _ _ _ _

/-- The references of one client, apart from the others. -/
theorem owned_client (service : Service) (id : ClientId) :
    service.owned = heldBy (service.registry id).handles +
      (heldBy service.captures.handles +
        Table.gather (fun client : Client => heldBy client.registry.handles)
          (service.clients.erase id)) := by
  unfold owned
  cases entry : service.clients[id]? with
  | none =>
      have nothing : service.registry id = ∅ := by simp [registry, client, entry]
      rw [nothing, Table.erase_of_absent entry]
      exact (zero_add _).symm
  | some client =>
      have same : service.registry id = client.registry := by simp [registry, Service.client, entry]
      rw [same, Table.gather_of_found entry]
      abel

theorem Sound.client_copied (sound : service.Sound copying) (copies : copying) (id : ClientId) :
    (service.registry id).StreamsCopied := by
  cases entry : service.clients[id]? with
  | none =>
      have nothing : service.registry id = ∅ := by simp [registry, client, entry]
      rw [nothing]
      exact Registry.streamsCopied_empty
  | some client =>
      simpa [registry, Service.client, entry] using sound.copied copies entry

section ModifyClient

variable {change : Client → Client}

theorem owned_modifyClient (service : Service) (id : ClientId) (change : Client → Client) :
    (service.modifyClient id change).owned =
      heldBy (change (service.client id)).registry.handles +
        (heldBy service.captures.handles +
          Table.gather (fun client : Client => heldBy client.registry.handles)
            (service.clients.erase id)) := by
  unfold owned modifyClient
  rw [Table.gather_insert]
  abel

theorem Sound.modifyClient (sound : service.Sound copying) (created : id.raw < service.nextClient)
    (copied : copying → (change (service.client id)).registry.StreamsCopied) :
    (service.modifyClient id change).Sound copying where
  captures := sound.captures
  known {other client} entry := by
    rw [clients_modifyClient] at entry
    by_cases same : id = other
    · rw [← same]
      exact created
    · rw [if_neg same] at entry
      exact sound.known entry
  copied copies {other client} entry := by
    rw [clients_modifyClient] at entry
    by_cases same : id = other
    · rw [if_pos same] at entry
      cases entry
      exact copied copies
    · rw [if_neg same] at entry
      exact sound.copied copies entry

/-- Changes of a client that leave alone what its displays hold. -/
theorem neutral_modifyClient {change : Service → Client → Client} (created : id.raw < known)
    (same : ∀ service client, heldBy (change service client).registry.handles =
      heldBy client.registry.handles)
    (copied : ∀ service client, client.registry.StreamsCopied →
      (change service client).registry.StreamsCopied) :
    (modify fun service => service.modifyClient id (change service) :
      Action Service Unit).Neutral (books copying none known fun _ => True) := by
  refine .modify fun service sound relied => ⟨?_, ?_, ?_⟩
  · exact sound.modifyClient (created.trans_le relied.1) fun copies =>
      copied service _ (sound.client_copied copies id)
  · exact ⟨Nat.le_refl _, .refl none service.captures⟩
  · change (service.modifyClient id (change service)).owned = service.owned
    rw [owned_modifyClient, owned_client service id, same]
    rfl

end ModifyClient

section Parts

theorem registry_modifyClient (service : Service) (id : ClientId) (registry : Registry) :
    (service.modifyClient id fun client => { client with registry }).registry id = registry := by
  have found := service.clients_modifyClient id id fun client => { client with registry }
  rw [if_pos rfl] at found
  simp [Service.registry, client, found]

theorem registry_part (created : id.raw < known) :
    (Registry.books copying).Part (books copying none known fun _ => True) (·.registry id)
      (fun registry service => service.modifyClient id fun client => { client with registry })
      fun service => heldBy service.captures.handles +
        Table.gather (fun client : Client => heldBy client.registry.handles)
          (service.clients.erase id) where
  part_replace registry service := service.registry_modifyClient id registry
  beside_replace registry service := by
    have first := service.owned_modifyClient id fun client => { client with registry }
    rw [owned_client _ id, registry_modifyClient] at first
    exact add_left_cancel first
  owned service := service.owned_client id
  part_sound sound copies := sound.client_copied copies id
  part_relies _ := trivial
  sound sound relied copied := sound.modifyClient (created.trans_le relied.1) copied
  relies relied _ := relied
  permits {_ service} _ := ⟨Nat.le_refl _, .refl none service.captures⟩

theorem captures_part :
    (Pipeline.books own relies).Part (books copying own known relies) captures
      (fun captures service => { service with captures })
      fun service =>
        Table.gather (fun client : Client => heldBy client.registry.handles) service.clients where
  part_replace _ _ := rfl
  beside_replace _ _ := rfl
  owned _ := rfl
  part_sound sound := sound.captures
  part_relies relied := relied.2
  sound sound _ kept := ⟨kept, sound.known, sound.copied⟩
  relies relied kept := ⟨relied.1, kept⟩
  permits step := ⟨Nat.le_refl _, step⟩

theorem carries_onRegistry {α : Type} {hand : Multiset NativeHandle}
    {left : α → Multiset NativeHandle → Prop} {action : Action Registry α}
    (created : id.raw < known) (carried : action.Carries (Registry.books copying) hand left) :
    (onRegistry id action).Carries (books copying none known fun _ => True) hand left :=
  carried.within (registry_part created)

theorem neutral_onCaptures {α : Type} {action : Action Pipeline α}
    (neutral : action.Neutral (Pipeline.books none fun _ => True)) :
    (onCaptures action).Neutral (books copying none known fun _ => True) :=
  Action.Carries.within captures_part neutral

end Parts

section Operations

theorem neutral_dropDisplay (created : id.raw < known) (display : DisplayId) :
    (dropDisplay id display).Neutral (books copying none known fun _ => True) :=
  carries_onRegistry created (Registry.neutral_change (Registry.conserves_removeDisplay display))

theorem neutral_dropCaptures (display : DisplayId) :
    (dropCaptures display).Neutral (books copying none known fun _ => True) := by
  refine .modify fun service sound _ => ⟨?_, ?_, ?_⟩
  · exact ⟨sound.captures.removeDisplay display, sound.known, sound.copied⟩
  · exact ⟨Nat.le_refl _, .removeDisplay service.captures display⟩
  · exact congrArg (· + _) (Pipeline.heldBy_removeDisplay service.captures display)

theorem neutral_enlist :
    (modifyGet fun service =>
      let id : ClientId := ⟨service.nextClient⟩
      (id, { service with
        occupied := true
        clients := service.clients.insert id {}
        nextClient := service.nextClient + 1 }) :
      Action Service ClientId).Neutral (books copying none known fun _ => True) := by
  refine .modifyGet fun service sound _ => ⟨⟨sound.captures, ?_, ?_⟩,
    ⟨Nat.le_succ _, .refl none service.captures⟩, 0, rfl, ?_⟩
  · intro other client entry
    rw [Table.getElem?_insert] at entry
    by_cases same : (⟨service.nextClient⟩ : ClientId) = other
    · rw [← same]
      exact Nat.lt_succ_self _
    · rw [if_neg same] at entry
      exact Nat.lt_succ_of_lt (sound.known entry)
  · intro copies other client entry
    rw [Table.getElem?_insert] at entry
    by_cases same : (⟨service.nextClient⟩ : ClientId) = other
    · rw [if_pos same] at entry
      cases entry
      exact Registry.streamsCopied_empty
    · rw [if_neg same] at entry
      exact sound.copied copies entry
  · have absent : service.clients[(⟨service.nextClient⟩ : ClientId)]? = none := by
      cases entry : service.clients[(⟨service.nextClient⟩ : ClientId)]? with
      | none => rfl
      | some client => exact absurd (sound.known entry) (Nat.lt_irrefl _)
    refine congrArg (_ + · + 0) ?_
    exact ((Table.gather_of_absent absent).trans (add_zero _)).symm

theorem neutral_createClient :
    createClient.Neutral (books copying none known fun _ => True) := by
  have created : Action.Neutral (books copying none known fun _ => True)
      (α := Except Status ClientId) _ := .bind books_stable neutral_enlist fun id =>
    .bind books_stable (Action.Carries.call (.setEventReceiver (some id))) fun _ => .pure (.ok id)
  refine .get fun service => ?_
  cases service.occupied with
  | false => exact created
  | true =>
      refine .get fun service => .bind books_stable (.ask (fun _ => rfl) rfl) fun _ => ?_
      refine .get fun service => ?_
      cases service.occupied with
      | false => exact created
      | true => exact .pure _

theorem neutral_registerListener (created : id.raw < known) (listener : EventListener) :
    (registerListener id listener).Neutral (books copying none known fun _ => True) :=
  neutral_modifyClient created (fun _ _ => rfl) fun _ _ copied => copied

theorem neutral_createLayer (created : id.raw < known) (display : DisplayId) (slots : Nat) :
    (createLayer id display slots).Neutral (books copying none known fun _ => True) := by
  refine .bind books_stable (.call _) fun answer => ?_
  cases answer with
  | error status => exact .pure _
  | ok layer =>
      exact .bind books_stable (carries_onRegistry created (Registry.neutral_change
        (Registry.conserves_addLayer display layer slots))) fun _ => .pure _

theorem neutral_destroyLayer (created : id.raw < known) (display : DisplayId) (layer : LayerId) :
    (destroyLayer id display layer).Neutral (books copying none known fun _ => True) := by
  refine .bind books_stable (.call _) fun answer => ?_
  cases answer with
  | error status => exact .pure _
  | ok _ => exact carries_onRegistry created (Registry.neutral_change
      (Registry.conserves_removeLayer display layer))

/-- A client comes to have a display whose slots are empty. -/
theorem neutral_addDisplay (created : id.raw < known) (display : DisplayId) (isVirtual : Bool)
    (outputSlots : Nat) :
    (modify fun service => service.modifyClient id fun client =>
      { client with
        registry := (client.registry.addDisplay display isVirtual
          service.initialClientTargetSlots outputSlots).2 } :
      Action Service Unit).Neutral (books copying none known fun _ => True) :=
  neutral_modifyClient created
    (fun _ client => client.registry.heldBy_addDisplay display isVirtual _ outputSlots)
    fun _ _ copied => copied.addDisplay isVirtual _ outputSlots

theorem neutral_createVirtualDisplay (created : id.raw < known) (width height : Nat)
    (format : PixelFormat) (outputSlots : Nat) :
    (createVirtualDisplay id width height format outputSlots).Neutral
      (books copying none known fun _ => True) := by
  refine .bind books_stable (.call _) fun answer => ?_
  cases answer with
  | error status => exact .pure _
  | ok made =>
      exact .bind books_stable (neutral_addDisplay created made.1 true outputSlots) fun _ => .pure _

theorem neutral_destroyVirtualDisplay (created : id.raw < known) (display : DisplayId) :
    (destroyVirtualDisplay id display).Neutral (books copying none known fun _ => True) := by
  refine .bind books_stable (.call _) fun answer => ?_
  cases answer with
  | error status => exact .pure _
  | ok _ =>
      refine .bind books_stable (neutral_dropDisplay created display) fun dropped => ?_
      cases dropped with
      | error status => exact .pure _
      | ok _ => exact .bind books_stable (neutral_dropCaptures display) fun _ => .pure _

theorem neutral_resizeClientTargets (created : id.raw < known) (display : DisplayId)
    (count : Nat) :
    (resizeClientTargets id display count).Neutral (books copying none known fun _ => True) :=
  carries_onRegistry created
    (Registry.neutral_change (Registry.conserves_resizeClientTargets display count))

theorem neutral_resizeLayerBuffers (created : id.raw < known) (display : DisplayId)
    (layer : LayerId) (count : Nat) :
    (resizeLayerBuffers id display layer count).Neutral
      (books copying none known fun _ => True) :=
  carries_onRegistry created
    (Registry.neutral_change (Registry.conserves_resizeLayerBuffers display layer count))

theorem neutral_execute (created : id.raw < known) (engine : Engine)
    (commands : List DisplayCommand) :
    (onRegistry id ((EngineAction.execute commands).run' engine)).Neutral
      (books copying none known fun _ => True) :=
  carries_onRegistry created (Action.Neutral.bind Registry.books_stable
    (EngineAction.neutral_batch EngineAction.neutral_displayCommand commands engine)
    fun _ => .pure _)

theorem neutral_executeExtended (created : id.raw < known) (engine : Engine)
    (commands : List ExtendedDisplayCommand) :
    (onRegistry id ((EngineAction.executeExtended commands).run' engine)).Neutral
      (books copying none known fun _ => True) :=
  carries_onRegistry created (Action.Neutral.bind Registry.books_stable
    (EngineAction.neutral_batch EngineAction.neutral_extendedDisplayCommand commands engine)
    fun _ => .pure _)

theorem neutral_postCapture (id : ClientId) (display : DisplayId) (config : CaptureConfig)
    (buffer : NativeHandle) (listener : CaptureListener) :
    (postCapture id display config buffer listener).Neutral
      (books copying none known fun _ => True) := by
  refine .get fun service => ?_
  cases (service.registry id).contains display with
  | true => exact neutral_onCaptures (Pipeline.neutral_post display config buffer listener)
  | false => exact .pure _

theorem neutral_completeCapture (display : DisplayId) (code : Int) (buffer : BufferId) :
    (completeCapture display code buffer).Neutral (books copying none known fun _ => True) := by
  refine Action.Carries.get fun service sound relied => ?_
  cases outcome : service.captures.complete display code buffer with
  | error status => exact Action.Neutral.pure _ service sound relied
  | ok captures =>
      refine ⟨⟨sound.captures.complete outcome, sound.known, sound.copied⟩,
        ⟨Nat.le_refl _, .complete outcome⟩, 0, rfl, ?_⟩
      exact congrArg (· + _ + 0) (Pipeline.heldBy_complete outcome).symm

theorem neutral_presentFinally (display : DisplayId) :
    (presentFinally display).Neutral (books copying none known fun _ => True) := by
  refine .bind books_stable (.call _) fun answer => ?_
  cases answer with
  | error status => exact .pure _
  | ok _ => exact .bind books_stable (.call _) fun _ => .bind books_stable (.call _) fun _ => .pure _

theorem neutral_retireDisplay (created : id.raw < known) (display : DisplayId) (isVirtual : Bool)
    (layers : List LayerId) :
    (retireDisplay id display isVirtual layers).Neutral (books copying none known fun _ => True) := by
  have dropped : Action.Neutral (books copying none known fun _ => True) (α := Unit) _ :=
    .bind books_stable (neutral_dropDisplay created display) fun _ => .pure ()
  refine .bind books_stable (.forM books_stable _ fun layer _ =>
    .bind books_stable (.call _) fun _ => .pure _) fun _ => ?_
  cases isVirtual with
  | true =>
      exact .bind books_stable (.call _) fun _ =>
        .bind books_stable (neutral_dropCaptures display) fun _ => dropped
  | false => exact .bind books_stable (neutral_presentFinally display) fun _ => dropped

theorem neutral_dropClient (created : id.raw < known) :
    (dropClient id).Neutral (books copying none known fun _ => True) := by
  refine .bind books_stable (neutral_modifyClient created (fun _ _ => rfl) fun _ _ copied => copied)
    fun _ => ?_
  refine .bind books_stable (.call _) fun _ => .get fun service => ?_
  refine .bind books_stable (.forM books_stable _ fun (display, isVirtual, layers) _ =>
    neutral_retireDisplay created display isVirtual layers) fun _ => ?_
  refine .modify fun service sound _ => ⟨?_, ?_, rfl⟩
  · exact ⟨sound.captures, sound.known, sound.copied⟩
  · exact ⟨Nat.le_refl _, .refl none service.captures⟩

theorem neutral_receive (created : id.raw < known) (event : DisplayEvent) :
    (receive id event).Neutral (books copying none known fun _ => True) := by
  refine .get fun service => ?_
  cases (service.client id).activeListener with
  | none => exact .pure _
  | some listener =>
      have told : Action.Neutral (books copying none known fun _ => True)
        (Action.ask (.notify id listener event)) := .ask (fun _ => rfl) rfl
      dsimp only
      split
      · exact .bind books_stable (neutral_addDisplay created event.display false 0) fun _ => told
      · exact .bind books_stable told fun _ => .bind books_stable (.call _) fun _ =>
          .bind books_stable (neutral_dropDisplay created event.display) fun _ =>
            neutral_dropCaptures event.display
      · exact told

end Operations

end Scanout.Service
