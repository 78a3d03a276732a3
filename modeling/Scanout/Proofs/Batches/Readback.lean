import Mathlib
import Scanout.Proofs.Batches.Attempts
import Scanout.Proofs.Outstanding

/-!
Slots are read as they were written. What is done to them is kept in a log: displays and layers come
and go, slots are counted anew, and the entries of batches are attempted one by one. The log says
what each slot holds, and so which handle a field that reuses the slot hands to the device.
-/

namespace Scanout

open EngineAction

/-- The operation is on displays, layers and the number of slots, and not on what a slot holds. -/
def SlotOperation.Alters : SlotOperation → Prop
  | lookup .. | update .. => False
  | addDisplay .. | removeDisplay _ | addLayer .. | removeLayer .. | resizeClientTargets ..
  | resizeLayerBuffers .. => True

/-- The slot comes into being with the operation, when these are the slots it finds. A layer that
takes the place of another has new slots. -/
def SlotOperation.creates (found : SlotMap) (address : SlotAddress) : SlotOperation → Bool
  | addDisplay id .. => address.display == id && !found.displays id
  | addLayer id layer _ => address.display == id && address.kind.layer? == some layer
  | resizeClientTargets id _ => address.display == id && address.kind == .clientTarget &&
      found.count id .clientTarget ≤ address.slot
  | resizeLayerBuffers id layer _ => address.display == id && address.kind == .layerBuffer layer &&
      found.count id (.layerBuffer layer) ≤ address.slot
  | removeDisplay _ | removeLayer .. | lookup .. | update .. => false

/-- Something that was done to the slots. -/
inductive Deed where
  | altered (operation : SlotOperation) (found : SlotMap)
  | tried (attempted : Attempted)

/-- What the deed puts into the slot, if it is about that slot. One that comes into being is
empty. -/
def Deed.gives (address : SlotAddress) : Deed → Option (Option NativeHandle)
  | altered operation found => if operation.creates found address then some none else none
  | tried attempted => (attempted.brought address).map some

/-- The handle that was stored in the slot most recently, unless it has come into being since. -/
def lastStored (log : List Deed) (address : SlotAddress) : Option NativeHandle :=
  (log.reverse.findSome? (Deed.gives address)).join

/-- The handle that the attempts stored in the slot, if any did. It is that of the last. -/
def lastBrought (attempts : List Attempted) (address : SlotAddress) : Option NativeHandle :=
  attempts.reverse.findSome? fun attempted => attempted.brought address

/-- What was done since there were no displays, and the registry it has led to. The surroundings
answer as they like and leave the registry alone. -/
inductive SlotLog : List Deed → Registry → Prop where
  | start : SlotLog [] ∅
  | alter {log before operation} (logged : SlotLog log before)
      (alters : SlotOperation.Alters operation) (replies : Replies) :
      SlotLog (log ++ [.altered operation before.slots]) (operation.perform replies before).2
  | attempt {log before attempt engine exchanges written after} (logged : SlotLog log before)
      (entry : Entry) (among : attempt ∈ entry.attempts)
      (ended : (((attempt.run entry.display).run engine).start before).Ends Eq exchanges
        ((), written) after) :
      SlotLog (log ++
        [.tried ⟨entry.display, attempt, before.slots, exchanges, after.slots⟩]) after

/-- What the entries of the batch ask for, as they are carried out. -/
def Batch.attempts (batch : Batch) : List (DisplayId × Attempt) :=
  batch.entries.flatMap fun entry => entry.attempts.map (entry.display, ·)

section Contents

variable {log : List Deed} {address : SlotAddress}

theorem lastStored_append_singleton (log : List Deed) (deed : Deed) (address : SlotAddress) :
    lastStored (log ++ [deed]) address = (deed.gives address).getD (lastStored log address) := by
  rw [lastStored, List.reverse_append, List.reverse_singleton, List.singleton_append,
    List.findSome?_cons]
  cases deed.gives address <;> rfl

theorem lastBrought_append (first second : List Attempted) (address : SlotAddress) :
    lastBrought (first ++ second) address =
      (lastBrought second address).or (lastBrought first address) := by
  rw [lastBrought, List.reverse_append, List.findSome?_append]
  rfl

theorem lastStored_tried (log : List Deed) (attempted : Attempted) (address : SlotAddress) :
    lastStored (log ++ [.tried attempted]) address =
      (attempted.brought address).or (lastStored log address) := by
  rw [lastStored_append_singleton, Deed.gives]
  cases attempted.brought address <;> rfl

/-- The slots hold what was stored in them last. -/
def SlotMap.Recalls (slots : SlotMap) (log : List Deed) : Prop :=
  ∀ address held, slots.content address = some held → held = lastStored log address

namespace SlotMap

variable {slots after : SlotMap} {operation : SlotOperation} {answer : operation.Answer}
  {requests : List Request}

theorem settles_located {id : DisplayId} {layer? : Option LayerId} {changed : SlotMap}
    {answer : Except Status Unit}
    (settled : slots.Settles (slots.located id layer? (.ok changed)) answer requests after) :
    after = changed ∨ after = slots ∧ (slots.displays id → ∃ layer, layer? = some layer) := by
  obtain ⟨-, settled⟩ := settled
  unfold located at settled
  by_cases live : slots.displays id
  · cases layer? with
    | none =>
        simp only [live, Bool.not_true, Bool.false_eq_true, if_false, Option.any_none] at settled
        exact .inl settled.2
    | some layer =>
        by_cases there : slots.layers id layer
        · simp only [live, there, Bool.not_true, Bool.false_eq_true, if_false,
            Option.any_some] at settled
          exact .inl settled.2
        · simp only [live, there, Bool.not_true, Bool.not_false, Bool.false_eq_true, if_false,
            if_true, Option.any_some] at settled
          exact .inr ⟨settled.2, fun _ => ⟨layer, rfl⟩⟩
  · simp only [live, Bool.not_false, if_true] at settled
    exact .inr ⟨settled.2, fun live' => absurd live' live⟩

theorem content_resize {id : DisplayId} {resized : BufferKind} {count : Nat}
    {held : Option NativeHandle}
    (content : (slots.resize id resized count).content address = some held) :
    if address.display = id ∧ address.kind = resized ∧ slots.count id resized ≤ address.slot
    then held = none else slots.content address = some held := by
  by_cases meant : address.display = id ∧ address.kind = resized
  · obtain ⟨rfl, rfl⟩ := meant
    have inside := slots.domain address
    simp only [resize, and_self, if_true] at content
    split at content
    · cases kept : slots.content address <;> simp_all
    · cases content
  · simpa [resize, meant, ← and_assoc] using content

/-- What a slot holds after an operation: nothing if it came into being, and else what it held. -/
theorem content_permitted (alters : operation.Alters)
    (live : ∀ address held, slots.content address = some held → slots.displays address.display)
    (permitted : slots.Permits ⟨operation, answer, requests⟩ after) {held : Option NativeHandle}
    (content : after.content address = some held) :
    if operation.creates slots address then held = none
    else slots.content address = some held := by
  cases operation with
  | addDisplay id isVirtual clientTargetSlots outputSlots =>
      have added := congrArg Prod.snd permitted.1
      unfold addDisplay at added
      by_cases present : slots.displays id
      · rw [if_pos present] at added
        cases added
        simpa [SlotOperation.creates, present] using content
      · rw [if_neg present] at added
        cases added
        simp only [renew] at content
        grind [SlotOperation.creates]
  | removeDisplay id =>
      rcases settles_located permitted with rfl | ⟨rfl, -⟩
      · simp only [renew] at content
        grind [SlotOperation.creates]
      · exact content
  | addLayer id layer count =>
      rcases settles_located permitted with rfl | ⟨rfl, missing⟩
      · simp only [renew] at content
        grind [SlotOperation.creates]
      · have here := live address held content
        grind [SlotOperation.creates]
  | removeLayer id layer =>
      rcases settles_located permitted with rfl | ⟨rfl, -⟩
      · simp only [renew] at content
        grind [SlotOperation.creates]
      · exact content
  | resizeClientTargets id count =>
      rcases settles_located permitted with rfl | ⟨rfl, -⟩
      · simpa [SlotOperation.creates, and_assoc] using content_resize content
      · have inside := after.domain address
        grind [SlotOperation.creates]
  | resizeLayerBuffers id layer count =>
      rcases settles_located permitted with rfl | ⟨rfl, -⟩
      · simpa [SlotOperation.creates, and_assoc] using content_resize content
      · have inside := after.domain address
        grind [SlotOperation.creates]
  | lookup address reuse handle => cases alters
  | update address reuse buffer => cases alters

end SlotMap

theorem Registry.recalls_empty : (∅ : Registry).slots.Recalls [] := by
  intro address held content
  rw [slots_empty] at content
  cases content

theorem Registry.recalls_altered {registry : Registry} {operation : SlotOperation}
    (recalls : registry.slots.Recalls log) (alters : operation.Alters) (replies : Replies) :
    (operation.perform replies registry).2.slots.Recalls
      (log ++ [.altered operation registry.slots]) := by
  intro address held content
  have live (other : SlotAddress) (native : Option NativeHandle)
      (content : registry.slots.content other = some native) :
      registry.slots.displays other.display := by
    have read := read_of_content content
    unfold SlotMap.read SlotMap.located at read
    by_contra gone
    rw [Bool.not_eq_true] at gone
    simp [gone] at read
  have left := SlotMap.content_permitted alters live (perform_permitted operation replies registry)
    content
  rw [lastStored_append_singleton, Deed.gives]
  by_cases creates : operation.creates registry.slots address
  · rw [if_pos creates] at left ⊢
    exact left
  · rw [if_neg creates] at left ⊢
    exact recalls address held left

theorem Attempted.Lawful.recalls {attempted : Attempted} (lawful : attempted.Lawful)
    (recalls : attempted.found.Recalls log) :
    attempted.left.Recalls (log ++ [.tried attempted]) := by
  intro address held content
  rw [lawful.contents, Option.map_eq_some_iff] at content
  obtain ⟨before, found, rfl⟩ := content
  rw [lastStored_tried, recalls address before found]

theorem SlotLog.recalls {registry : Registry} (logged : SlotLog log registry) :
    registry.slots.Recalls log := by
  induction logged with
  | start => exact Registry.recalls_empty
  | alter logged alters replies ih => exact Registry.recalls_altered ih alters replies
  | attempt logged entry among ended ih =>
      exact (Entry.attempts_lawful among _ _ _ _ ended).recalls ih

end Contents

/-- Done after these deeds, the attempt was lawful, and a field that reuses a slot handed over the
handle that was stored there last. -/
structure Attempted.Faithful (attempted : Attempted) (earlier : List Deed) : Prop
    extends attempted.Lawful where
  handsLast {field : Field} {use : BufferRequest} (needs : attempted.Needs field use)
    (reuse : use.reuse = true)
    (there : (attempted.found.content (use.address attempted.display)).isSome) :
    attempted.Hands field (lastStored earlier (use.address attempted.display))

section Attempts

variable {log : List Deed} {registry after : Registry} {exchanges : List Exchange}

theorem Attempted.Lawful.faithful {attempted : Attempted} (lawful : attempted.Lawful)
    (recalls : attempted.found.Recalls log) : attempted.Faithful log := by
  refine ⟨lawful, ?_⟩
  intro field use needs reuse there
  have handed := lawful.reused needs reuse
  obtain ⟨held, content⟩ := Option.isSome_iff_exists.mp there
  rw [content] at handed
  rwa [← recalls _ held content]

theorem SlotLog.faithful (logged : SlotLog log registry) {earlier later : List Deed}
    {attempted : Attempted} (split : log = earlier ++ .tried attempted :: later) :
    attempted.Faithful earlier := by
  induction logged generalizing later with
  | start => simp at split
  | alter logged alters replies ih =>
      rcases split_append_singleton split with ⟨-, same, -⟩ | ⟨between, -, before⟩
      · cases same
      · exact ih before
  | attempt logged entry among ended ih =>
      rcases split_append_singleton split with ⟨rfl, same, -⟩ | ⟨between, -, before⟩
      · cases same
        exact (Entry.attempts_lawful among _ _ _ _ ended).faithful logged.recalls
      · exact ih before

/-- These attempts were made of what was asked, in order. The log went on with them, and each slot
was left with the last handle that they brought for it. -/
structure Made (asked : List (DisplayId × Attempt)) (log : List Deed) (before : Registry)
    (exchanges : List Exchange) (after : Registry) (made : List Attempted) : Prop where
  asked : made.map Attempted.asked = asked
  exchanged : made.flatMap Attempted.exchanges = exchanges
  logged : SlotLog (log ++ made.map .tried) after
  contents (address : SlotAddress) : after.slots.content address =
    (before.slots.content address).map ((lastBrought made address).or ·)

namespace Made

theorem nil (logged : SlotLog log registry) : Made [] log registry [] registry [] where
  asked := rfl
  exchanged := rfl
  logged := by simpa using logged
  contents address := by simp [lastBrought]

theorem append {first second : List (DisplayId × Attempt)} {rest : List Exchange}
    {middle : Registry} {earlier later : List Attempted}
    (begins : Made first log registry exchanges middle earlier)
    (goesOn : Made second (log ++ earlier.map .tried) middle rest after later) :
    Made (first ++ second) log registry (exchanges ++ rest) after (earlier ++ later) where
  asked := by rw [List.map_append, begins.asked, goesOn.asked]
  exchanged := by rw [List.flatMap_append, begins.exchanged, goesOn.exchanged]
  logged := by
    rw [List.map_append, ← List.append_assoc]
    exact goesOn.logged
  contents address := by
    rw [goesOn.contents, begins.contents, Option.map_map, lastBrought_append]
    congr 1
    funext held
    exact (Option.or_assoc ..).symm

end Made

theorem made_attempts (entry : Entry) {attempts : List Attempt}
    (among : ∀ attempt ∈ attempts, attempt ∈ entry.attempts) (engine : Engine)
    (logged : SlotLog log registry) :
    ((attempts.forM (Attempt.run entry.display)).run engine).Ensures Eq registry
      fun exchanges _ after =>
        ∃ made, Made (attempts.map (entry.display, ·)) log registry exchanges after made := by
  induction attempts generalizing engine log registry with
  | nil => exact .pure ⟨[], .nil logged⟩
  | cons attempt rest ih =>
      obtain ⟨here, later⟩ := List.forall_mem_cons.mp among
      change (((attempt.run entry.display).run engine >>= fun result =>
        (rest.forM (Attempt.run entry.display)).run result.2)).Ensures Eq registry _
      apply Action.Ensures.bind
      intro exchanges result middle ended
      have lawful := Entry.attempts_lawful here _ _ _ _ ended
      have first : Made [(entry.display, attempt)] log registry exchanges middle
          [⟨entry.display, attempt, registry.slots, exchanges, middle.slots⟩] := by
        refine ⟨rfl, by simp, logged.attempt entry here ended, ?_⟩
        intro address
        rw [lawful.contents]
        simp [lastBrought]
      intro more last after further
      obtain ⟨made, goesOn⟩ := ih later result.2 first.logged _ _ _ further
      exact ⟨_, first.append goesOn⟩

theorem made_entries (entries : List (Entry × Nat)) (engine : Engine)
    (logged : SlotLog log registry) :
    ((runEntries Entry.execute entries).run engine).Ensures Eq registry
      fun exchanges _ after => ∃ made, Made
        ((entries.map Prod.fst).flatMap fun entry => entry.attempts.map (entry.display, ·)) log
        registry exchanges after made := by
  induction entries generalizing engine log registry with
  | nil => exact .pure ⟨[], .nil logged⟩
  | cons first rest ih =>
      obtain ⟨entry, number⟩ := first
      -- Entering an entry only sets its number.
      change Action.Ensures Eq registry _ (entry.execute.run { engine with entry := number } >>=
        fun result => (runEntries Entry.execute rest).run result.2)
      apply Action.Ensures.bind
      rw [entry.execute_eq]
      intro exchanges result middle ended
      obtain ⟨made, first⟩ := made_attempts entry (fun _ member => member)
        { engine with entry := number } logged _ _ _ ended
      intro more last after further
      obtain ⟨others, goesOn⟩ := ih result.2 first.logged _ _ _ further
      exact ⟨_, first.append goesOn⟩

/-- All that the entries of a batch ask for is attempted, in order, and nothing else is exchanged. -/
theorem SlotLog.batch (logged : SlotLog log registry) (batch : Batch)
    {answer : Except Status (List Payload)}
    (ended : (batch.action.start registry).Ends Eq exchanges answer after) :
    ∃ made, Made batch.attempts log registry exchanges after made := by
  rw [batch.action_eq] at ended
  by_cases empty : batch.entries = []
  · rw [empty] at ended
    cases ended
    rw [Batch.attempts, empty]
    exact ⟨[], .nil logged⟩
  · rw [start_batch _ empty] at ended
    have executed := made_entries batch.entries.zipIdx {} logged
    rw [List.zipIdx_map_fst] at executed
    have finished : ((((runEntries Entry.execute batch.entries.zipIdx).run {}).start
        registry).andThen fun result =>
          .done (Except.ok result.2.writer.pending : Except Status (List Payload))).Ensures Eq
            fun exchanges _ after =>
              ∃ made, Made batch.attempts log registry exchanges after made := by
      apply Run.Ensures.andThen
      refine Run.Ensures.imp executed ?_
      intro exchanges result after made
      apply Run.Ensures.done
      rwa [List.append_nil]
    exact finished _ _ _ ended

/-- Extended commands bring no handles. -/
theorem Made.not_brought {commands : List ExtendedDisplayCommand} {made : List Attempted}
    (attempts : Made (Batch.extended commands).attempts log registry exchanges after made)
    {attempted : Attempted} (member : attempted ∈ made) (address : SlotAddress) :
    attempted.brought address = none := by
  have asked : attempted.asked ∈ (Batch.extended commands).attempts := by
    rw [← attempts.asked]
    exact List.mem_map_of_mem member
  simp only [Batch.attempts, Batch.entries, List.mem_flatMap, List.mem_map] at asked
  obtain ⟨entry, ⟨command, -, rfl⟩, attempt, listed, same⟩ := asked
  obtain ⟨field, among, rfl⟩ := List.mem_map.mp listed
  have attempt : attempted.attempt = .field field := (congrArg Prod.snd same).symm
  rw [Attempted.brought, attempt]
  cases buffered : field.buffer? with
  | none => simp [buffered]
  | some use =>
      have reuse := ExtendedDisplayCommand.reuses among buffered
      simp [buffered, BufferRequest.brought_of_reuse reuse]

theorem Made.same_contents {commands : List ExtendedDisplayCommand} {made : List Attempted}
    (attempts : Made (Batch.extended commands).attempts log registry exchanges after made) :
    after.slots.content = registry.slots.content := by
  funext address
  have none : lastBrought made address = none := by
    apply List.findSome?_eq_none_iff.mpr
    intro attempted member
    exact attempts.not_brought (List.mem_reverse.mp member) address
  rw [attempts.contents, none]
  simp

/-- Whatever was done to the slots, and whatever the importer and the device said to it, each slot
holds what was stored in it last, and each field that reused a slot was carried out with what had been
stored there last until then. A batch goes on with the log by attempting what its entries prescribe, and
leaves in each slot the last handle that was brought for it; an extended batch leaves all slots with
what they held. -/
theorem SlotLog.reads_last_stored (logged : SlotLog log registry) :
    (∀ earlier attempted later, log = earlier ++ .tried attempted :: later →
      attempted.Faithful earlier) ∧
    (∀ address held, registry.slots.content address = some held → held = lastStored log address) ∧
    ∀ (batch : Batch) (replies : Replies),
      let performance := batch.action.perform replies.quiet registry
      EntriesPrescribe batch.entries batch.attempts ∧
      (∃ made,
        Made batch.attempts log registry performance.exchanges performance.state made) ∧
      ∀ commands, batch = .extended commands →
        performance.state.slots.content = registry.slots.content := by
  refine ⟨fun _ _ _ => logged.faithful, logged.recalls, ?_⟩
  intro batch replies performance
  have ended : (batch.action.start registry).Ends Eq performance.exchanges performance.value
      performance.state := Action.perform_ends (fun _ _ _ => rfl) _ registry
  obtain ⟨made, attempts⟩ := logged.batch batch ended
  refine ⟨entriesPrescribe_attempts batch.entries, ⟨made, attempts⟩, ?_⟩
  rintro commands rfl
  exact attempts.same_contents

end Attempts

/-- A device that rejects every call: the handle is stored all the same, and the next batch that
reuses the slot hands it over. -/
theorem SlotLog.reads_last_stored_rejected :
    let native : NativeHandle := ⟨⟨7⟩, [], []⟩
    let address : SlotAddress := ⟨⟨0⟩, .clientTarget, 0⟩
    let replies := ({} : SimulatedDevice).replies fun _ => true
    let registry := ((∅ : Registry).addDisplay ⟨0⟩ false 1 0).2
    let target (handle : Option NativeHandle) : ClientTarget := { buffer := { slot := 0, handle } }
    let storing : Batch := .regular [{ display := ⟨0⟩, clientTarget := some (target native) }]
    let reusing : Batch := .extended [{ display := ⟨0⟩, clientTarget := some (target none) }]
    let stored := storing.action.perform replies.quiet registry
    let reused := reusing.action.perform replies.quiet stored.state
    (∃ log, SlotLog log stored.state ∧ lastStored log address = some native ∧
      EntriesPrescribe reusing.entries reusing.attempts ∧
      ∃ made, Made reusing.attempts log stored.state reused.exchanges reused.state made) ∧
    stored.exchanges = [⟨.importBuffer native, Except.ok ()⟩,
      ⟨.device (.setDisplay ⟨0⟩ (.clientTarget (some native) none {} [])),
        Except.error .unsupported⟩] ∧
    reused.exchanges = [⟨.device (.setDisplay ⟨0⟩ (.clientTarget (some native) none {} [])),
        Except.error .unsupported⟩] := by
  intro native address replies registry target storing reusing stored reused
  have alters : SlotOperation.Alters (.addDisplay ⟨0⟩ false 1 0) := trivial
  have begun := SlotLog.start.alter alters replies
  obtain ⟨-, -, goesOn⟩ := reads_last_stored begun
  obtain ⟨-, ⟨made, first⟩, -⟩ := goesOn storing replies
  have content : stored.state.slots.content address = some (some native) := by
    simp only [stored, registry]
    cbv
  obtain ⟨-, recalls, further⟩ := reads_last_stored first.logged
  obtain ⟨prescribed, ⟨others, second⟩, -⟩ := further reusing replies
  refine ⟨⟨_, first.logged, (recalls address _ content).symm, prescribed, others, second⟩, ?_, ?_⟩
  · simp only [stored, registry]
    cbv
  · simp only [reused, stored, registry]
    cbv

end Scanout
