import Scanout.Proofs.Clients.Serving

/-!
The departure of a client. It hears of nothing more and makes no calls, so its displays stay as they
are until it retires them, one by one. The device is asked to destroy what is on each display and the
display itself, or to show its last frame, and nothing that it answers keeps the rest from being
retired.
-/

namespace Scanout

/-- How the device is asked to let a display go, or to show its last frame. -/
inductive Retired (display : DisplayId) : Bool → List Exchange → Prop where
  | virtual (answer : Except Status Unit) :
      Retired display true [⟨.device (.destroyVirtualDisplay display), answer⟩]
  | invalid (status : Status) :
      Retired display false [⟨.device (.commitOrPrepare display true), Except.error status⟩]
  | shown (outcome : CommitOutcome) (accepted : Except Status Unit)
      (presented : Except Status (Option Fence)) :
      Retired display false
        [⟨.device (.commitOrPrepare display true), Except.ok outcome⟩,
          ⟨.device (.acceptChanges display), accepted⟩, ⟨.device (.present display), presented⟩]

/-- How the device is asked to let go of displays with their layers: first every layer of a display,
whatever comes of it, then the display. -/
inductive TornDown : List (DisplayId × Bool × List LayerId) → List Exchange → Prop where
  | nil : TornDown [] []
  | cons {display : DisplayId} {isVirtual : Bool} {layers : List LayerId}
      {roster : List (DisplayId × Bool × List LayerId)} {cleared last rest : List Exchange}
      (destroyed : cleared.map Exchange.request =
        layers.map fun layer => .device (.destroyLayer display layer))
      (retired : Retired display isVirtual last) (others : TornDown roster rest) :
      TornDown ((display, isVirtual, layers) :: roster) (cleared ++ last ++ rest)

namespace World

variable {before world after : World} {id : ClientId} {submitting : List CaptureTicket}
  {history : List Note} {known : DisplayId → Option Outline} {display : DisplayId}

/-- A client in the middle of its departure, with the displays that are left. -/
structure Departing (before : World) (id : ClientId) (submitting : List CaptureTicket)
    (history : List Note) (known : DisplayId → Option Outline) (world : World) : Prop where
  tidy : world.Tidy submitting
  occupant : world.occupant = some id
  underway : world.underway = .departure id :: before.underway
  spared : ∀ worker?, before.Delivers worker? →
    before.service.captures.Spared worker? world.service.captures
  history : world.history = history
  outline : ∀ display, (world.service.registry id).outline display = known display

namespace Departing

variable (departing : Departing before id submitting history known world)

include departing

theorem departs : .departure id ∈ world.underway := by
  rw [departing.underway]
  exact List.mem_cons_self

theorem meddled {request : Request} (meddled : request.Meddles Proceeds world after) :
    Departing before id submitting history known after := by
  unfold Request.Meddles at meddled
  split at meddled
  · rwa [meddled]
  · obtain ⟨tidy, lasting⟩ := meddled submitting departing.tidy
    obtain ⟨same, outline⟩ := lasting.departing id departing.departs departing.occupant
    refine ⟨tidy, ?_, ?_, ?_, same.trans departing.history, ?_⟩
    · exact lasting.staying id (.inr departing.departs) departing.occupant
    · exact lasting.underway.trans departing.underway
    · intro worker? delivers
      apply (departing.spared worker? delivers).trans
      apply lasting.spared
      intro session worker own
      rw [departing.underway]
      exact List.mem_cons_of_mem _ (delivers session worker own)
    · intro display
      exact (outline display).trans (departing.outline display)

/-- A display goes, with its session or one that is left behind. -/
theorem lose {registry : Registry} {captures : Pipeline}
    (gone : ∀ other, registry.outline other =
      if display = other then none else (world.service.registry id).outline other)
    (reached : ∃ events, CaptureState.Reaches events ⟨captures, submitting⟩)
    (fewer : ∀ other, captures.hasSession other = true →
      world.service.captures.hasSession other = true)
    (left : captures.hasSession display = true → LeftBehind display history)
    (spared : ∀ worker?, world.service.captures.Spared worker? captures) :
    Departing before id submitting history (fun other => if display = other then none else known other)
      ((world.withRegistry id registry).withCaptures captures) := by
  have unnoted : ((world.withRegistry id registry).withCaptures captures).noted [] =
      (world.withRegistry id registry).withCaptures captures := by
    simp [noted, withCaptures, withRegistry]
  refine ⟨?_, departing.occupant, departing.underway, ?_, departing.history, ?_⟩
  · rw [← unnoted]
    apply departing.tidy.lose gone reached fewer
    · intro other session reason
      rw [List.append_nil]
      cases reason with
      | inl same =>
          rw [same] at session ⊢
          rw [departing.history]
          exact left session
      | inr behind => exact behind
    · simp
    · intro stays
      exact absurd departing.departs stays
  · intro worker? delivers
    exact (departing.spared worker? delivers).trans (spared worker?)
  · intro other
    have outline := registry_withRegistry world id id registry
    rw [if_pos rfl] at outline
    change ((world.withRegistry id registry).service.registry id).outline other = _
    rw [outline, gone, departing.outline]

theorem uncaptured (display : DisplayId) :
    Departing before id submitting history known
      (world.withCaptures (world.service.captures.removeDisplay display)) := by
  refine ⟨?_, departing.occupant, departing.underway, ?_, departing.history, departing.outline⟩
  · apply departing.tidy.captured (departing.tidy.step .remove)
    intro other session
    rw [Pipeline.hasSession_removeDisplay, Bool.and_eq_true] at session
    exact .inl session.2
  · intro worker? delivers
    apply (departing.spared worker? delivers).trans
    exact departing.tidy.spared (@CaptureState.Step.remove _ display) (by simp) worker?

end Departing

section Retiring

variable {α : Type} {isVirtual : Bool} {layers : List LayerId}

theorem assures_destroyLayers (departing : Departing before id submitting history known world) :
    (onService (layers.forM fun layer => do
      let _ ← Action.call (.destroyLayer display layer))).Assures (Request.Meddles Proceeds) world
        fun exchanges _ after => calls exchanges = exchanges ∧
          exchanges.map Exchange.request =
            layers.map (fun layer => .device (.destroyLayer display layer)) ∧
          Departing before id submitting history known after := by
  induction layers generalizing world with
  | nil => exact assures_pure ⟨rfl, rfl, departing⟩
  | cons layer layers ih =>
      rw [List.forM, bind_assoc]
      refine assures_call ?_
      intro reply asked meddled
      refine Action.Assures.imp (ih (departing.meddled meddled)) ?_
      intro cleared _ after destroyed
      obtain ⟨device, requests, departing⟩ := destroyed
      exact ⟨by simp [device], by simp [requests], departing⟩

theorem assures_dropped (departing : Departing before id submitting history known world)
    (left : world.service.captures.hasSession display = true → LeftBehind display history) :
    (onService (do let _ ← Service.dropDisplay id display)).Assures (Request.Meddles Proceeds) world
      fun exchanges _ after => calls exchanges = [] ∧ Departing before id submitting history
        (fun other => if display = other then none else known other) after := by
  rw [onService_bind]
  apply Action.Assures.bind
  apply assures_dropDisplay
  intro answer registry exchanges gone references
  apply assures_pure
  refine ⟨by simpa using calls_of_references references, ?_⟩
  exact departing.lose gone departing.tidy.captures (fun _ session => session) left fun worker? => .refl worker? _

theorem assures_presentFinally (departing : Departing before id submitting history known world) :
    (onService (Service.presentFinally display)).Assures (Request.Meddles Proceeds) world
      fun exchanges _ after => calls exchanges = exchanges ∧ Retired display false exchanges ∧
        Departing before id submitting history known after := by
  refine assures_call ?_
  intro answer validated meddled
  have departing := departing.meddled meddled
  cases answer with
  | error status => exact assures_pure ⟨rfl, .invalid status, departing⟩
  | ok outcome =>
      refine assures_call ?_
      intro accepted after meddled
      have departing := departing.meddled meddled
      refine assures_call ?_
      intro presented final meddled
      exact assures_pure ⟨rfl, .shown outcome accepted presented, departing.meddled meddled⟩

/-- The display of a departing client is retired, and forgotten. -/
theorem assures_retireDisplay (departing : Departing before id submitting history known world)
    (left : isVirtual = false → LeftBehind display history) :
    (onService (Service.retireDisplay id display isVirtual layers)).Assures
      (Request.Meddles Proceeds) world fun exchanges _ after =>
        (∃ cleared last, calls exchanges = cleared ++ last ∧
          cleared.map Exchange.request =
            layers.map (fun layer => .device (.destroyLayer display layer)) ∧
          Retired display isVirtual last) ∧
        Departing before id submitting history
          (fun other => if display = other then none else known other) after := by
  unfold Service.retireDisplay
  rw [onService_bind]
  apply Action.Assures.bind
  refine Action.Assures.imp (assures_destroyLayers departing) ?_
  intro cleared _ world destroyed
  obtain ⟨device, requests, departing⟩ := destroyed
  have retires {last dropped : List Exchange} (retired : Retired display isVirtual last)
      (asked : calls last = last) (silent : calls dropped = []) :
      ∃ first second, calls (cleared ++ (last ++ dropped)) = first ++ second ∧
        first.map Exchange.request =
          layers.map (fun layer => .device (.destroyLayer display layer)) ∧
        Retired display isVirtual second :=
    ⟨cleared, last, by simp [device, asked, silent], requests, retired⟩
  cases isVirtual with
  | true =>
      refine assures_call ?_
      intro answer after meddled
      have departing := (departing.meddled meddled).uncaptured display
      refine assures_modify ?_
      refine Action.Assures.imp (assures_dropped departing ?_) ?_
      · intro session
        simp [Pipeline.hasSession_removeDisplay] at session
      · intro dropped _ final ended
        exact ⟨retires (.virtual answer) rfl ended.1, ended.2⟩
  | false =>
      rw [if_neg Bool.false_ne_true, onService_bind]
      apply Action.Assures.bind
      refine Action.Assures.imp (assures_presentFinally departing) ?_
      intro last _ after presented
      obtain ⟨asked, retired, departing⟩ := presented
      refine Action.Assures.imp (assures_dropped departing fun _ => left rfl) ?_
      intro dropped _ final ended
      exact ⟨retires retired asked ended.1, ended.2⟩

/-- Whatever the device answers, all displays of the roster are retired. -/
theorem assures_retireDisplays {roster : List (DisplayId × Bool × List LayerId)}
    (departing : Departing before id submitting history known world)
    (left : ∀ display layers, (display, false, layers) ∈ roster → LeftBehind display history) :
    (onService (roster.forM fun (display, isVirtual, layers) =>
      Service.retireDisplay id display isVirtual layers)).Assures (Request.Meddles Proceeds) world
        fun exchanges _ after => TornDown roster (calls exchanges) ∧
          Departing before id submitting history
            (fun display => if display ∈ roster.map Prod.fst then none else known display) after := by
  induction roster generalizing known world with
  | nil => exact assures_pure ⟨.nil, by simpa using departing⟩
  | cons entry roster ih =>
      obtain ⟨display, isVirtual, layers⟩ := entry
      rw [List.forM, onService_bind]
      apply Action.Assures.bind
      have own : isVirtual = false → LeftBehind display history := by
        rintro rfl
        exact left display layers List.mem_cons_self
      refine Action.Assures.imp (assures_retireDisplay departing own) ?_
      intro first _ middle retired
      obtain ⟨⟨cleared, last, asked, requests, retired⟩, departing⟩ := retired
      have others : ∀ display layers, (display, false, layers) ∈ roster → LeftBehind display history :=
        fun display layers member => left display layers (List.mem_cons_of_mem _ member)
      refine Action.Assures.imp (ih departing others) ?_
      intro rest _ after ended
      obtain ⟨tornDown, departing⟩ := ended
      constructor
      · rw [calls_append, asked]
        exact .cons requests retired tornDown
      · refine { departing with outline := ?_ }
        intro other
        rw [departing.outline]
        simp only [List.map_cons, List.mem_cons]
        grind

end Retiring

section Whole

theorem mem_retirements {note : Note} : note ∈ before.retirements id ↔
    ∃ display isVirtual, note = .retired id display isVirtual ∧
      ∃ outline, (before.service.registry id).outline display = some outline ∧
        outline.isVirtual = isVirtual := by
  have lists := Registry.lists_snapshot (before.service.registry id)
  constructor
  · intro member
    obtain ⟨⟨display, isVirtual, layers⟩, listed, rfl⟩ := List.mem_map.mp member
    exact ⟨display, isVirtual, rfl, (lists.displays display isVirtual).mp ⟨layers, listed⟩⟩
  · intro retired
    obtain ⟨display, isVirtual, rfl, there⟩ := retired
    obtain ⟨layers, listed⟩ := (lists.displays display isVirtual).mpr there
    exact List.mem_map.mpr ⟨(display, isVirtual, layers), listed, rfl⟩

/-- The physical displays of a client that departs are left behind. -/
theorem leftBehind_retirements {outline : Outline}
    (there : (before.service.registry id).outline display = some outline)
    (physical : outline.isVirtual = false) :
    LeftBehind display (before.history ++ before.retirements id) := by
  have noted : .retired id display false ∈ before.retirements id :=
    mem_retirements.mpr ⟨display, false, rfl, outline, there, physical⟩
  obtain ⟨earlier, later, split⟩ := List.append_of_mem noted
  refine ⟨before.history ++ earlier, _, later, by rw [split, List.append_assoc], ⟨id, rfl⟩, ?_⟩
  intro note member settles
  have listed : note ∈ before.retirements id := by
    rw [split]
    exact List.mem_append_right _ (List.mem_cons_of_mem _ member)
  obtain ⟨other, isVirtual, rfl, found, known, same⟩ := mem_retirements.mp listed
  obtain ⟨client, settles⟩ := settles
  simp only [Note.retired.injEq, reduceCtorEq, false_or] at settles
  obtain ⟨-, rfl, rfl⟩ := settles
  rw [there] at known
  cases known
  simp [physical] at same

/-- A display that the client does not have is not retired. -/
theorem leftBehind_of_not_houses (behind : LeftBehind display before.history)
    (absent : ¬before.Houses id display) :
    LeftBehind display (before.history ++ before.retirements id) := by
  apply Outstanding.append behind
  intro note member settles
  obtain ⟨other, isVirtual, rfl, outline, found, -⟩ := mem_retirements.mp member
  obtain ⟨client, settles⟩ := settles
  simp only [Note.retired.injEq, reduceCtorEq, false_or] at settles
  rw [settles.2.1] at found
  apply absent
  rw [houses_iff, found]
  rfl

/-- The client has noted what it retires and hears of nothing any more. -/
def leaving (world : World) (id : ClientId) : World :=
  { (world.pushed (.departure id)).noted (world.retirements id) with
    service := world.service.modifyClient id fun client => { client with eventsEnabled := false } }

theorem registry_leaving (other : ClientId) :
    (before.leaving id).service.registry other = before.service.registry other := by
  apply Service.registry_modifyClient_of_same
  intro _
  rfl

theorem tidy_leaving (tidy : before.Tidy submitting) (serves : before.Serves id) :
    (before.leaving id).Tidy submitting := by
  have houses (other : ClientId) (display : DisplayId) :
      (before.leaving id).Houses other display ↔ before.Houses other display :=
    houses_congr (congrArg (·.outline display) (registry_leaving other))
  constructor
  case captures => exact tidy.captures
  case occupied => exact tidy.occupied
  case listening =>
    intro other enabled
    by_cases same : id = other
    · simp [leaving, Service.client_modifyClient, same] at enabled
    · have listened : (before.service.client other).eventsEnabled = true := by
        simpa [leaving, Service.client_modifyClient, same] using enabled
      have served := (tidy.listening other listened).1
      rw [serves.1] at served
      exact absurd (Option.some.inj served) same
  case housed =>
    intro other display there
    exact tidy.housed other display ((houses other display).mp there)
  case shown =>
    intro display session
    cases tidy.shown display session with
    | inl there =>
        obtain ⟨other, there⟩ := there
        exact .inl ⟨other, (houses other display).mpr there⟩
    | inr behind =>
        by_cases there : before.Houses id display
        · exact .inl ⟨id, (houses id display).mpr there⟩
        · exact .inr (leftBehind_of_not_houses behind there)
  case tracked =>
    intro other stays
    have stays : other ≠ id ∧ .departure other ∉ before.underway := by
      simpa [leaving, noted, pushed] using stays
    have others : ∀ note ∈ before.retirements id, note.client ≠ other := by
      intro note member
      obtain ⟨_, _, rfl, _⟩ := mem_retirements.mp member
      exact stays.1.symm
    intro display
    rw [registry_leaving]
    change _ = recorded other (before.history ++ before.retirements id) display
    rw [recorded_append_of_other others]
    exact tidy.tracked other stays.2 display

theorem departing_leaving (tidy : before.Tidy submitting) (serves : before.Serves id) :
    Departing before id submitting (before.history ++ before.retirements id)
      (before.service.registry id).outline (before.leaving id) where
  tidy := tidy_leaving tidy serves
  occupant := serves.1
  underway := rfl
  spared worker? _ := .refl worker? _
  history := rfl
  outline display := by rw [registry_leaving]

/-- The client slot is free, and nobody is in it. -/
def departed (world : World) : World :=
  { world.popped with service := { world.service with occupied := false }, occupant := none }

section Departed

variable {world : World}

theorem Departing.tidy_departed (departing : Departing before id submitting
      (before.history ++ before.retirements id) (fun _ => none) world)
    (tidy : before.Tidy submitting) (serves : before.Serves id) : world.departed.Tidy submitting := by
  have empty (other : ClientId) (display : DisplayId) : ¬world.Houses other display := by
    intro there
    have housed := departing.tidy.housed other display there
    rw [departing.occupant] at housed
    cases housed
    rw [houses_iff, departing.outline] at there
    cases there
  constructor
  case captures => exact departing.tidy.captures
  case occupied => exact fun _ occupant => by cases occupant
  case listening =>
    intro other enabled
    obtain ⟨occupant, stays⟩ := departing.tidy.listening other enabled
    rw [departing.occupant] at occupant
    cases occupant
    exact absurd departing.departs stays
  case housed =>
    intro other display there
    exact absurd there (empty other display)
  case shown =>
    intro display session
    cases departing.tidy.shown display session with
    | inl there => exact absurd there.choose_spec (empty _ display)
    | inr behind => exact .inr behind
  case tracked =>
    intro other stays
    have stays : .departure other ∉ before.underway := by
      simpa [World.departed, popped, departing.underway] using stays
    by_cases same : other = id
    · intro display
      rw [same]
      change (world.service.registry id).outline display = recorded id world.history display
      rw [departing.outline, departing.history, recorded_append_retired]
      · intro note member
        obtain ⟨display, isVirtual, rfl, -⟩ := mem_retirements.mp member
        exact ⟨display, isVirtual, rfl⟩
      · intro outline known
        rw [← tidy.tracked id serves.2] at known
        exact ⟨outline.isVirtual,
          mem_retirements.mpr ⟨display, outline.isVirtual, rfl, outline, known, rfl⟩⟩
    · exact departing.tidy.tracked other (by simp [departing.underway, same, stays])

/-- Of those around the departure none is of the same client. -/
theorem Departing.lasting_departed
    (departing : Departing before id submitting history known world) (serves : before.Serves id)
    (idle : .call id ∉ before.underway) : before.Lasting world.departed where
  underway := by simp [World.departed, popped, departing.underway]
  arriving vacant := by simp [serves.1] at vacant
  staying other engaged occupant := by
    rw [serves.1] at occupant
    cases occupant
    cases engaged with
    | inl calls => exact absurd calls idle
    | inr departs => exact absurd departs serves.2
  departing other departs occupant := by
    rw [serves.1] at occupant
    cases occupant
    exact absurd departs serves.2
  spared := departing.spared

end Departed

/-- A departure goes through, whatever the device answers and whatever is done in the meantime. -/
theorem assures_dropClient (tidy : before.Tidy submitting) (serves : before.Serves id)
    (idle : .call id ∉ before.underway) :
    (ServiceCall.dropClient id).action.Assures (Request.Meddles Proceeds) before
      fun exchanges _ after => Stage before submitting after ∧
        after.occupant = none ∧ (∀ display, (after.service.registry id).outline display = none) ∧
        ∃ roster rest, Registry.Lists (before.service.registry id).outline roster ∧
          calls exchanges = ⟨.device (.setEventReceiver none), ()⟩ :: rest ∧
          TornDown roster rest := by
  apply Action.Assures.bind
  apply Action.Assures.modify
  apply Action.Assures.bind
  apply Action.Assures.bind
  apply Action.Assures.modify
  apply Action.Assures.bind
  unfold Service.dropClient
  refine assures_modify ?_
  refine assures_call ?_
  intro _ told meddled
  have departing := (departing_leaving tidy serves).meddled meddled
  have outline : (told.service.registry id).outline = (before.service.registry id).outline :=
    funext departing.outline
  have lists := Registry.lists_snapshot (told.service.registry id)
  rw [outline] at lists
  refine assures_get ?_
  rw [onService_bind]
  apply Action.Assures.bind
  refine Action.Assures.imp (assures_retireDisplays departing ?_) ?_
  · intro display layers listed
    obtain ⟨outline, there, physical⟩ := (lists.displays display false).mp ⟨layers, listed⟩
    exact leftBehind_retirements there physical
  · intro exchanges _ retired ended
    obtain ⟨tornDown, departing⟩ := ended
    have departing : Departing before id submitting (before.history ++ before.retirements id)
        (fun _ => none) retired := by
      refine { departing with outline := ?_ }
      intro display
      rw [departing.outline]
      cases known : (before.service.registry id).outline display with
      | none => simp
      | some outline =>
          obtain ⟨layers, listed⟩ :=
            (lists.displays display outline.isVirtual).mpr ⟨outline, known, rfl⟩
          exact if_pos (List.mem_map_of_mem listed)
    apply Action.Assures.modify
    apply Action.Assures.modify
    apply Action.Assures.modify
    have stage : Stage before submitting retired.departed :=
      ⟨departing.tidy_departed tidy serves, departing.lasting_departed serves idle⟩
    refine ⟨stage, rfl, departing.outline, _, _, lists, ?_, tornDown⟩
    simp

end Whole

end World
end Scanout
