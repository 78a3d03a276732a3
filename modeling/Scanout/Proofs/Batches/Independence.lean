import Mathlib
import Scanout.Proofs.Batches.Turns
import Scanout.Proofs.References.Batches
import Scanout.Proofs.References.Conservation

/-!
Displays are independent of each other. With a device that keeps them apart, and as long as no import
is refused, what the entries of a display come to is not affected by entries of other displays in
between: a batch projects to each display. So batches whose entries differ in order, but not in the
order of the entries of any one display, come to the same.
-/

namespace Scanout

variable {α : Type} {replies : Replies} {display : DisplayId}

/-- The calls about the display. -/
def callsFor (display : DisplayId) (requests : List Request) : List Request :=
  requests.filter fun request => request.display? = some display

@[simp] theorem callsFor_append (first second : List Request) :
    callsFor display (first ++ second) = callsFor display first ++ callsFor display second :=
  List.filter_append ..

/-- What the device answers about a display depends on the calls about that display only. -/
def Replies.Separate (replies : Replies) : Prop :=
  ∀ (display : DisplayId) (call : DeviceCall) (here there : List Request),
    call.display? = some display → callsFor display here = callsFor display there →
      replies here (.device call) = replies there (.device call)

section Granting

/-- The importer has not refused a buffer. -/
def Exchange.Granted (exchange : Exchange) : Prop :=
  ∀ native (reason : BufferError), exchange ≠ ⟨.importBuffer native, Except.error reason⟩

/-- The same replies, but from an importer that refuses nothing. -/
def Replies.granting (replies : Replies) : Replies := fun past request =>
  match request with
  | .importBuffer _ => .ok ()
  | .device call => replies past (.device call)
  | .freeBuffer _ | .notify .. | .captured .. | .awaitDeparture _ => ()

/-- An importer that refuses nothing has refused nothing. -/
theorem Run.play_granted {σ : Type} (grants : ∀ past native, replies past (.importBuffer native) = .ok ())
    (run : Run σ α) (past : List Request) :
    ∀ exchange ∈ (run.play replies past).exchanges, exchange.Granted := by
  induction run generalizing past with
  | done value state => exact fun _ member => nomatch member
  | ask request state resume ih =>
      intro exchange member
      cases List.mem_cons.mp member with
      | inl same =>
          intro native reason refused
          rw [same] at refused
          injection refused with asked replied
          subst asked
          exact absurd (eq_of_heq replied) (by simp [grants])
      | inr later => exact ih _ state (past ++ [request]) exchange later

theorem Run.play_granting {σ : Type} {run : Run σ α} {past : List Request}
    (granted : ∀ exchange ∈ (run.play replies past).exchanges, exchange.Granted) :
    run.play replies.granting past = run.play replies past := by
  induction run generalizing past with
  | done value state => rfl
  | ask request state resume ih =>
      have here := granted _ List.mem_cons_self
      have later : ∀ exchange ∈ ((resume (replies past request) state).play replies
          (past ++ [request])).exchanges, exchange.Granted := by
        intro exchange member
        exact granted exchange (List.mem_cons_of_mem _ member)
      have same : replies.granting past request = replies past request := by
        cases request with
        | importBuffer native =>
            cases reply : replies past (.importBuffer native) with
            | ok _ => rfl
            | error reason => exact absurd (by rw [reply]) (here native reason)
        | _ => rfl
      simp only [play, same, ih _ _ later]

theorem Turns.granting {past : List Request} {registry final : Registry} {entries : List Entry}
    {groups : List (List Payload)} {exchanges : List Exchange}
    (turns : Turns replies past registry entries groups exchanges final)
    (granted : ∀ exchange ∈ exchanges, exchange.Granted) :
    Turns replies.granting past registry entries groups exchanges final := by
  induction turns with
  | nil => exact .nil
  | cons played further ih =>
      have here := fun exchange member => granted exchange (List.mem_append_left _ member)
      have later := fun exchange member => granted exchange (List.mem_append_right _ member)
      rw [← played] at here
      exact .cons ((Run.play_granting here).trans played) (ih later)

/-- The calls about a display are all that matters to what is asked about it. -/
theorem Replies.Separate.agree (separate : replies.Separate) {here there : List Request}
    (same : callsFor display here = callsFor display there) :
    replies.granting.Agree (fun request => ¬request.Concerns display) here replies.granting there := by
  intro after request concerned
  rw [not_not] at concerned
  cases request with
  | device call =>
      have about : call.display? = some display := by
        simpa [Request.Concerns, Request.isReference, Request.display?] using concerned
      apply separate display call _ _ about
      rw [callsFor_append, callsFor_append, same]
  | _ => rfl

end Granting

section Projection

theorem Action.Local.plays {action : Action Registry α} (isLocal : action.Local display) :
    ∃ own : Action (Option Display) α, own.Asks (Request.Concerns display) ∧
      ∀ (replies : Replies) past registry, action.play replies past registry =
        let inner := own.play replies past (registry.find? display)
        ⟨inner.value, registry.place display inner.state, inner.exchanges⟩ := by
  obtain ⟨own, asks, rfl⟩ := isLocal
  refine ⟨own, asks, ?_⟩
  intro replies past registry
  exact Run.play_within (Registry.lens_find display).toFocus _ registry past

namespace Entry

variable (entry : Entry)

/-- An entry does the same wherever its display is the same and was asked the same. -/
theorem play_alike (separate : replies.Separate) {here there : List Request}
    {registry other : Registry} (asked : callsFor entry.display here = callsFor entry.display there)
    (same : registry.find? entry.display = other.find? entry.display) :
    let one := entry.alone.play replies.granting here registry
    let two := entry.alone.play replies.granting there other
    one.value = two.value ∧ one.exchanges = two.exchanges ∧
      one.state.find? entry.display = two.state.find? entry.display := by
  obtain ⟨own, asks, plays⟩ := entry.local_alone.plays
  have alike : own.play replies.granting here (other.find? entry.display) =
      own.play replies.granting there (other.find? entry.display) :=
    Run.play_of_agree (asks _) (separate.agree asked)
  simp only [plays, same, alike, Registry.find?_place, if_true, and_self]

/-- An entry leaves other displays alone. -/
theorem play_apart (different : entry.display ≠ display) (replies : Replies) (past : List Request)
    (registry : Registry) :
    let turn := entry.alone.play replies past registry
    turn.state.find? display = registry.find? display ∧ callsFor display turn.requests = [] := by
  obtain ⟨own, asks, plays⟩ := entry.local_alone.plays
  have concerned := Run.play_requests (asks (registry.find? entry.display)) replies past
  rw [plays]
  constructor
  · rw [Registry.find?_place, if_neg different]
  · apply List.filter_eq_nil_iff.mpr
    intro request member
    cases concerned request member with
    | inl reference => cases request <;> simp_all [Request.isReference, Request.display?]
    | inr about => simp [about, different]

end Entry

variable {past : List Request} {registry final : Registry} {entries : List Entry}
  {groups : List (List Payload)} {exchanges : List Exchange}

/-- The turns of the entries of one display, taken by themselves. -/
theorem Turns.project (display : DisplayId) (separate : replies.Separate)
    (turns : Turns replies.granting past registry entries groups exchanges final)
    {other : List Request} {elsewhere : Registry}
    (asked : callsFor display past = callsFor display other)
    (same : registry.find? display = elsewhere.find? display) :
    ∃ written made left,
      Turns replies.granting other elsewhere (entries.filter (·.display = display)) written made left ∧
      (entries.zip groups).filter (·.1.display = display) =
        (entries.filter (·.display = display)).zip written ∧
      callsFor display (exchanges.map Exchange.request) =
        callsFor display (made.map Exchange.request) ∧
      final.find? display = left.find? display := by
  induction turns generalizing other elsewhere with
  | nil => exact ⟨[], [], elsewhere, .nil, rfl, rfl, same⟩
  | @cons past registry entry rest groups exchanges final turn played further ih =>
      by_cases own : entry.display = display
      · subst own
        obtain ⟨value, exchanged, state⟩ := entry.play_alike separate asked same
        rw [played] at value exchanged state
        let again := entry.alone.play replies.granting other elsewhere
        have requests : turn.requests = again.requests := congrArg (List.map _) exchanged
        have asked : callsFor entry.display (past ++ turn.requests) =
            callsFor entry.display (other ++ again.requests) := by
          rw [callsFor_append, callsFor_append, asked, requests]
        obtain ⟨written, made, left, turns, zipped, calls, reached⟩ := ih asked state
        refine ⟨again.value :: written, again.exchanges ++ made, left, ?_, ?_, ?_, reached⟩
        · rw [List.filter_cons_of_pos (by simp)]
          exact .cons rfl turns
        · simp [zipped, value, again]
        · simp [calls, exchanged, again]
      · obtain ⟨untouched, silent⟩ := entry.play_apart own replies.granting past registry
        rw [played] at untouched silent
        have asked : callsFor display (past ++ turn.requests) = callsFor display other := by
          rw [callsFor_append, silent, List.append_nil, asked]
        obtain ⟨written, made, left, turns, zipped, calls, reached⟩ := ih asked (untouched.trans same)
        refine ⟨written, made, left, ?_, ?_, ?_, reached⟩
        · rwa [List.filter_cons_of_neg (by simpa using own)]
        · simpa [own] using zipped
        · rw [List.map_append, callsFor_append, calls]
          exact congrArg (· ++ _) silent

end Projection

section References

/-- The importer gives the answers that it is asked for. -/
inductive Importer.Serves {κ : Type} (importer : Importer κ) : κ → List Exchange → κ → Prop where
  | nil {state} : Serves importer state [] state
  | cons {before middle after} {request : Request} {reply : request.Reply} {rest : List Exchange}
      (answers : importer.Answers before request reply middle)
      (further : Serves importer middle rest after) :
      Serves importer before (⟨request, reply⟩ :: rest) after

/-- The pool counts what an execution is answerable for, beside what others have. -/
theorem Run.Accounts.counted {σ : Type} {books : Books σ} {hands : Multiset NativeHandle → Prop}
    {settled : α → σ → Multiset NativeHandle → Prop} {run : Run σ α} {start : σ}
    {total : Multiset NativeHandle} {past : List Request} {pool after : Pool} {id : BufferId}
    {others : Nat} (accounts : run.Accounts books hands settled start total)
    (serves : Pool.importer.Serves pool (run.play replies past).exchanges after)
    (counted : pool.refCount id = others + total.countP (·.id = id)) :
    ∃ rest, settled (run.play replies past).value (run.play replies past).state rest ∧
      after.refCount id = others + rest.countP (·.id = id) := by
  induction run generalizing start total past pool with
  | done value state =>
      cases serves
      exact ⟨total, accounts.2.2, counted⟩
  | ask request state resume ih =>
      obtain ⟨sound, -, relied, hand, -, rfl, further⟩ := accounts
      obtain ⟨rest, balance, resumed⟩ := further (replies past request) state sound relied
      cases serves with
      | cons answers serves =>
          have balance := congrArg (Multiset.countP (·.id = id)) balance
          simp only [Multiset.countP_add] at balance counted
          have outstanding : request.returned.countP (·.id = id) ≤ pool.refCount id := by
            cases request.returned_or_granted with
            | inl nothing => simp [nothing]
            | inr nothing =>
                rw [nothing, Multiset.countP_zero] at balance
                omega
          have answered := Pool.refCount_answers answers id outstanding
          apply ih _ _ resumed serves
          omega

theorem Batch.neutral (batch : Batch) : batch.action.Neutral (Registry.books False) := by
  cases batch with
  | regular commands =>
      apply Action.Neutral.bind Registry.books_stable
        (EngineAction.neutral_batch EngineAction.neutral_displayCommand commands {})
      exact fun _ => .pure _
  | extended commands =>
      apply Action.Neutral.bind Registry.books_stable
        (EngineAction.neutral_batch EngineAction.neutral_extendedDisplayCommand commands {})
      exact fun _ => .pure _

/-- After a batch the pool counts what the slots hold, beside what others have. -/
theorem Batch.counted (batch : Batch) {registry final : Registry} {pool after : Pool}
    {id : BufferId} (left : (batch.action.perform replies.quiet registry).state = final)
    (covers : (heldBy registry.handles).countP (·.id = id) ≤ pool.refCount id)
    (serves : Pool.importer.Serves pool (batch.action.perform replies.quiet registry).exchanges
      after) :
    after.refCount id + (heldBy registry.handles).countP (·.id = id) =
      pool.refCount id + (heldBy final.handles).countP (·.id = id) := by
  rw [Action.perform_eq_play] at serves left
  have accounts := batch.neutral registry False.elim trivial
  have counted : pool.refCount id =
      (pool.refCount id - (heldBy registry.handles).countP (·.id = id)) +
        (heldBy registry.handles + 0).countP (·.id = id) := by
    rw [add_zero, Nat.sub_add_cancel covers]
  obtain ⟨rest, ⟨_, rfl, rfl⟩, reached⟩ := accounts.counted serves counted
  change after.refCount id = _ +
    (heldBy (batch.action.play replies [] registry).state.handles + 0).countP (·.id = id) at reached
  rw [left, add_zero] at reached
  omega

end References

/-- The batches have the same entries for each display, in the same order. -/
def Batch.Reorders (first second : Batch) : Prop :=
  ∀ display, first.entries.filter (·.display = display) = second.entries.filter (·.display = display)

/-- Two batches that differ in how the entries of different displays are ordered, executed on the
same registry with a device that keeps displays apart and an importer that refuses nothing, leave the
same registry and the same reference counts, make the same calls about each display, and are answered
the same for each entry, errors by the number of the entry. -/
theorem Batch.displays_independent {first second : Batch} (reordered : first.Reorders second)
    (separate : replies.Separate) (registry : Registry)
    (granted : ∀ batch ∈ [first, second],
      ∀ exchange ∈ (batch.action.perform replies.quiet registry).exchanges, exchange.Granted) :
    let one := first.action.perform replies.quiet registry
    let two := second.action.perform replies.quiet registry
    one.state = two.state ∧
      (∀ display, callsFor display one.requests = callsFor display two.requests) ∧
      (∃ written rewritten,
        Turns replies [] registry first.entries written one.exchanges one.state ∧
        Turns replies [] registry second.entries rewritten two.exchanges two.state ∧
        one.value = answer written ∧ two.value = answer rewritten ∧
        ∀ display, (first.entries.zip written).filter (·.1.display = display) =
          (second.entries.zip rewritten).filter (·.1.display = display)) ∧
      ∀ pool after other : Pool,
        (∀ id, (heldBy registry.handles).countP (·.id = id) ≤ pool.refCount id) →
          Pool.importer.Serves pool one.exchanges after →
            Pool.importer.Serves pool two.exchanges other →
              ∀ id, after.refCount id = other.refCount id := by
  intro one two
  obtain ⟨written, turns, answered⟩ := first.turns replies registry
  obtain ⟨rewritten, returns, reanswered⟩ := second.turns replies registry
  have alike (display : DisplayId) : one.state.find? display = two.state.find? display ∧
      callsFor display one.requests = callsFor display two.requests ∧
      (first.entries.zip written).filter (·.1.display = display) =
        (second.entries.zip rewritten).filter (·.1.display = display) := by
    have granting := turns.granting (granted first (by simp))
    have regranting := returns.granting (granted second (by simp))
    obtain ⟨mine, made, left, own, zipped, calls, reached⟩ :=
      granting.project display separate rfl rfl
    obtain ⟨yours, remade, right, alone, rezipped, recalls, rereached⟩ :=
      regranting.project display separate rfl rfl
    rw [reordered display] at own zipped
    obtain ⟨rfl, rfl, rfl⟩ := own.unique alone
    exact ⟨reached.trans rereached.symm, calls.trans recalls.symm, zipped.trans rezipped.symm⟩
  have state : one.state = two.state := Registry.ext_find fun display => (alike display).1
  refine ⟨state, fun display => (alike display).2.1,
    ⟨written, rewritten, turns, returns, answered, reanswered, fun display => (alike display).2.2⟩, ?_⟩
  intro pool after other covers serves reserves id
  have counted := first.counted state (covers id) serves
  have recounted := second.counted rfl (covers id) reserves
  exact Nat.add_right_cancel (counted.trans recounted.symm)

/-- Two displays are given the same buffer, the second of them for a slot that it does not have. The
error goes with its entry, and its buffer is given back whichever entry comes first. -/
theorem Batch.displays_independent_swapped :
    let native : NativeHandle := ⟨⟨7⟩, [], []⟩
    let target (slot : Nat) : ClientTarget := { buffer := { slot, handle := some native } }
    let here : DisplayCommand := { display := ⟨0⟩, clientTarget := some (target 0) }
    let there : DisplayCommand := { display := ⟨1⟩, clientTarget := some (target 5) }
    let registry := (((∅ : Registry).addDisplay ⟨0⟩ false 1 0).2.addDisplay ⟨1⟩ false 1 0).2
    let replies := ({} : SimulatedDevice).replies fun _ => false
    let perform (batch : Batch) := batch.action.perform replies.quiet registry
    (perform (.regular [here, there])).value = .ok [.error 1 .badParameter] ∧
      (perform (.regular [there, here])).value = .ok [.error 0 .badParameter] ∧
      (perform (.regular [here, there])).state = (perform (.regular [there, here])).state ∧
      (perform (.regular [there, here])).requests =
        [.importBuffer native, .device (.setDisplay ⟨1⟩ (.clientTarget (some native) none {} [])),
          .freeBuffer native, .importBuffer native,
          .device (.setDisplay ⟨0⟩ (.clientTarget (some native) none {} []))] := by
  intro native target here there registry replies perform
  have reordered : (regular [here, there]).Reorders (regular [there, here]) := by
    intro display
    by_cases first : display = ⟨0⟩
    · simp [first, entries, Entry.display, here, there]
    · simp [entries, Entry.display, here, there, List.filter_cons, Ne.symm first]
  have separate : replies.Separate := fun _ _ _ _ _ _ => rfl
  have granted : ∀ batch ∈ [regular [here, there], regular [there, here]],
      ∀ exchange ∈ (batch.action.perform replies.quiet registry).exchanges, exchange.Granted := by
    intro batch _
    rw [Action.perform_eq_play]
    exact Run.play_granted (fun _ _ => rfl) _ []
  obtain ⟨state, -⟩ := displays_independent reordered separate registry granted
  -- The performances are unfolded first, so that they are evaluated as they stand.
  refine ⟨?_, ?_, state, ?_⟩ <;> simp only [perform] <;> cbv

end Scanout
