import Mathlib.Algebra.BigOperators.Group.Multiset.Basic
import Mathlib.Tactic.Abel
import Scanout.Action

/-!
Accounting for references. Between two requests an action may move references about, between the
state and its own hands, but it can neither make nor lose one: references come in when an importer
grants one and go out when one is freed. `Run.Accounts` says this of an execution in progress, under
whatever the surroundings do to the state while they answer, and `Action.Carries` of an action from
its start, with the references it has in hand before and after.
-/

namespace Scanout

/-- The references that come in with a reply. -/
def Request.granted (request : Request) (reply : request.Reply) : Multiset NativeHandle :=
  match request, reply with
  | .importBuffer native, .ok () => {native}
  | _, _ => 0

/-- The references that go out with a request. -/
def Request.returned : Request → Multiset NativeHandle
  | .freeBuffer native => {native}
  | _ => 0

/-- The references that come with handles, in no order. -/
def heldBy (handles : List Handle) : Multiset NativeHandle := referencesOf handles

@[simp] theorem heldBy_nil : heldBy [] = 0 := rfl

@[simp] theorem heldBy_append (first second : List Handle) :
    heldBy (first ++ second) = heldBy first + heldBy second := by
  simp [heldBy, referencesOf]

theorem heldBy_cons (handle : Handle) (handles : List Handle) :
    heldBy (handle :: handles) = heldBy [handle] + heldBy handles :=
  heldBy_append [handle] handles

/-- What the account of an operation has to know about the states that it works on. -/
structure Books (σ : Type) where
  /-- The references that a state holds. -/
  owned : σ → Multiset NativeHandle
  /-- What every operation finds and leaves. -/
  Sound : σ → Prop
  /-- What this operation finds whenever it goes on, since the others leave it alone. -/
  Relies : σ → Prop
  /-- What this operation may do to a state, as far as the others can tell. -/
  Permits : σ → σ → Prop
  refl : ∀ state, Permits state state
  trans : ∀ {first second third}, Permits first second → Permits second third →
    Permits first third

/-- The operation itself leaves alone what it relies on. -/
def Books.Stable {σ : Type} (books : Books σ) : Prop :=
  ∀ {before after}, books.Permits before after → books.Relies before → books.Relies after

/-- An execution in progress that went on in state `start` and is answerable for `total`: what that
state holds and what the execution has in hand, which is one of `hands` whenever it stops. The hand
is the same however the surroundings change the state. -/
def Run.Accounts {σ α : Type} (books : Books σ) (hands : Multiset NativeHandle → Prop)
    (settled : α → σ → Multiset NativeHandle → Prop) :
    Run σ α → σ → Multiset NativeHandle → Prop
  | .done value state, start, total =>
      books.Sound state ∧ books.Permits start state ∧ settled value state total
  | .ask request state resume, start, total =>
      books.Sound state ∧ books.Permits start state ∧ books.Relies state ∧
        ∃ hand, hands hand ∧ total = books.owned state + hand ∧
          ∀ reply after, books.Sound after → books.Relies after →
            ∃ rest, books.owned after + hand + request.granted reply = rest + request.returned ∧
              (resume reply after).Accounts books hands settled after rest

section

variable {σ α β : Type} {books : Books σ} {hands : Multiset NativeHandle → Prop}

namespace Run

variable {settled : α → σ → Multiset NativeHandle → Prop} {run : Run σ α} {start : σ}
  {total : Multiset NativeHandle}

theorem Accounts.from_earlier {earlier : σ} (permitted : books.Permits earlier start)
    (accounts : run.Accounts books hands settled start total) :
    run.Accounts books hands settled earlier total := by
  cases run with
  | done value state =>
      obtain ⟨sound, step, outcome⟩ := accounts
      exact ⟨sound, books.trans permitted step, outcome⟩
  | ask request state resume =>
      obtain ⟨sound, step, further⟩ := accounts
      exact ⟨sound, books.trans permitted step, further⟩

theorem Accounts.andThen {settled : β → σ → Multiset NativeHandle → Prop} {run : Run σ α}
    {next : α → σ → Run σ β}
    (accounts : run.Accounts books hands
      (fun value state rest => (next value state).Accounts books hands settled state rest) start total) :
    (run.andThen next).Accounts books hands settled start total := by
  induction run generalizing start total with
  | done value state =>
      obtain ⟨_, step, further⟩ := accounts
      exact further.from_earlier step
  | ask request state resume ih =>
      obtain ⟨sound, step, relied, hand, held, same, further⟩ := accounts
      refine ⟨sound, step, relied, hand, held, same, ?_⟩
      intro reply after soundAfter reliedAfter
      obtain ⟨rest, balance, resumed⟩ := further reply after soundAfter reliedAfter
      exact ⟨rest, balance, ih reply after resumed⟩

theorem Accounts.imp {other : α → σ → Multiset NativeHandle → Prop}
    (implies : ∀ value state rest, books.Sound state → settled value state rest →
      other value state rest)
    (accounts : run.Accounts books hands settled start total) :
    run.Accounts books hands other start total := by
  induction run generalizing start total with
  | done value state =>
      obtain ⟨sound, step, outcome⟩ := accounts
      exact ⟨sound, step, implies _ _ _ sound outcome⟩
  | ask request state resume ih =>
      obtain ⟨sound, step, relied, hand, held, same, further⟩ := accounts
      refine ⟨sound, step, relied, hand, held, same, ?_⟩
      intro reply after soundAfter reliedAfter
      obtain ⟨rest, balance, resumed⟩ := further reply after soundAfter reliedAfter
      exact ⟨rest, balance, ih reply after resumed⟩

/-- Where the operation leaves alone what it relies on, it still finds it at the end. -/
theorem Accounts.relied (stable : books.Stable) (relied : books.Relies start)
    (accounts : run.Accounts books hands settled start total) :
    run.Accounts books hands
      (fun value state rest => books.Relies state ∧ settled value state rest) start total := by
  induction run generalizing start total with
  | done value state =>
      obtain ⟨sound, step, outcome⟩ := accounts
      exact ⟨sound, step, stable step relied, outcome⟩
  | ask request state resume ih =>
      obtain ⟨sound, step, reliedHere, hand, held, same, further⟩ := accounts
      refine ⟨sound, step, reliedHere, hand, held, same, ?_⟩
      intro reply after soundAfter reliedAfter
      obtain ⟨rest, balance, resumed⟩ := further reply after soundAfter reliedAfter
      exact ⟨rest, balance, ih reply after reliedAfter resumed⟩

/-- What an execution has in hand besides stays there. -/
theorem Accounts.frame (extra : Multiset NativeHandle)
    (closed : ∀ hand, hands hand → hands (hand + extra))
    (accounts : run.Accounts books hands settled start total) :
    run.Accounts books hands (fun value state rest =>
      ∃ own, rest = own + extra ∧ settled value state own) start (total + extra) := by
  induction run generalizing start total with
  | done value state =>
      obtain ⟨sound, step, outcome⟩ := accounts
      exact ⟨sound, step, total, rfl, outcome⟩
  | ask request state resume ih =>
      obtain ⟨sound, step, relied, hand, held, same, further⟩ := accounts
      refine ⟨sound, step, relied, hand + extra, closed hand held, by rw [same, add_assoc], ?_⟩
      intro reply after soundAfter reliedAfter
      obtain ⟨rest, balance, resumed⟩ := further reply after soundAfter reliedAfter
      refine ⟨rest + extra, ?_, ih reply after resumed⟩
      calc books.owned after + (hand + extra) + request.granted reply
          = (books.owned after + hand + request.granted reply) + extra := by abel
        _ = rest + extra + request.returned := by rw [balance]; abel

end Run

namespace Action

/-- The action, begun on a given state with `hand`, ends with something that is `left`. -/
def CarriesFrom (books : Books σ) (start : σ) (hand : Multiset NativeHandle)
    (left : α → Multiset NativeHandle → Prop) (action : Action σ α) : Prop :=
  (action.start start).Accounts books (fun _ => True)
    (fun value state total => ∃ rest, left value rest ∧ total = books.owned state + rest)
    start (books.owned start + hand)

/-- The action, begun on any state with `hand`, ends with something that is `left`. -/
def Carries (books : Books σ) (hand : Multiset NativeHandle)
    (left : α → Multiset NativeHandle → Prop) (action : Action σ α) : Prop :=
  ∀ start, books.Sound start → books.Relies start → action.CarriesFrom books start hand left

/-- The action begins and ends with empty hands. -/
def Neutral (books : Books σ) (action : Action σ α) : Prop :=
  action.Carries books 0 fun _ rest => rest = 0

variable {hand rest : Multiset NativeHandle} {left : α → Multiset NativeHandle → Prop}
  {start : σ}

theorem Carries.pure {value : α} (settled : left value hand) :
    (pure value : Action σ α).Carries books hand left := by
  intro start sound _
  exact ⟨sound, books.refl start, hand, settled, rfl⟩

theorem CarriesFrom.bind {first : Action σ α} {next : α → Action σ β}
    {last : β → Multiset NativeHandle → Prop} (stable : books.Stable)
    (relied : books.Relies start) (carried : first.CarriesFrom books start hand left)
    (further : ∀ value rest, left value rest → (next value).Carries books rest last) :
    (first >>= next).CarriesFrom books start hand last := by
  refine Run.Accounts.andThen (Run.Accounts.imp ?_ (Run.Accounts.relied stable relied carried))
  rintro value state total sound ⟨reliedHere, rest, middle, rfl⟩
  exact further value rest middle state sound reliedHere

theorem Carries.bind {first : Action σ α} {next : α → Action σ β}
    {last : β → Multiset NativeHandle → Prop} (stable : books.Stable)
    (carried : first.Carries books hand left)
    (further : ∀ value rest, left value rest → (next value).Carries books rest last) :
    (first >>= next).Carries books hand last :=
  fun start sound relied => (carried start sound relied).bind stable relied further

theorem Carries.imp {action : Action σ α} {other : α → Multiset NativeHandle → Prop}
    (implies : ∀ value rest, left value rest → other value rest)
    (carried : action.Carries books hand left) : action.Carries books hand other := by
  intro start sound relied
  refine Run.Accounts.imp ?_ (carried start sound relied)
  rintro value state total _ ⟨rest, outcome, same⟩
  exact ⟨rest, implies value rest outcome, same⟩

theorem Carries.frame {action : Action σ α}
    (carried : action.Carries books hand left) (extra : Multiset NativeHandle) :
    action.Carries books (hand + extra) fun value rest =>
      ∃ own, rest = own + extra ∧ left value own := by
  intro start sound relied
  have framed := Run.Accounts.frame extra (fun _ _ => trivial) (carried start sound relied)
  rw [CarriesFrom, ← add_assoc]
  refine Run.Accounts.imp ?_ framed
  rintro value state total _ ⟨_, rfl, own, outcome, rfl⟩
  exact ⟨own + extra, ⟨own, rfl, outcome⟩, add_assoc _ _ _⟩

theorem Carries.get {body : σ → Action σ β} {last : β → Multiset NativeHandle → Prop}
    (further : ∀ state, books.Sound state → books.Relies state →
      (body state).CarriesFrom books state hand last) :
    (MonadState.get >>= body : Action σ β).Carries books hand last := further

/-- Replaces the state, and takes what that sets free in hand. -/
theorem CarriesFrom.set {state : σ} {body : Action σ β} {last : β → Multiset NativeHandle → Prop}
    (permitted : books.Permits start state)
    (balance : books.owned start + hand = books.owned state + rest)
    (further : body.CarriesFrom books state rest last) :
    (MonadStateOf.set state >>= fun _ => body : Action σ β).CarriesFrom books start hand last := by
  have continued := Run.Accounts.from_earlier permitted further
  rw [← balance] at continued
  exact continued

theorem Carries.modifyGet {change : σ → α × σ}
    (changed : ∀ state, books.Sound state → books.Relies state →
      books.Sound (change state).2 ∧ books.Permits state (change state).2 ∧
        ∃ rest, left (change state).1 rest ∧
          books.owned state + hand = books.owned (change state).2 + rest) :
    (MonadState.modifyGet change : Action σ α).Carries books hand left := by
  intro start sound relied
  exact changed start sound relied

/-- A request that brings no reference in and takes none out. -/
theorem Carries.ask {request : Request} (granted : ∀ reply, request.granted reply = 0)
    (returned : request.returned = 0) :
    (ask request : Action σ _).Carries books hand fun _ rest => rest = hand := by
  intro start sound relied
  refine ⟨sound, books.refl start, relied, hand, trivial, rfl, ?_⟩
  intro reply after soundAfter _
  refine ⟨books.owned after + hand, ?_, soundAfter, books.refl after, hand, rfl, rfl⟩
  rw [granted, returned]

theorem Carries.importBuffer (native : NativeHandle) :
    (Action.ask (Request.importBuffer native) : Action σ (Except BufferError Unit)).Carries books hand
      fun reply rest => rest = hand + Request.granted (.importBuffer native) reply := by
  intro start sound relied
  refine ⟨sound, books.refl start, relied, hand, trivial, rfl, ?_⟩
  intro reply after soundAfter _
  refine ⟨books.owned after + (hand + Request.granted (.importBuffer native) reply), ?_,
    soundAfter, books.refl after, _, rfl, rfl⟩
  rw [← add_assoc]
  exact (add_zero _).symm

theorem Carries.freeBuffer (native : NativeHandle) :
    (Action.ask (Request.freeBuffer native) : Action σ Unit).Carries books ({native} + hand)
      fun _ rest => rest = hand := by
  intro start sound relied
  refine ⟨sound, books.refl start, relied, {native} + hand, trivial, rfl, ?_⟩
  intro reply after soundAfter _
  refine ⟨books.owned after + hand, ?_, soundAfter, books.refl after, hand, rfl, rfl⟩
  change books.owned after + ({native} + hand) + 0 = books.owned after + hand + {native}
  abel

theorem Carries.call (call : DeviceCall) :
    (Action.call call : Action σ call.Reply).Carries books hand fun _ rest => rest = hand :=
  .ask (fun _ => rfl) rfl

theorem Carries.release (stable : books.Stable) (handles : List Handle) :
    (Action.release handles : Action σ Unit).Carries books (heldBy handles + hand)
      fun _ rest => rest = hand := by
  unfold Action.release heldBy
  induction referencesOf handles with
  | nil => exact .pure (by rw [Multiset.coe_nil, zero_add])
  | cons native natives ih =>
      rw [← Multiset.cons_coe, ← Multiset.singleton_add, add_assoc]
      refine .bind stable (.freeBuffer native) ?_
      rintro _ _ rfl
      exact ih

theorem Carries.release_pure (stable : books.Stable) (handles : List Handle) (value : α) :
    (Action.release handles >>= fun _ => Pure.pure value : Action σ α).Carries books
      (heldBy handles) fun _ rest => rest = 0 := by
  rw [← add_zero (heldBy handles)]
  refine .bind stable (.release stable handles) ?_
  rintro _ _ rfl
  exact .pure rfl

theorem Neutral.pure (value : α) : (Pure.pure value : Action σ α).Neutral books := by
  intro start sound _
  exact ⟨sound, books.refl start, 0, rfl, rfl⟩

theorem Neutral.get {body : σ → Action σ β} (further : ∀ state, (body state).Neutral books) :
    (MonadState.get >>= body : Action σ β).Neutral books :=
  fun start sound relied => further start start sound relied

theorem Neutral.modify {change : σ → σ}
    (changed : ∀ state, books.Sound state → books.Relies state → books.Sound (change state) ∧
      books.Permits state (change state) ∧ books.owned (change state) = books.owned state) :
    (modify change : Action σ Unit).Neutral books := by
  intro start sound relied
  obtain ⟨kept, step, same⟩ := changed start sound relied
  exact ⟨kept, step, 0, rfl, congrArg (· + 0) same.symm⟩

theorem Neutral.forM {each : α → Action σ Unit} (stable : books.Stable) (list : List α)
    (neutral : ∀ value ∈ list, (each value).Neutral books) : (list.forM each).Neutral books := by
  induction list with
  | nil => exact .pure ()
  | cons value rest ih =>
      refine Carries.bind stable (neutral value (List.mem_cons_self ..)) ?_
      rintro _ _ rfl
      exact ih fun other member => neutral other (List.mem_cons_of_mem _ member)

theorem Neutral.bind {first : Action σ α} {next : α → Action σ β} (stable : books.Stable)
    (neutral : first.Neutral books) (further : ∀ value, (next value).Neutral books) :
    (first >>= next).Neutral books := by
  refine Carries.bind stable neutral ?_
  rintro value _ rfl
  exact further value

theorem Neutral.carries {action : Action σ α}
    (neutral : action.Neutral books) (hand : Multiset NativeHandle) :
    action.Carries books hand fun _ rest => rest = hand := by
  have framed := Carries.frame neutral hand
  rw [zero_add] at framed
  refine framed.imp ?_
  rintro _ _ ⟨_, rfl, rfl⟩
  exact zero_add hand

end Action

end

/-- The account of a part of a state, in the account of the whole. -/
structure Books.Part {σ τ : Type} (inner : Books σ) (outer : Books τ) (part : τ → σ)
    (replace : σ → τ → τ) (beside : τ → Multiset NativeHandle) : Prop where
  part_replace : ∀ state whole, part (replace state whole) = state
  beside_replace : ∀ state whole, beside (replace state whole) = beside whole
  owned : ∀ whole, outer.owned whole = inner.owned (part whole) + beside whole
  part_sound : ∀ {whole}, outer.Sound whole → inner.Sound (part whole)
  part_relies : ∀ {whole}, outer.Relies whole → inner.Relies (part whole)
  sound : ∀ {state whole}, outer.Sound whole → outer.Relies whole → inner.Sound state →
    outer.Sound (replace state whole)
  relies : ∀ {state whole}, outer.Relies whole → inner.Relies state →
    outer.Relies (replace state whole)
  permits : ∀ {state whole}, inner.Permits (part whole) state →
    outer.Permits whole (replace state whole)

section

variable {σ τ α : Type} {inner : Books σ} {outer : Books τ} {part : τ → σ} {replace : σ → τ → τ}
  {beside : τ → Multiset NativeHandle} {hands : Multiset NativeHandle → Prop} {whole : τ}

theorem Run.Accounts.within {settled : α → σ → Multiset NativeHandle → Prop}
    {total : Multiset NativeHandle} {run : Run σ α}
    (lens : inner.Part outer part replace beside) (sound : outer.Sound whole)
    (relied : outer.Relies whole) (accounts : run.Accounts inner hands settled (part whole) total) :
    (run.within part replace whole).Accounts outer hands
      (fun value state sum =>
        ∃ total, settled value (part state) total ∧ sum = total + beside state)
      whole (total + beside whole) := by
  induction run generalizing whole total with
  | done value state =>
      obtain ⟨soundPart, step, outcome⟩ := accounts
      refine ⟨lens.sound sound relied soundPart, lens.permits step, total, ?_, ?_⟩
      · rwa [lens.part_replace]
      · rw [lens.beside_replace]
  | ask request state resume ih =>
      obtain ⟨soundPart, step, reliedPart, hand, held, rfl, further⟩ := accounts
      refine ⟨lens.sound sound relied soundPart, lens.permits step, lens.relies relied reliedPart,
        hand, held, ?_, ?_⟩
      · rw [lens.owned, lens.part_replace, lens.beside_replace, add_right_comm]
      intro reply after soundAfter reliedAfter
      obtain ⟨rest, moved, resumed⟩ :=
        further reply (part after) (lens.part_sound soundAfter) (lens.part_relies reliedAfter)
      refine ⟨rest + beside after, ?_, ih reply (part after) soundAfter reliedAfter resumed⟩
      calc outer.owned after + hand + request.granted reply
          = inner.owned (part after) + hand + request.granted reply + beside after := by
            rw [lens.owned]
            abel
        _ = rest + beside after + request.returned := by rw [moved, add_right_comm]

theorem Action.Carries.within {hand : Multiset NativeHandle}
    {left : α → Multiset NativeHandle → Prop} {action : Action σ α}
    (lens : inner.Part outer part replace beside) (carried : action.Carries inner hand left) :
    (action.within part replace).Carries outer hand left := by
  intro whole sound relied
  have accounts := Run.Accounts.within lens sound relied
    (carried (part whole) (lens.part_sound sound) (lens.part_relies relied))
  rw [add_right_comm, ← lens.owned] at accounts
  refine Run.Accounts.imp ?_ accounts
  rintro value state _ _ ⟨_, ⟨rest, outcome, rfl⟩, rfl⟩
  exact ⟨rest, outcome, by rw [lens.owned, add_right_comm]⟩

end

end Scanout
