import Scanout.Proofs.Surroundings

/-!
Executions that are re-entered. What the surroundings may do to the state depends on the request:
a device may come back with other operations, an importer does not. `Run.Finishes` says how an
execution can come to its end under that, and `Action.Assures` is a statement about all its ends.
Where an action works on a part of a larger state, it is the larger state that is meddled with.
-/

namespace Scanout

variable {σ τ α β : Type}

/-- The importer is asked, which does not come back with other operations. -/
def Request.isReference : Request → Bool
  | .importBuffer _ | .freeBuffer _ => true
  | .device _ | .notify .. | .captured .. | .awaitDeparture _ => false

def Request.isCall : Request → Bool
  | .device _ => true
  | .importBuffer _ | .freeBuffer _ | .notify .. | .captured .. | .awaitDeparture _ => false

/-- What is exchanged with the device. -/
def calls (exchanges : List Exchange) : List Exchange :=
  exchanges.filter fun exchange => exchange.request.isCall

@[simp] theorem calls_append (first second : List Exchange) :
    calls (first ++ second) = calls first ++ calls second := List.filter_append ..

@[simp] theorem calls_cons_device (call : DeviceCall) (reply : call.Reply) (rest : List Exchange) :
    calls (⟨.device call, reply⟩ :: rest) = ⟨.device call, reply⟩ :: calls rest := rfl

theorem calls_of_references {exchanges : List Exchange}
    (references : ∀ exchange ∈ exchanges, exchange.request.isReference) : calls exchanges = [] := by
  apply List.filter_eq_nil_iff.mpr
  intro exchange member
  have reference := references exchange member
  cases named : exchange.request <;> simp_all [Request.isReference, Request.isCall]

/-- The surroundings change the state as they may, except at requests to the importer. -/
def Request.Meddles (may : σ → σ → Prop) (request : Request) (before after : σ) : Prop :=
  if request.isReference then after = before else may before after

theorem Request.Meddles.refl {may : σ → σ → Prop} (stays : ∀ state, may state state)
    (request : Request) (state : σ) : request.Meddles may state state := by
  unfold Meddles
  split
  · rfl
  · exact stays state

theorem Request.Meddles.imp {may permits : σ → σ → Prop} {request : Request} {before after : σ}
    (implies : ∀ before after, may before after → permits before after)
    (meddled : request.Meddles may before after) : request.Meddles permits before after := by
  unfold Meddles at meddled ⊢
  split
  · rwa [if_pos ‹_›] at meddled
  · rw [if_neg ‹_›] at meddled
    exact implies before after meddled

namespace Run

/-- An execution can end so, if the surroundings reply as listed and meddle with the state at most
as they may at each request. -/
inductive Finishes (meddles : Request → σ → σ → Prop) : Run σ α → List Exchange → α → σ → Prop where
  | done (value : α) (state : σ) : Finishes meddles (.done value state) [] value state
  | ask {request : Request} {state after final : σ} {resume : request.Reply → σ → Run σ α}
      {exchanges : List Exchange} {value : α} (reply : request.Reply)
      (meddled : meddles request state after)
      (further : Finishes meddles (resume reply after) exchanges value final) :
      Finishes meddles (.ask request state resume) (⟨request, reply⟩ :: exchanges) value final

/-- However an execution finishes, it finishes as stated. -/
def Assures (meddles : Request → σ → σ → Prop) (post : List Exchange → α → σ → Prop)
    (run : Run σ α) : Prop :=
  ∀ exchanges value final, run.Finishes meddles exchanges value final → post exchanges value final

variable {meddles : Request → σ → σ → Prop} {post : List Exchange → α → σ → Prop} {run : Run σ α}

theorem Finishes.imp {permits : Request → σ → σ → Prop} {exchanges : List Exchange} {value : α}
    {final : σ}
    (implies : ∀ request before after, meddles request before after → permits request before after)
    (finished : run.Finishes meddles exchanges value final) :
    run.Finishes permits exchanges value final := by
  induction finished with
  | done value state => exact .done value state
  | ask reply meddled further ih => exact .ask reply (implies _ _ _ meddled) ih

/-- Surroundings that leave the state alone meddle no more than they may. -/
theorem Ends.finishes {exchanges : List Exchange} {value : α} {final : σ}
    (ended : run.Ends (· = ·) exchanges value final)
    (stays : ∀ request state, meddles request state state) :
    run.Finishes meddles exchanges value final := by
  induction ended with
  | done value state => exact .done value state
  | ask reply same further ih => exact .ask reply (same ▸ stays _ _) ih

theorem Assures.done {value : α} {state : σ} (holds : post [] value state) :
    (done value state).Assures meddles post := by
  intro exchanges value final finished
  cases finished
  exact holds

theorem Assures.ask {request : Request} {state : σ} {resume : request.Reply → σ → Run σ α}
    (further : ∀ reply after, meddles request state after →
      (resume reply after).Assures meddles fun exchanges => post (⟨request, reply⟩ :: exchanges)) :
    (Run.ask request state resume).Assures meddles post := by
  intro exchanges value final finished
  cases finished with
  | ask reply meddled rest => exact further reply _ meddled _ _ _ rest

theorem Assures.imp {other : List Exchange → α → σ → Prop} (assured : run.Assures meddles post)
    (implies : ∀ exchanges value final, post exchanges value final → other exchanges value final) :
    run.Assures meddles other := fun exchanges value final finished =>
  implies exchanges value final (assured exchanges value final finished)

theorem Assures.andThen {next : α → σ → Run σ β} {last : List Exchange → β → σ → Prop}
    (assured : run.Assures meddles fun first value middle =>
      (next value middle).Assures meddles fun rest => last (first ++ rest)) :
    (run.andThen next).Assures meddles last := by
  induction run generalizing last with
  | done value state => exact assured [] value state (.done value state)
  | ask request state resume ih =>
      apply Assures.ask
      intro reply after meddled
      apply ih
      intro first value middle finished
      exact assured (⟨request, reply⟩ :: first) value middle (.ask reply meddled finished)

/-- Every stretch of an execution, from where it goes on to the next request or the end, changes
the state at most as stated. -/
def Abides (permits : σ → σ → Prop) : Run σ α → σ → Prop
  | .done _ state, start => permits start state
  | .ask _ state resume, start => permits start state ∧
      ∀ reply after, (resume reply after).Abides permits after

section Abides

variable {permits : σ → σ → Prop} {start : σ}

theorem Abides.from_earlier {earlier : σ}
    (trans : ∀ {first second third}, permits first second → permits second third →
      permits first third) (permitted : permits earlier start) (abides : run.Abides permits start) :
    run.Abides permits earlier := by
  cases run with
  | done value state => exact trans permitted abides
  | ask request state resume => exact ⟨trans permitted abides.1, abides.2⟩

theorem Abides.andThen {next : α → σ → Run σ β}
    (trans : ∀ {first second third}, permits first second → permits second third →
      permits first third) (abides : run.Abides permits start)
    (further : ∀ value state, (next value state).Abides permits state) :
    (run.andThen next).Abides permits start := by
  induction run generalizing start with
  | done value state => exact (further value state).from_earlier trans abides
  | ask request state resume ih => exact ⟨abides.1, fun reply after => ih reply after (abides.2 reply after)⟩

/-- Whatever the stretches of an execution on a part of a state keep, and the surroundings keep,
is kept in the end. -/
theorem Abides.assures_within {part : τ → σ} {replace : σ → τ → τ} (kept : τ → Prop)
    {meddles : Request → τ → τ → Prop} {whole : τ}
    (stretch : ∀ whole state, permits (part whole) state → kept whole → kept (replace state whole))
    (meddled : ∀ request before after, meddles request before after → kept before → kept after)
    (abides : run.Abides permits (part whole)) (holds : kept whole) :
    (run.within part replace whole).Assures meddles fun _ _ final => kept final := by
  induction run generalizing whole with
  | done value state => exact .done (stretch whole state abides holds)
  | ask request state resume ih =>
      apply Assures.ask
      intro reply after changed
      have holds := meddled _ _ _ changed (stretch whole state abides.1 holds)
      exact ih reply (part after) (abides.2 reply (part after)) holds

end Abides
end Run

/-- A part of a larger state that can be replaced. -/
structure Focus (part : τ → σ) (replace : σ → τ → τ) : Prop where
  part_replace : ∀ state whole, part (replace state whole) = state
  replace_replace : ∀ state other whole, replace state (replace other whole) = replace state whole

/-- A part that is always there. -/
structure Lens (part : τ → σ) (replace : σ → τ → τ) : Prop extends Focus part replace where
  replace_part : ∀ whole, replace (part whole) whole = whole

namespace Run

variable {part : τ → σ} {replace : σ → τ → τ}

theorem within_replace (focus : Focus part replace) (run : Run σ α) (state : σ) (whole : τ) :
    run.within part replace (replace state whole) = run.within part replace whole := by
  cases run <;> simp only [within, focus.replace_replace]

theorem within_andThen (focus : Focus part replace) (run : Run σ α) (next : α → σ → Run σ β)
    (whole : τ) :
    (run.andThen next).within part replace whole =
      (run.within part replace whole).andThen fun value after =>
        (next value (part after)).within part replace after := by
  induction run generalizing whole with
  | done value state =>
      simp only [andThen, within, focus.part_replace, within_replace focus]
  | ask request state resume ih =>
      simp only [andThen, within]
      congr
      funext reply after
      exact ih reply (part after) after

theorem within_within {ρ : Type} (inner : σ → ρ) (replaceInner : ρ → σ → σ) (run : Run ρ α)
    (whole : τ) :
    (run.within inner replaceInner (part whole)).within part replace whole =
      run.within (fun whole => inner (part whole))
        (fun state whole => replace (replaceInner state (part whole)) whole) whole := by
  induction run generalizing whole with
  | done value state => rfl
  | ask request state resume ih =>
      simp only [within]
      congr
      funext reply after
      exact ih reply (inner (part after)) after

end Run

namespace Action

theorem within_bind {part : τ → σ} {replace : σ → τ → τ} (focus : Focus part replace)
    (first : Action σ α) (next : α → Action σ β) :
    (first >>= next).within part replace =
      first.within part replace >>= fun value => (next value).within part replace :=
  ext fun whole => Run.within_andThen focus (first.start (part whole)) _ whole

/-- A request is the same on the whole as on a part. -/
theorem within_ask {part : τ → σ} {replace : σ → τ → τ} (lens : Lens part replace) (request : Request) :
    (ask request : Action σ _).within part replace = ask request := by
  apply ext
  intro whole
  simp only [start, ask, within, Run.within, lens.replace_part]

theorem within_within {ρ : Type} (inner : σ → ρ) (replaceInner : ρ → σ → σ) (part : τ → σ)
    (replace : σ → τ → τ) (action : Action ρ α) :
    (action.within inner replaceInner).within part replace =
      action.within (fun whole => inner (part whole))
        fun state whole => replace (replaceInner state (part whole)) whole :=
  ext fun whole => Run.within_within inner replaceInner (action.start (inner (part whole))) whole

variable {meddles : Request → σ → σ → Prop} {start : σ} {post : List Exchange → α → σ → Prop}

/-- However the action finishes that is begun on `start`, it finishes as stated. -/
def Assures (meddles : Request → σ → σ → Prop) (start : σ) (post : List Exchange → α → σ → Prop)
    (action : Action σ α) : Prop :=
  (action.start start).Assures meddles post

theorem Assures.pure {value : α} (holds : post [] value start) :
    (pure value : Action σ α).Assures meddles start post := Run.Assures.done holds

theorem Assures.bind {first : Action σ α} {next : α → Action σ β}
    {last : List Exchange → β → σ → Prop}
    (assured : first.Assures meddles start fun before value middle =>
      (next value).Assures meddles middle fun rest => last (before ++ rest)) :
    (first >>= next).Assures meddles start last := Run.Assures.andThen assured

theorem Assures.imp {action : Action σ α} {other : List Exchange → α → σ → Prop}
    (assured : action.Assures meddles start post)
    (implies : ∀ exchanges value final, post exchanges value final → other exchanges value final) :
    action.Assures meddles start other := Run.Assures.imp assured implies

theorem Assures.modify {change : σ → σ} {post : List Exchange → Unit → σ → Prop}
    (holds : post [] () (change start)) :
    (modify change : Action σ Unit).Assures meddles start post := Run.Assures.done holds

theorem Assures.get {next : σ → Action σ α} (assured : (next start).Assures meddles start post) :
    (MonadState.get >>= next : Action σ α).Assures meddles start post := assured

section Within

variable {part : τ → σ} {replace : σ → τ → τ} {whole : τ} {meddles : Request → τ → τ → Prop}
  {post : List Exchange → β → τ → Prop}

theorem Assures.within_pure (settled : replace (part whole) whole = whole) {value : β}
    (holds : post [] value whole) :
    ((Pure.pure value : Action σ β).within part replace).Assures meddles whole post := by
  have ended : ((Pure.pure value : Action σ β).within part replace).start whole = .done value whole :=
    congrArg (Run.done value) settled
  unfold Assures
  rw [ended]
  exact .done holds

theorem Assures.within_get {next : σ → Action σ β}
    (further : ((next (part whole)).within part replace).Assures meddles whole post) :
    ((MonadState.get >>= next).within part replace).Assures meddles whole post := further

theorem Assures.within_modifyGet (focus : Focus part replace) {change : σ → α × σ}
    {next : α → Action σ β}
    (further : ((next (change (part whole)).1).within part replace).Assures meddles
      (replace (change (part whole)).2 whole) post) :
    ((MonadState.modifyGet change >>= next).within part replace).Assures meddles whole post := by
  rw [within_bind focus]
  exact Assures.bind (Run.Assures.done further)

theorem Assures.within_set (focus : Focus part replace) {state : σ} {next : PUnit → Action σ β}
    (further : ((next ⟨⟩).within part replace).Assures meddles (replace state whole) post) :
    ((MonadStateOf.set state >>= next).within part replace).Assures meddles whole post := by
  rw [within_bind focus]
  exact Assures.bind (Run.Assures.done further)

theorem Assures.within_ask (lens : Lens part replace) {request : Request}
    {next : request.Reply → Action σ β}
    (further : ∀ reply after, meddles request whole after →
      ((next reply).within part replace).Assures meddles after
        fun exchanges => post (⟨request, reply⟩ :: exchanges)) :
    ((Action.ask request >>= next).within part replace).Assures meddles whole post := by
  rw [within_bind lens.toFocus, Action.within_ask lens]
  apply Assures.bind
  exact .ask fun reply after meddled => .done (further reply after meddled)

/-- What is let go goes to the importer, which leaves the state alone. -/
theorem Assures.within_release (focus : Focus part replace)
    (settled : replace (part whole) whole = whole) {may : τ → τ → Prop} {handles : List Handle}
    {next : Unit → Action σ β}
    (further : ∀ exchanges : List Exchange,
      (∀ exchange ∈ exchanges, exchange.request.isReference) →
      ((next ()).within part replace).Assures (Request.Meddles may) whole
        fun rest => post (exchanges ++ rest)) :
    ((release handles >>= next).within part replace).Assures (Request.Meddles may) whole post := by
  rw [within_bind focus]
  apply Assures.bind
  have released (natives : List NativeHandle) {last : List Exchange → Unit → τ → Prop}
      (holds : ∀ exchanges : List Exchange,
        (∀ exchange ∈ exchanges, exchange.request.isReference) → last exchanges () whole) :
      ((natives.forM fun native => Action.ask (.freeBuffer native) : Action σ Unit).within part
        replace).Assures (Request.Meddles may) whole last := by
    induction natives generalizing last with
    | nil => exact .within_pure settled (holds [] (by simp))
    | cons native natives ih =>
        apply Run.Assures.ask
        intro reply after left
        obtain rfl : after = whole := left.trans settled
        apply ih
        intro exchanges references
        apply holds
        simpa [Request.isReference] using references
  exact released _ further

end Within

end Action
end Scanout
