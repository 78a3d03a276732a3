import Scanout.Proofs.Play

/-!
Executions that are interrupted once. While the device looks at their first call another action runs
to its end, and then the device replies; whatever else is asked is answered at once. The action in
between has the state that the call was made on, and the execution goes on with the state that the
action leaves.
-/

namespace Scanout

/-- What is exchanged when an execution is interrupted in a call. -/
structure Interruption where
  earlier : List Exchange
  /-- The call and, in the end, the reply to it. -/
  call : Exchange
  /-- By the action that interrupts. -/
  within : List Exchange
  later : List Exchange

variable {σ τ α : Type} {meanwhile : Action σ Unit} {interruption : Interruption}
  {value answer : α} {state final : σ}

namespace Run

variable {run : Run σ α} {post : Interruption → α → σ → Prop}

/-- The execution can end so, if the action runs within its first call. -/
inductive Interrupted (meanwhile : Action σ Unit) : Run σ α → Interruption → α → σ → Prop where
  | aside {request : Request} {state final : σ} {resume : request.Reply → σ → Run σ α}
      {interruption : Interruption} {answer : α} (reply : request.Reply)
      (plain : request.isCall = false)
      (further : Interrupted meanwhile (resume reply state) interruption answer final) :
      Interrupted meanwhile (.ask request state resume)
        { interruption with earlier := ⟨request, reply⟩ :: interruption.earlier } answer final
  | call {call : DeviceCall} {state middle final : σ} {resume : call.Reply → σ → Run σ α}
      {within later : List Exchange} {answer : α} (reply : call.Reply)
      (meantime : (meanwhile.start state).Ends Eq within () middle)
      (further : (resume reply middle).Ends Eq later answer final) :
      Interrupted meanwhile (.ask (.device call) state resume) ⟨[], ⟨.device call, reply⟩, within, later⟩
        answer final

theorem exists_ends (run : Run σ α) : ∃ exchanges value final, run.Ends Eq exchanges value final := by
  let surroundings : Surroundings σ := (({} : SimulatedDevice).replies fun _ => false).quiet
  have quiet (past : List Exchange) (request : Request) (state : σ) :
      state = (surroundings past request state).2 := rfl
  obtain ⟨exchanges, -, ended⟩ := ends_interpret quiet run []
  exact ⟨exchanges, _, _, ended⟩

theorem exists_interrupted (meanwhile : Action σ Unit) {call : DeviceCall} (reply : call.Reply)
    (state : σ) (resume : call.Reply → σ → Run σ α) : ∃ within later answer final,
      (ask (.device call) state resume).Interrupted meanwhile
        ⟨[], ⟨.device call, reply⟩, within, later⟩ answer final := by
  obtain ⟨within, _, middle, meantime⟩ := (meanwhile.start state).exists_ends
  obtain ⟨later, answer, final, rest⟩ := (resume reply middle).exists_ends
  exact ⟨within, later, answer, final, .call reply meantime rest⟩

/-- An execution that calls the device can be interrupted at its first call, whatever the replies to it
and before it are, and comes to an end all the same. -/
theorem Ends.interrupted {exchanges : List Exchange} (ended : run.Ends Eq exchanges value final)
    (meanwhile : Action σ Unit) : calls exchanges = [] ∨ ∃ interruption answer after,
      run.Interrupted meanwhile interruption answer after ∧
        interruption.earlier ++ [interruption.call] <+: exchanges := by
  induction ended with
  | done value state => exact .inl rfl
  | @ask request state _ _ resume _ _ reply same further ih =>
      subst same
      cases request with
      | device call =>
          obtain ⟨within, later, answer, after, interrupted⟩ :=
            exists_interrupted meanwhile reply state resume
          exact .inr ⟨_, answer, after, interrupted, by simp⟩
      | _ =>
          refine ih.imp (fun silent => silent) ?_
          rintro ⟨interruption, answer, after, interrupted, begins⟩
          exact ⟨_, answer, after, .aside reply rfl interrupted, List.cons_prefix_cons.mpr ⟨rfl, begins⟩⟩

/-- However the execution is interrupted by the action, it ends as stated. -/
structure Withstands (meanwhile : Action σ Unit) (post : Interruption → α → σ → Prop)
    (run : Run σ α) : Prop where
  returns {exchanges : List Exchange} {value : α} {final : σ}
    (ended : run.Ends Eq exchanges value final) : calls exchanges = [] ∨
      ∃ interruption answer after, run.Interrupted meanwhile interruption answer after ∧
        interruption.earlier ++ [interruption.call] <+: exchanges
  holds {interruption : Interruption} {answer : α} {final : σ}
    (interrupted : run.Interrupted meanwhile interruption answer final) :
    post interruption answer final

theorem Withstands.intro (holds : ∀ interruption answer final,
    run.Interrupted meanwhile interruption answer final → post interruption answer final) :
    run.Withstands meanwhile post where
  returns ended := ended.interrupted meanwhile
  holds interrupted := holds _ _ _ interrupted

/-- What does not call the device is not interrupted. -/
theorem Withstands.of_asks (asks : run.Asks fun request => request.isCall = false) :
    run.Withstands meanwhile post := by
  apply Withstands.intro
  intro interruption answer final interrupted
  apply False.elim
  induction interrupted with
  | aside reply _ _ ih => exact ih (asks.2 reply _)
  | call => cases asks.1

theorem Withstands.aside {request : Request} {resume : request.Reply → σ → Run σ α}
    (plain : request.isCall = false)
    (further : ∀ reply, (resume reply state).Withstands meanwhile fun interruption =>
      post { interruption with earlier := ⟨request, reply⟩ :: interruption.earlier }) :
    (ask request state resume).Withstands meanwhile post := by
  apply Withstands.intro
  intro interruption answer final interrupted
  cases interrupted with
  | aside reply _ rest => exact (further reply).holds rest
  | call => cases plain

theorem Withstands.call {call : DeviceCall} {resume : call.Reply → σ → Run σ α}
    (further : ∀ reply, (meanwhile.start state).Ensures Eq fun within _ middle =>
      (resume reply middle).Ensures Eq fun later =>
        post ⟨[], ⟨.device call, reply⟩, within, later⟩) :
    (ask (.device call) state resume).Withstands meanwhile post := by
  apply Withstands.intro
  intro interruption answer final interrupted
  cases interrupted with
  | aside _ plain => cases plain
  | call reply meantime rest => exact further reply _ _ _ meantime _ _ _ rest

theorem Ends.of_within {part : τ → σ} {replace : σ → τ → τ} (focus : Focus part replace) {whole last : τ}
    {exchanges : List Exchange} (ended : (run.within part replace whole).Ends Eq exchanges value last) :
    ∃ final, run.Ends Eq exchanges value final ∧ last = replace final whole := by
  induction run generalizing whole exchanges with
  | done value state =>
      cases ended
      exact ⟨state, .done _ state, rfl⟩
  | ask request state resume ih =>
      cases ended with
      | ask reply same further =>
          subst same
          obtain ⟨final, ended, rfl⟩ := ih reply _ further
          rw [focus.part_replace] at ended
          exact ⟨final, .ask reply rfl ended, focus.replace_replace _ _ _⟩

end Run

namespace Action

theorem withstands_call {call : DeviceCall} {next : call.Reply → Action σ α}
    {post : Interruption → α → σ → Prop}
    (further : ∀ reply, meanwhile.Ensures Eq state fun within _ middle =>
      (next reply).Ensures Eq middle fun later => post ⟨[], ⟨.device call, reply⟩, within, later⟩) :
    ((Action.call call >>= next).start state).Withstands meanwhile post := .call further

section Within

variable {β : Type} {part : τ → σ} {replace : σ → τ → τ} {meanwhile : Action τ Unit} {whole : τ}
  {post : Interruption → α → τ → Prop}

theorem withstands_within_ask (lens : Lens part replace) {request : Request}
    {next : request.Reply → Action σ α} (plain : request.isCall = false)
    (further : ∀ reply, (((next reply).within part replace).start whole).Withstands meanwhile
      fun interruption =>
        post { interruption with earlier := ⟨request, reply⟩ :: interruption.earlier }) :
    (((ask request >>= next).within part replace).start whole).Withstands meanwhile post := by
  rw [within_bind lens.toFocus, within_ask lens]
  exact .aside plain further

theorem withstands_within_modifyGet (focus : Focus part replace) {change : σ → β × σ}
    {next : β → Action σ α}
    (further : (((next (change (part whole)).1).within part replace).start
      (replace (change (part whole)).2 whole)).Withstands meanwhile post) :
    (((modifyGet change >>= next).within part replace).start whole).Withstands meanwhile post := by
  rw [within_bind focus]
  exact further

theorem withstands_within_call (lens : Lens part replace) {call : DeviceCall}
    {next : call.Reply → Action σ α}
    (further : ∀ reply, meanwhile.Ensures Eq whole fun within _ middle =>
      ((next reply).within part replace).Ensures Eq middle fun later =>
        post ⟨[], ⟨.device call, reply⟩, within, later⟩) :
    (((Action.call call >>= next).within part replace).start whole).Withstands meanwhile post := by
  rw [within_bind lens.toFocus, Action.call, within_ask lens]
  exact .call further

end Within

end Action

theorem Action.Ensures.within {part : τ → σ} {replace : σ → τ → τ} (focus : Focus part replace)
    {action : Action σ α} {whole : τ} {post : List Exchange → α → τ → Prop}
    (ensured : action.Ensures Eq (part whole) fun exchanges value final =>
      post exchanges value (replace final whole)) :
    (action.within part replace).Ensures Eq whole post := by
  intro exchanges value last ended
  obtain ⟨final, within, rfl⟩ := Run.Ends.of_within focus ended
  exact ensured exchanges value final within

end Scanout
