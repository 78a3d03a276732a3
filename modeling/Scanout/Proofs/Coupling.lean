import Scanout.Proofs.Surroundings

/-!
Two executions side by side. Coupled executions stay in step: at each request both ask the same on
the same state, and both end on the same state, while the replies to some requests are free to
differ. What is proved of the pair, reply by reply, then holds of any two surroundings that reply
alike to all other requests.
-/

namespace Scanout

/-- Two surroundings, asked different things so far, that from now on reply alike to the same
requests, except to those that are free. -/
def Replies.Agree (free : Request → Prop) (first : Replies) (here : List Request)
    (second : Replies) (there : List Request) : Prop :=
  ∀ after request, ¬free request →
    first (here ++ after) request = second (there ++ after) request

section

variable {σ α β γ δ : Type} {free : Request → Prop}

namespace Run

/-- Two executions that stay in step. Results are related, states are the same. -/
inductive Coupled (free : Request → Prop) (related : α → β → Prop) : Run σ α → Run σ β → Prop where
  | done {value : α} {other : β} (state : σ) (settled : related value other) :
      Coupled free related (.done value state) (.done other state)
  | ask {request : Request} {state : σ} {resume : request.Reply → σ → Run σ α}
      {continued : request.Reply → σ → Run σ β}
      (further : ∀ first second after, first = second ∨ free request →
        Coupled free related (resume first after) (continued second after)) :
      Coupled free related (.ask request state resume) (.ask request state continued)

variable {related : α → β → Prop} {run : Run σ α} {other : Run σ β}

theorem Coupled.imp {weaker : α → β → Prop} (implies : ∀ value other, related value other →
    weaker value other) (coupled : run.Coupled free related other) :
    run.Coupled free weaker other := by
  induction coupled with
  | done state settled => exact .done state (implies _ _ settled)
  | ask further ih => exact .ask ih

theorem Coupled.andThen {next : α → σ → Run σ γ} {last : β → σ → Run σ δ} {ends : γ → δ → Prop}
    (coupled : run.Coupled free related other)
    (further : ∀ value other state, related value other →
      (next value state).Coupled free ends (last other state)) :
    (run.andThen next).Coupled free ends (other.andThen last) := by
  induction coupled with
  | done state settled => exact further _ _ state settled
  | ask _ ih => exact .ask ih

/-- With no request free, an execution is coupled to itself, and ends as it always does. -/
theorem Ensures.coupled {post : List Exchange → α → σ → Prop}
    (ensured : run.Ensures (fun _ _ => True) post) :
    run.Coupled (fun _ => False)
      (fun value other => value = other ∧ ∃ exchanges final, post exchanges value final) run := by
  induction run generalizing post with
  | done value state =>
      have holds : post [] value state := ensured [] value state (.done value state)
      exact .done state ⟨rfl, [], state, holds⟩
  | ask request state resume ih =>
      refine .ask fun reply second after same => ?_
      obtain rfl : reply = second := same.resolve_right id
      have continued : (resume reply after).Ensures (fun _ _ => True)
          fun exchanges => post (⟨request, reply⟩ :: exchanges) :=
        fun exchanges value final ended => ensured _ _ _ (.ask reply trivial ended)
      refine (ih reply after continued).imp ?_
      rintro value other ⟨equal, exchanges, final, holds⟩
      exact ⟨equal, _, final, holds⟩

/-- Coupled executions are carried through in step, wherever their surroundings agree. -/
theorem Coupled.interpret (coupled : run.Coupled free related other) {first second : Replies}
    {here there : List Exchange}
    (agree : first.Agree free (here.map Exchange.request) second (there.map Exchange.request)) :
    let left := run.interpret first.quiet.answer here
    let right := other.interpret second.quiet.answer there
    ∃ mine yours : List Exchange, left.2 = here ++ mine ∧ right.2 = there ++ yours ∧
      mine.map Exchange.request = yours.map Exchange.request ∧ left.1.2 = right.1.2 ∧
        related left.1.1 right.1.1 := by
  induction coupled generalizing here there with
  | done state settled =>
      exact ⟨[], [], (List.append_nil here).symm, (List.append_nil there).symm, rfl, rfl, settled⟩
  | @ask request state resume continued _ ih =>
      let reply := first (here.map Exchange.request) request
      let answer := second (there.map Exchange.request) request
      have same : reply = answer ∨ free request := by
        by_cases isFree : free request
        · exact .inr isFree
        · have alike := agree [] request isFree
          rw [List.append_nil, List.append_nil] at alike
          exact .inl alike
      let noted (reply : request.Reply) : List Exchange := [⟨request, reply⟩]
      have further : first.Agree free ((here ++ noted reply).map Exchange.request)
          second ((there ++ noted answer).map Exchange.request) := by
        intro after asked notFree
        simpa [noted] using agree (request :: after) asked notFree
      obtain ⟨mine, yours, left, right, requests, rest⟩ := ih reply answer state same further
      refine ⟨noted reply ++ mine, noted answer ++ yours, ?_, ?_, ?_, rest⟩
      · rw [← List.append_assoc]
        exact left
      · rw [← List.append_assoc]
        exact right
      · simp [noted, requests]

end Run

namespace Action

variable {related : α → β → Prop}

def Coupled (free : Request → Prop) (related : α → β → Prop) (first : Action σ α)
    (second : Action σ β) : Prop :=
  ∀ state, (first.start state).Coupled free related (second.start state)

theorem Coupled.pure {value : α} {other : β} (settled : related value other) :
    (pure value : Action σ α).Coupled free related (pure other : Action σ β) :=
  fun state => .done state settled

theorem Coupled.bind {first : Action σ α} {second : Action σ β} {next : α → Action σ γ}
    {last : β → Action σ δ} {ends : γ → δ → Prop} (coupled : first.Coupled free related second)
    (further : ∀ value other, related value other → (next value).Coupled free ends (last other)) :
    (first >>= next).Coupled free ends (second >>= last) := fun state =>
  (coupled state).andThen fun value other after settled => further value other settled after

theorem Coupled.get {next : σ → Action σ α} {last : σ → Action σ β}
    (further : ∀ state, ((next state).start state).Coupled free related ((last state).start state)) :
    (MonadState.get >>= next : Action σ α).Coupled free related (MonadState.get >>= last) := further

theorem Coupled.ask {request : Request} (bound : ¬free request) :
    (ask request : Action σ request.Reply).Coupled free Eq (ask request) := fun _ =>
  .ask fun _ _ after same => .done after (same.resolve_right bound)

/-- Whether a request is free or not, both sides make it. -/
theorem Coupled.request (request : Request) :
    (Action.ask request : Action σ request.Reply).Coupled free (fun _ _ => True)
      (Action.ask request) := fun _ => .ask fun _ _ after _ => .done after trivial

theorem Coupled.release (bound : ∀ native, ¬free (.freeBuffer native)) (handles : List Handle) :
    (Action.release handles : Action σ Unit).Coupled free Eq (Action.release handles) := by
  unfold Action.release
  induction referencesOf handles with
  | nil => exact .pure rfl
  | cons native natives ih => exact .bind (.ask (bound native)) fun _ _ _ => ih

theorem Coupled.perform {first : Action σ α} {second : Action σ β}
    (coupled : first.Coupled free related second) {one two : Replies}
    (agree : one.Agree free [] two []) (start : σ) :
    let left := first.perform one.quiet start
    let right := second.perform two.quiet start
    left.requests = right.requests ∧ left.state = right.state ∧ related left.value right.value := by
  have fresh : one.Agree free (([] : List Exchange).map Exchange.request)
      two (([] : List Exchange).map Exchange.request) := agree
  obtain ⟨mine, yours, logged, noted, same, rest⟩ := (coupled start).interpret fresh
  rw [List.nil_append] at logged noted
  refine ⟨?_, rest⟩
  rw [← logged, ← noted] at same
  exact same

/-- Actions that begin with one request each, and stay in step once they have their replies. -/
theorem perform_apart {first : Action σ α} {second : Action σ β} {one two : Replies}
    {request asked : Request} {start here there : σ} {resume : request.Reply → σ → Run σ α}
    {continued : asked.Reply → σ → Run σ β}
    (begins : first.start start = .ask request here resume)
    (starts : second.start start = .ask asked there continued)
    (coupled : (resume (one [] request) here).Coupled free related
      (continued (two [] asked) there))
    (agree : one.Agree free [request] two [asked]) :
    let left := first.perform one.quiet start
    let right := second.perform two.quiet start
    (∃ rest, left.requests = request :: rest ∧ right.requests = asked :: rest) ∧
      left.state = right.state ∧ related left.value right.value := by
  intro left right
  let told : List Exchange := [⟨request, one [] request⟩]
  let noted : List Exchange := [⟨asked, two [] asked⟩]
  have further : one.Agree free (told.map Exchange.request) two (noted.map Exchange.request) := agree
  obtain ⟨mine, yours, logged, written, same, rest⟩ := coupled.interpret further
  have leftRequests : left.requests = request :: mine.map Exchange.request := by
    simp only [left, perform_of_ask begins, Performance.requests]
    rw [logged, List.map_append]
    rfl
  have rightRequests : right.requests = asked :: yours.map Exchange.request := by
    simp only [right, perform_of_ask starts, Performance.requests]
    rw [written, List.map_append]
    rfl
  refine ⟨⟨mine.map Exchange.request, leftRequests, ?_⟩, ?_⟩
  · rw [rightRequests, same]
  · simp only [left, right, perform_of_ask begins, perform_of_ask starts]
    exact rest

end Action
end

end Scanout
