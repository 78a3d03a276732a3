import Scanout.Proofs.Outline
import Scanout.Proofs.Outstanding

/-!
What becomes known of the displays and layers of clients, note by note. The notes come to an outline
of every client's displays; read as a history, they say which displays and layers that is.
-/

namespace Scanout

/-- What is noted about a client. A departing client retires every display that it has. -/
inductive Note where
  | displayAdded (client : ClientId) (display : DisplayId) (isVirtual : Bool)
  | displayRemoved (client : ClientId) (display : DisplayId)
  | layerCreated (client : ClientId) (display : DisplayId) (layer : LayerId)
  | layerDestroyed (client : ClientId) (display : DisplayId) (layer : LayerId)
  | retired (client : ClientId) (display : DisplayId) (isVirtual : Bool)
  deriving DecidableEq, Repr

namespace Note

def client : Note → ClientId
  | displayAdded client _ _ | displayRemoved client _ | layerCreated client _ _
  | layerDestroyed client _ _ | retired client _ _ => client

/-- The client has the display from then on, if it does not have it yet. -/
def Adds (client : ClientId) (display : DisplayId) (note : Note) : Prop :=
  ∃ isVirtual, note = .displayAdded client display isVirtual

/-- The client no longer has the display. -/
def Removes (client : ClientId) (display : DisplayId) (note : Note) : Prop :=
  note = .displayRemoved client display ∨ ∃ isVirtual, note = .retired client display isVirtual

/-- What is known of a client's displays after a note. -/
def record (client : ClientId) (known : DisplayId → Option Outline) (note : Note)
    (display : DisplayId) : Option Outline :=
  match note with
  | displayAdded id added isVirtual =>
      if (id = client ∧ added = display) ∧ known display = none then
        some ⟨isVirtual, fun _ => false⟩
      else known display
  | displayRemoved id removed | retired id removed _ =>
      if id = client ∧ removed = display then none else known display
  | layerCreated id on layer =>
      if id = client ∧ on = display then
        (known display).map fun outline =>
          { outline with layers := fun kept => kept == layer || outline.layers kept }
      else known display
  | layerDestroyed id on layer =>
      if id = client ∧ on = display then
        (known display).map fun outline =>
          { outline with layers := fun kept => kept != layer && outline.layers kept }
      else known display

theorem record_of_other {client : ClientId} {note : Note} (other : note.client ≠ client)
    (known : DisplayId → Option Outline) : note.record client known = known := by
  funext display
  cases note <;> simp_all [record, Note.client]

/-- A display stays until a note removes it. -/
theorem isSome_record {client : ClientId} {note : Note} {display : DisplayId}
    {known : DisplayId → Option Outline} (spares : ¬note.Removes client display)
    (there : (known display).isSome) : (note.record client known display).isSome := by
  cases note <;> simp_all [record, Removes] <;> grind

end Note

/-- What the notes come to for a client. -/
def recorded (client : ClientId) (history : List Note) : DisplayId → Option Outline :=
  history.foldl (Note.record client) fun _ => none

/-- The client has the display. -/
def Held (client : ClientId) (display : DisplayId) (history : List Note) : Prop :=
  Outstanding (Note.Adds client display) (Note.Removes client display) history

/-- A note was made when the earlier notes were as required, and nothing has undone it since. -/
def Stands (when : List Note → Prop) (note : Note) (undoes : Note → Prop) (history : List Note) :
    Prop :=
  ∃ earlier later, history = earlier ++ note :: later ∧ when earlier ∧ ∀ other ∈ later, ¬undoes other

/-- The client has a display that was last added as a virtual one, or as a physical one. -/
def HasDisplay (client : ClientId) (display : DisplayId) (isVirtual : Bool) : List Note → Prop :=
  Stands (fun earlier => ¬Held client display earlier) (.displayAdded client display isVirtual)
    (Note.Removes client display)

/-- The client has a layer: it was created on a display that the client had, and since then neither
the layer was destroyed nor the display removed. -/
def HasLayer (client : ClientId) (display : DisplayId) (layer : LayerId) : List Note → Prop :=
  Stands (Held client display) (.layerCreated client display layer) fun note =>
    note = .layerDestroyed client display layer ∨ note.Removes client display

/-- A physical display was left behind by a client that departed with it, and neither was such a
display reported as lost nor a virtual one of that identity retired since. -/
def LeftBehind (display : DisplayId) : List Note → Prop :=
  Outstanding (fun note => ∃ client, note = .retired client display false) fun note =>
    ∃ client, note = .displayRemoved client display ∨ note = .retired client display true

variable {client : ClientId} {display : DisplayId} {layer : LayerId} {history : List Note}

theorem LeftBehind.noted {note : Note} (behind : LeftBehind display history)
    (spares : ∀ client, ¬note.Removes client display) : LeftBehind display (history ++ [note]) := by
  apply Outstanding.append behind
  intro other member settles
  obtain ⟨client, settles⟩ := settles
  obtain rfl : other = note := by simpa using member
  exact spares client (settles.imp id fun retired => ⟨true, retired⟩)

@[simp] theorem recorded_append_singleton (note : Note) :
    recorded client (history ++ [note]) = note.record client (recorded client history) :=
  List.foldl_concat _ _ _ _

theorem recorded_append_of_other {notes : List Note} (others : ∀ note ∈ notes, note.client ≠ client) :
    recorded client (history ++ notes) = recorded client history := by
  induction notes using List.reverseRecOn with
  | nil => rw [List.append_nil]
  | append_singleton notes last ih =>
      have apart : last.client ≠ client := others last (by simp)
      have earlier : ∀ note ∈ notes, note.client ≠ client := by
        intro note member
        exact others note (by simp [member])
      rw [← List.append_assoc, recorded_append_singleton, Note.record_of_other apart, ih earlier]

/-- Retiring takes away what is retired and nothing else. -/
theorem recorded_append_retired {notes : List Note}
    (retired : ∀ note ∈ notes, ∃ display isVirtual, note = .retired client display isVirtual)
    (covered : ∀ outline, recorded client history display = some outline →
      ∃ isVirtual, .retired client display isVirtual ∈ notes) :
    recorded client (history ++ notes) display = none := by
  induction notes using List.reverseRecOn with
  | nil =>
      rw [List.append_nil]
      cases known : recorded client history display with
      | none => rfl
      | some outline =>
          obtain ⟨_, member⟩ := covered outline known
          cases member
  | append_singleton notes last ih =>
      obtain ⟨gone, isVirtual, rfl⟩ := retired last (by simp)
      rw [← List.append_assoc, recorded_append_singleton, Note.record]
      by_cases named : gone = display
      · simp [named]
      · rw [if_neg (by simp [named])]
        apply ih
        · intro note member
          exact retired note (by simp [member])
        · intro outline known
          obtain ⟨isVirtual, member⟩ := covered outline known
          exact ⟨isVirtual, by simpa [Ne.symm named] using member⟩

@[simp] theorem not_stands_nil {when : List Note → Prop} {note : Note} {undoes : Note → Prop} :
    ¬Stands when note undoes [] := by
  intro stands
  obtain ⟨earlier, later, split, -⟩ := stands
  simp at split

@[simp] theorem stands_append_singleton {when : List Note → Prop} {note last : Note}
    {undoes : Note → Prop} :
    Stands when note undoes (history ++ [last]) ↔
      last = note ∧ when history ∨ Stands when note undoes history ∧ ¬undoes last := by
  constructor
  · intro stands
    obtain ⟨earlier, later, split, made, kept⟩ := stands
    rcases split_append_singleton split with ⟨rfl, same, -⟩ | ⟨between, rfl, rfl⟩
    · exact .inl ⟨same, made⟩
    · have kept : (∀ other ∈ between, ¬undoes other) ∧ ¬undoes last := by
        simpa [or_imp, forall_and] using kept
      exact .inr ⟨⟨earlier, between, rfl, made, kept.1⟩, kept.2⟩
  · intro either
    cases either with
    | inl now => exact ⟨history, [], by rw [now.1], now.2, by simp⟩
    | inr before =>
        obtain ⟨⟨earlier, later, rfl, made, kept⟩, spared⟩ := before
        refine ⟨earlier, later ++ [last], by simp, made, ?_⟩
        simpa [or_imp, forall_and] using ⟨kept, spared⟩

section Recorded

variable (client display layer history)

theorem held_iff : Held client display history ↔ (recorded client history display).isSome := by
  induction history using List.reverseRecOn with
  | nil => simp [Held, recorded]
  | append_singleton earlier note ih =>
      rw [Held, outstanding_append_singleton, ← Held, ih, recorded_append_singleton]
      cases known : recorded client earlier display <;>
        cases note <;> simp [Note.Adds, Note.Removes, Note.record, known] <;> grind

theorem hasDisplay_iff (isVirtual : Bool) :
    HasDisplay client display isVirtual history ↔
      ∃ outline, recorded client history display = some outline ∧ outline.isVirtual = isVirtual := by
  induction history using List.reverseRecOn with
  | nil => simp [HasDisplay, recorded]
  | append_singleton earlier note ih =>
      rw [HasDisplay, stands_append_singleton, ← HasDisplay, ih, held_iff, recorded_append_singleton]
      cases known : recorded client earlier display <;>
        cases note <;> simp [Note.Removes, Note.record, known] <;> grind

theorem hasLayer_iff :
    HasLayer client display layer history ↔
      ∃ outline, recorded client history display = some outline ∧ outline.layers layer = true := by
  induction history using List.reverseRecOn with
  | nil => simp [HasLayer, recorded]
  | append_singleton earlier note ih =>
      rw [HasLayer, stands_append_singleton, ← HasLayer, ih, held_iff, recorded_append_singleton]
      cases known : recorded client earlier display <;>
        cases note <;> simp [Note.Removes, Note.record, known] <;> grind

end Recorded
end Scanout
