import Mathlib.Data.List.TakeDrop
import Mathlib.Data.List.TakeWhile
import Mathlib.Tactic.Common
import Scanout.Text.Blank
import Scanout.Toml.Document

/-!
Documents without anything visible in them. Whatever begins a header or a key is no white space, so
the lines of such a document say nothing and it is the empty table.
-/

namespace Scanout

namespace Reading

open Text (whiteSpace)

variable {α β : Type} {reading : Reading α} {post : α → Prop}

/-- From white space a reading makes such a value, if any, and leaves white space. -/
def OnBlank (reading : Reading α) (post : α → Prop) : Prop :=
  ∀ input, (∀ char ∈ input, whiteSpace.contains char) → ∀ value rest,
    reading.run input = some (value, rest) →
      post value ∧ ∀ char ∈ rest, whiteSpace.contains char

namespace OnBlank

theorem pure {value : α} (holds : post value) : OnBlank (pure value) post := by
  intro input blank _ rest read
  cases read
  exact ⟨holds, blank⟩

theorem bind {mid : α → Prop} {next : α → Reading β} {post : β → Prop}
    (first : OnBlank reading mid) (later : ∀ value, mid value → OnBlank (next value) post) :
    OnBlank (reading >>= next) post := by
  intro input blank value rest read
  rw [StateT.run_bind, Option.bind_eq_bind, Option.bind_eq_some_iff] at read
  obtain ⟨⟨middle, between⟩, begun, ended⟩ := read
  obtain ⟨good, blank⟩ := first input blank middle between begun
  exact later middle good between blank value rest ended

theorem mono {weaker : α → Prop} (reads : OnBlank reading post)
    (imp : ∀ value, post value → weaker value) : OnBlank reading weaker :=
  fun input blank value rest read =>
    (reads input blank value rest read).imp_left (imp value)

theorem map {f : α → β} {post : β → Prop} (reads : OnBlank reading (post ∘ f)) :
    OnBlank (f <$> reading) post := by
  rw [map_eq_pure_bind]
  exact reads.bind fun value good => .pure good

theorem discard (reads : OnBlank reading post) :
    OnBlank (discard reading) fun _ => ∃ value, post value :=
  map (reads.mono fun value good => ⟨value, good⟩)

theorem never_bind {next : α → Reading β} {post : β → Prop}
    (never : OnBlank reading fun _ => False) : OnBlank (reading >>= next) post :=
  never.bind fun _ impossible => impossible.elim

theorem never_seqRight {other : Reading β} (never : OnBlank reading fun _ => False) :
    OnBlank (reading *> other) fun _ => False := by
  rw [seqRight_eq_bind]
  exact never.never_bind

theorem never_discard (never : OnBlank reading fun _ => False) :
    OnBlank (Functor.discard reading) fun _ => False :=
  never.discard.mono fun _ ⟨_, impossible⟩ => impossible

theorem orElse {other : Reading α} (first : OnBlank reading post) (second : OnBlank other post) :
    OnBlank (reading <|> other) post := by
  intro input blank value rest read
  have read : (reading.run input <|> other.run input) = some (value, rest) := read
  cases begun : reading.run input with
  | none => exact second input blank value rest (by simpa [begun] using read)
  | some result => exact first input blank value rest (by simpa [begun] using read)

theorem seqLeft {other : Reading β} {later : β → Prop} (first : OnBlank reading post)
    (second : OnBlank other later) : OnBlank (reading <* other) post := by
  rw [seqLeft_eq_bind]
  exact first.bind fun value good => second.bind fun _ _ => .pure good

theorem seqRight {other : Reading β} {later : β → Prop} (first : OnBlank reading post)
    (second : OnBlank other later) : OnBlank (reading *> other) later := by
  rw [seqRight_eq_bind]
  exact first.bind fun _ _ => second

theorem satisfying (kind : Char → Bool) :
    OnBlank (satisfying kind) fun char => kind char ∧ whiteSpace.contains char := by
  intro input blank value rest read
  cases input with
  | nil => cases read
  | cons char others =>
      rw [List.forall_mem_cons] at blank
      by_cases fits : kind char
      · have read : some (char, others) = some (value, rest) := by
          simpa [Reading.satisfying, StateT.run, fits] using read
        cases read
        exact ⟨⟨fits, blank.1⟩, blank.2⟩
      · simp [Reading.satisfying, StateT.run, fits] at read

theorem char {wanted : Char} (visible : whiteSpace.contains wanted = false) :
    OnBlank (char wanted) fun _ => False := by
  refine (satisfying _).mono fun char good => ?_
  have same : char = wanted := by simpa using good.1
  simp [same, visible] at good

theorem span (kind : Char → Bool) :
    OnBlank (span kind) fun chars => ∀ char ∈ chars, kind char ∧ whiteSpace.contains char := by
  intro input blank value rest read
  have read : input.span kind = (value, rest) := Option.some.inj read
  rw [List.span_eq_takeWhile_dropWhile] at read
  cases read
  refine ⟨fun char taken => ⟨List.mem_takeWhile_imp taken, ?_⟩, fun char left => ?_⟩
  · exact blank char (List.takeWhile_subset _ taken)
  · exact blank char (List.dropWhile_subset _ left)

theorem guarded (condition : Prop) [Decidable condition] :
    OnBlank (guard condition) fun _ => condition := by
  unfold guard
  split
  case isTrue holds => exact .pure holds
  case isFalse fails =>
    intro input blank value rest read
    cases read

theorem atEnd : OnBlank atEnd fun _ => True := by
  intro input blank value rest read
  cases input <;> cases read
  exact ⟨trivial, blank⟩

theorem option? (reads : OnBlank reading post) :
    OnBlank (option? reading) fun value => ∀ found ∈ value, post found :=
  orElse (map (reads.mono fun value good => by simpa using good)) (.pure (by simp))

theorem many (reads : OnBlank reading post) :
    OnBlank (many reading) fun values => ∀ value ∈ values, post value := by
  have within : ∀ fuel, OnBlank (manyWithin reading fuel) fun values =>
      ∀ value ∈ values, post value := by
    intro fuel
    induction fuel with
    | zero => exact .pure (List.forall_mem_nil _)
    | succ fuel ih =>
        refine reads.option?.bind fun found good => ?_
        cases found with
        | none => exact .pure (List.forall_mem_nil _)
        | some first =>
            exact ih.bind fun others all => .pure (List.forall_mem_cons.mpr ⟨good first rfl, all⟩)
  exact fun input => within input.length input

end OnBlank
end Reading

namespace Toml

namespace Reading

open Scanout.Reading

theorem blanks_onBlank : OnBlank blanks fun _ => True :=
  (OnBlank.span _).discard.mono fun _ _ => trivial

theorem lineBreak_onBlank : OnBlank lineBreak fun _ => True := by
  have optional : OnBlank (option? (char '\r')) fun _ => True :=
    (OnBlank.satisfying _).option?.mono fun _ _ => trivial
  exact optional.discard.bind fun _ _ =>
    (OnBlank.satisfying _).discard.mono fun _ _ => trivial

theorem comment_onBlank : OnBlank comment fun _ => False :=
  (OnBlank.char (by decide)).never_discard.never_bind

/-- The characters of bare keys are visible. -/
theorem not_whiteSpace_of_isBare {char : Char} (bare : isBare char) :
    Text.whiteSpace.contains char = false := by
  have ascii : ∀ code < 128, isBare (Char.ofNat code) →
      Text.whiteSpace.contains (Char.ofNat code) = false := by
    decide +kernel
  have small : char.toNat < 128 := by
    simp only [isBare, Char.isAlphanum, Bool.or_eq_true, beq_iff_eq] at bare
    rcases bare with ((letter | digit) | rfl) | rfl
    · rcases Bool.or_eq_true_iff.mp letter with upper | lower
      · have last : char.toNat ≤ 'Z'.toNat := (of_decide_eq_true upper).2
        exact last.trans_lt (by decide)
      · have last : char.toNat ≤ 'z'.toNat :=
          of_decide_eq_true (Bool.and_eq_true_iff.mp lower).2
        exact last.trans_lt (by decide)
    · have last : char.toNat ≤ '9'.toNat := of_decide_eq_true (Bool.and_eq_true_iff.mp digit).2
      exact last.trans_lt (by decide)
    · decide
    · decide
  simpa using ascii char.toNat small (by simpa using bare)

theorem inLine_onBlank {quote : Char} (visible : Text.whiteSpace.contains quote = false)
    (content : Reading Char) : OnBlank (inLine quote content) fun _ => False :=
  (OnBlank.char visible).never_discard.never_bind

theorem simpleKey_onBlank : OnBlank simpleKey fun _ => False := by
  refine .orElse (inLine_onBlank (by decide) _) (.orElse (inLine_onBlank (by decide) _) ?_)
  refine (OnBlank.span isBare).bind fun chars bare => ?_
  cases chars with
  | nil => exact (OnBlank.guarded _).bind fun _ filled => by simp at filled
  | cons char others =>
      obtain ⟨bare, blank⟩ := bare char List.mem_cons_self
      simp [not_whiteSpace_of_isBare bare] at blank

theorem key_onBlank : OnBlank key fun _ => False :=
  have part : OnBlank (blanks *> simpleKey <* blanks) fun _ => False :=
    (blanks_onBlank.seqRight simpleKey_onBlank).seqLeft blanks_onBlank
  OnBlank.never_bind part.never_bind

theorem line_onBlank : OnBlank line fun line => line = none := by
  -- Only the reading of an empty line does not begin with something visible.
  have bracket : OnBlank (char '[') fun _ => False := .char (by decide)
  refine .orElse ?remark (.orElse ?empty (.orElse ?element (.orElse ?table ?entry)))
  case remark => exact comment_onBlank.never_seqRight.never_discard.never_bind
  case empty => exact lineBreak_onBlank.discard.bind fun _ _ => .pure rfl
  case element =>
    have brackets : OnBlank (exactly "[[") fun _ => False := bracket.never_discard.never_bind
    exact brackets.never_bind
  case table => exact bracket.never_discard.never_bind
  case entry =>
    have assigned : OnBlank (assignment (value nestingLimit)) fun _ => False :=
      key_onBlank.never_bind
    exact assigned.never_bind

theorem lines_onBlank : OnBlank lines fun lines => lines = [] := by
  have mark : OnBlank (option? (char '\ufeff')) fun _ => True :=
    (OnBlank.char (by decide)).option?.mono fun _ _ => trivial
  refine mark.discard.bind fun _ _ => blanks_onBlank.bind fun _ _ => ?_
  refine (line_onBlank.seqLeft blanks_onBlank).many.bind fun lines silent => .pure ?_
  rw [List.filterMap_eq_nil_iff]
  exact silent

end Reading

/-- A document without anything visible in it says nothing. -/
theorem Table.eq_nil_of_blank {text : String} {document : Table} (blank : Text.isBlank text)
    (read : Table.ofText? text = some document) : document = [] := by
  rw [Text.isBlank_iff] at blank
  rw [Table.ofText?, Option.bind_eq_bind, Option.bind_eq_some_iff] at read
  obtain ⟨lines, all, drafted⟩ := read
  rw [Scanout.Reading.all?, Option.map_eq_some_iff] at all
  obtain ⟨⟨_, rest⟩, begun, rfl⟩ := all
  obtain ⟨rfl, -⟩ := (Reading.lines_onBlank.seqLeft .atEnd) text.toList blank _ rest begun
  exact (Option.some.inj drafted).symm

end Toml
end Scanout
