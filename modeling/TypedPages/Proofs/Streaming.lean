import TypedPages.Proofs.Course
import TypedPages.Proofs.Negotiation

/-!
# Following the course of a source

The course of a source fixes a script of calls, and streaming tells the sink this script up to the
first call that is refused. A refusal ends the streaming before the source can end it.
-/

namespace TypedPages

/-- Pages went through one after the other. -/
def Tally.passed (t : Tally) (pages : List Page) : Tally :=
  ⟨t.pulled + pages.length, t.pages + pages.length, t.records + pages.flatten.length⟩

namespace Transaction

open Projector (Streams Stopped)

variable {start : Writer} {loan : BufferId} {input : Schema} {source : Source} {p : Projector}
variable {pages : List Page} {sent good : List Record} {ending : Option Error} {pulled : Nat}

/-- The calls that deliver records until a source ends: with all of them and a farewell, or, if it
ends with an error, with their full pages alone. -/
def deliveries (size : Nat) (sent : List Record) : Option Error → List SinkCall
  | none => Writer.farewell size sent
  | some _ => Writer.handovers size sent

/-- How streaming ends if the sink answers as given and the source ends as given. -/
def verdict : Except Failure Unit → Option Error → Except Error Unit
  | .error failure, _ => .error (.failure failure)
  | .ok (), some e => .error e
  | .ok (), none => .ok ()

@[simp] theorem verdict_none (answered : Except Failure Unit) :
    verdict answered none = answered.mapError .failure := by
  cases answered <;> rfl

/-- The result of feeding that ended because the sink refused one of the full pages of the
records. -/
def Broken (start : Writer) (loan : BufferId) (sent : List Record)
    (result : Except Error Unit × Tally × Projector) : Prop :=
  ∃ failure tally p', result = (.error (.failure failure), tally, p') ∧
    p'.Stopped start loan (Writer.handovers start.pageSize sent) (.error failure)

/-- If feeding was broken off, it makes no difference how the source would have ended. -/
theorem stream_of_broken [Host] (h : Broken start loan sent (feedAll source.pages .zero p))
    (ending : Option Error) :
    ∃ answered tally p', stream source p = (verdict answered ending, tally, p') ∧
      p'.Stopped start loan (deliveries start.pageSize sent ending) answered ∧
      answered ≠ .ok () := by
  obtain ⟨failure, tally, p', refused, unclosed, t, told, keeps⟩ := h
  refine ⟨.error failure, tally, p', ?_, ⟨unclosed, t, ?_, keeps⟩, fun ok => by cases ok⟩
  · rw [stream, refused]
    rfl
  · cases ending with
    | some e => exact told
    | none =>
        rw [deliveries, Writer.farewell_eq]
        exact Sink.tellAll_append_of_error told _

section

variable (pos : 0 < start.pageSize)
include pos

/-- Pages of records that can go through are fed one after the other, up to a refusal. -/
theorem feedAll_append [Host] (tally : Tally) (later : List Page)
    (h : p.Streams start loan input sent)
    (clean : ∀ record ∈ pages.flatten, input.Admits start.schema.has record) :
    (∃ p', feedAll (pages ++ later) tally p = feedAll later (tally.passed pages) p' ∧
      p'.Streams start loan input (sent ++ pages.flatten.map (input.rearrange start.schema))) ∨
    Broken start loan (sent ++ pages.flatten.map (input.rearrange start.schema))
      (feedAll (pages ++ later) tally p) := by
  induction pages generalizing p sent tally with
  | nil => exact .inl ⟨p, rfl, by simpa using h⟩
  | cons page pages ih =>
      rw [List.flatten_cons, List.forall_mem_append] at clean
      have split : sent ++ (page :: pages).flatten.map (input.rearrange start.schema) =
          sent ++ page.map (input.rearrange start.schema) ++
            pages.flatten.map (input.rearrange start.schema) := by simp
      rw [split, List.cons_append, feedAll]
      rcases Projector.feed_of_admits pos h clean.1 with
        ⟨p', passed, streams⟩ | ⟨failure, p', refused, stopped⟩
      · have total : tally.passed (page :: pages) = (tally.pull.count page).passed pages := by
          simp only [Tally.passed, Tally.pull, Tally.count, List.length_cons, List.flatten_cons,
            List.length_append, Tally.mk.injEq]
          omega
        simp only [passed, total]
        exact ih _ streams clean.2
      · simp only [refused]
        exact .inr ⟨failure, _, p', rfl, stopped.append _⟩

/-- Pages are fed up to the first record that cannot go through, or up to a refusal before. -/
theorem feedAll_of_fault [Host] {before : List Page} {bad : Record} {v : Violation} (tally : Tally)
    (rest : List Record) (after : List Page) (h : p.Streams start loan input sent)
    (clean : ∀ record ∈ before.flatten ++ good, input.Admits start.schema.has record)
    (fault : input.fault? start.schema.has good.length bad = some v) :
    (∃ p', feedAll (before ++ (good ++ bad :: rest) :: after) tally p =
        (.error v.raised, (tally.passed before).pull, p') ∧
      p'.Stopped start loan (Writer.handovers start.pageSize
        (sent ++ (before.flatten ++ good).map (input.rearrange start.schema))) (.ok ())) ∨
    Broken start loan (sent ++ (before.flatten ++ good).map (input.rearrange start.schema))
      (feedAll (before ++ (good ++ bad :: rest) :: after) tally p) := by
  rw [List.forall_mem_append] at clean
  rw [List.map_append, ← List.append_assoc]
  rcases feedAll_append pos tally ((good ++ bad :: rest) :: after) h clean.1 with
    ⟨p', passed, streams⟩ | ⟨failure, tally', p', refused, stopped⟩
  · rw [passed, feedAll]
    rcases Projector.feed_of_fault pos streams rest clean.2 fault with
      ⟨p'', failed, stopped⟩ | ⟨failure, p'', refused, stopped⟩
    · simp only [failed]
      exact .inl ⟨p'', rfl, stopped⟩
    · simp only [refused]
      exact .inr ⟨failure, _, p'', rfl, stopped⟩
  · exact .inr ⟨failure, tally', p', refused, stopped.append _⟩

variable (h : p.Streams start loan input [])
include h

/-- Clean pages are all fed if the sink takes the full pages among them. -/
theorem feedAll_of_told [Host] (tally : Tally) {t : Sink}
    (clean : ∀ record ∈ pages.flatten, input.Admits start.schema.has record)
    (told : start.sink.tellAll (Writer.handovers start.pageSize
      (pages.flatten.map (input.rearrange start.schema))) = (.ok (), t)) :
    ∃ p', feedAll pages tally p = (.ok (), tally.passed pages, p') := by
  have fed := feedAll_append pos tally [] h clean
  rw [List.append_nil, List.nil_append] at fed
  rcases fed with ⟨p', passed, -⟩ | ⟨failure, _, p', -, -, t', refused, -⟩
  · exact ⟨p', passed⟩
  · rw [told] at refused
    cases refused

/-- Streaming follows the course of the source until the sink refuses a call. -/
theorem stream_of_course [Host] (course : Course input start.schema.has source good ending pulled) :
    ∃ answered tally p', stream source p = (verdict answered ending, tally, p') ∧
      p'.Stopped start loan
        (deliveries start.pageSize (good.map (input.rearrange start.schema)) ending) answered ∧
      (answered = .ok () → tally.pulled = pulled ∧
        (ending = none → tally = Tally.zero.passed source.pages)) := by
  -- A refusal settles all three courses in the same way.
  have refused (broken : Broken start loan (good.map (input.rearrange start.schema))
      (feedAll source.pages .zero p)) : ∃ answered tally p',
      stream source p = (verdict answered ending, tally, p') ∧
      p'.Stopped start loan
        (deliveries start.pageSize (good.map (input.rearrange start.schema)) ending) answered ∧
      (answered = .ok () → tally.pulled = pulled ∧
        (ending = none → tally = Tally.zero.passed source.pages)) := by
    obtain ⟨answered, tally, p', streamed, stopped, failed⟩ := stream_of_broken broken ending
    exact ⟨answered, tally, p', streamed, stopped, fun ok => absurd ok failed⟩
  cases course with
  | @complete pages clean =>
      have fed := feedAll_append pos .zero [] h clean
      rw [List.append_nil, List.nil_append] at fed
      rcases fed with ⟨p', passed, streams⟩ | broken
      · obtain ⟨p'', finished, stopped⟩ := Projector.finish_of_streams streams
        rw [stream, passed]
        simp only [feedAll, finished, ← verdict_none]
        exact ⟨_, _, p'', rfl, stopped, fun _ => ⟨Nat.zero_add _, fun _ => rfl⟩⟩
      · exact refused broken
  | @broken pages failure clean =>
      have fed := feedAll_append pos .zero [] h clean
      rw [List.append_nil, List.nil_append] at fed
      rcases fed with ⟨p', passed, unbound, lookup, unclosed, s, told, writer⟩ | broken
      · rw [stream, passed]
        exact ⟨.ok (), _, p', rfl, ⟨unclosed, s, told, writer ▸ Writer.keeps_holding ..⟩,
          fun _ => ⟨Nat.zero_add _, fun none => by cases none⟩⟩
      · exact refused broken
  | @faulty before after good rest bad v failure clean fault =>
      have fed := feedAll_of_fault pos .zero rest after h clean fault
      rw [List.nil_append] at fed
      rcases fed with ⟨p', failed, stopped⟩ | broken
      · rw [stream, failed]
        exact ⟨.ok (), _, p', rfl, stopped, fun _ =>
          ⟨congrArg (· + 1) (Nat.zero_add _), fun none => by cases none⟩⟩
      · exact refused broken

end

end Transaction

end TypedPages
