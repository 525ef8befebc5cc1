import TypedPages.Proofs.Answer
import TypedPages.Proofs.Leases

/-!
# Several pools in a room

What happens in a room is told by events, the steps with their answers. An event lends a buffer,
brings one from elsewhere, appends to one, gives one back or is refused. A buffer that appears is
never one that was there before, and whatever is done to it leaves its identity, so two numbers
always mean two buffers.
-/

namespace TypedPages

namespace BufferRoom

/-- A step that was performed, and its answer. -/
structure Event where
  step : Step
  answer : Except Error Answer

/-- Whether the room has the pools and buffers that a step names. -/
def has (room : BufferRoom) : Step → Bool
  | .allocate key => key < room.pools.length
  | .foreign => true
  | .append number _ => number < room.buffers.length
  | .release number key => number < room.buffers.length && key < room.pools.length

/-- Performs steps one after the other, whatever they answer. -/
def after : BufferRoom → List Step → BufferRoom
  | room, [] => room
  | room, step :: steps => (room.step step).2.after steps

/-- What happens in the course of steps. A step that names what the room does not have is no
event. -/
def history : BufferRoom → List Step → List Event
  | _, [] => []
  | room, step :: steps =>
    if room.has step then ⟨step, (room.step step).1⟩ :: history (room.step step).2 steps
    else history room steps

/-- The records in each buffer. -/
def contents (room : BufferRoom) : List (List Record) :=
  room.buffers.map (·.records)

/-- All that can happen in a room: an event, and the room that it leaves behind. -/
inductive Took (room : BufferRoom) : Event → BufferRoom → Prop where
  | lent {key : Nat} {pool : BufferPool} (lender : room.pools[key]? = some pool) :
      Took room ⟨.allocate key, .ok (.number room.buffers.length)⟩
        ⟨room.pools.set key pool.allocate.2, room.buffers ++ [pool.allocate.1]⟩
  | brought :
      Took room ⟨.foreign, .ok (.number room.buffers.length)⟩
        ⟨room.pools, room.buffers ++ [⟨.foreign room.buffers.length, []⟩]⟩
  | appended {number : Nat} {record : Record} {b : Buffer}
      (found : room.buffers[number]? = some b) :
      Took room ⟨.append number record, .ok (.number (b.push record).records.length)⟩
        ⟨room.pools, room.buffers.set number (b.push record)⟩
  | returned {number key loan : Nat} {b : Buffer} {pool : BufferPool}
      (found : room.buffers[number]? = some b)
      (lender : room.pools[key]? = some pool) (known : pool.loan? b.id = some loan) :
      Took room ⟨.release number key, .ok .done⟩
        ⟨room.pools.set key (pool.settle loan), room.buffers.set number b.cleared⟩
  | refused {number key : Nat} {b : Buffer} {pool : BufferPool}
      (found : room.buffers[number]? = some b)
      (lender : room.pools[key]? = some pool) (unknown : pool.loan? b.id = none) :
      Took room ⟨.release number key, .error (.violation .deadBuffer)⟩ room

variable {room later : BufferRoom} {step : Step} {e : Event} {past : List Event}
variable {pool : BufferPool} {b : Buffer} {id : BufferId} {key number loan : Nat}

theorem step_release_of_loan (found : room.buffers[number]? = some b)
    (lender : room.pools[key]? = some pool) (known : pool.loan? b.id = some loan) :
    room.step (.release number key) =
      (.ok .done, ⟨room.pools.set key (pool.settle loan), room.buffers.set number b.cleared⟩) := by
  simp only [BufferRoom.step, found, lender, BufferPool.release_of_loan known]

theorem step_release_of_unknown (found : room.buffers[number]? = some b)
    (lender : room.pools[key]? = some pool) (unknown : pool.loan? b.id = none) :
    room.step (.release number key) = (.error (.violation .deadBuffer), room) := by
  simp only [BufferRoom.step, found, lender, BufferPool.release_of_unknown unknown]

theorem took_step (there : room.has step) :
    Took room ⟨step, (room.step step).1⟩ (room.step step).2 := by
  cases step with
  | allocate key =>
      have lender := List.getElem?_eq_getElem (of_decide_eq_true there)
      simp only [BufferRoom.step, lender]
      exact .lent lender
  | foreign => exact .brought
  | append number record =>
      have found := List.getElem?_eq_getElem (of_decide_eq_true there)
      simp only [BufferRoom.step, found]
      exact .appended found
  | release number key =>
      obtain ⟨inside, below⟩ := Bool.and_eq_true_iff.mp there
      obtain ⟨b, found⟩ : ∃ b, room.buffers[number]? = some b :=
        ⟨_, List.getElem?_eq_getElem (of_decide_eq_true inside)⟩
      obtain ⟨pool, lender⟩ : ∃ pool, room.pools[key]? = some pool :=
        ⟨_, List.getElem?_eq_getElem (of_decide_eq_true below)⟩
      cases known : pool.loan? b.id with
      | none =>
          rw [step_release_of_unknown found lender known]
          exact .refused found lender known
      | some loan =>
          rw [step_release_of_loan found lender known]
          exact .returned found lender known

theorem step_of_absent (absent : ¬ room.has step) : room.step step = (.ok .done, room) := by
  cases step with
  | allocate key =>
      have none := List.getElem?_eq_none (Nat.le_of_not_lt (mt decide_eq_true absent))
      simp only [BufferRoom.step, none]
  | foreign => exact absurd rfl absent
  | append number record =>
      have none := List.getElem?_eq_none (Nat.le_of_not_lt (mt decide_eq_true absent))
      simp only [BufferRoom.step, none]
  | release number key =>
      cases found : room.buffers[number]? with
      | none => simp only [BufferRoom.step, found]
      | some b =>
          cases lender : room.pools[key]? with
          | none => simp only [BufferRoom.step, found, lender]
          | some pool =>
              obtain ⟨inside, -⟩ := List.getElem?_eq_some_iff.mp found
              obtain ⟨below, -⟩ := List.getElem?_eq_some_iff.mp lender
              exact absurd (Bool.and_eq_true_iff.mpr ⟨decide_eq_true inside, decide_eq_true below⟩)
                absent

/-- What holds at the start and is kept by whatever happens holds of every history and the room in
which it ends. -/
theorem history_induction {P : List Event → BufferRoom → Prop} (start : P [] room)
    (keep : ∀ {past room e later}, P past room → Took room e later → P (past ++ [e]) later)
    (steps : List Step) : P (room.history steps) (room.after steps) := by
  -- What happened before the steps stands in front of what they add, so the past varies.
  suffices run : ∀ past room, P past room → P (past ++ room.history steps) (room.after steps) from
    run [] room start
  induction steps with
  | nil =>
      intro past room h
      rwa [history, List.append_nil]
  | cons step steps ih =>
      intro past room h
      rw [history, after]
      split
      · rename_i there
        rw [List.append_cons]
        exact ih _ _ (keep h (took_step there))
      · rename_i absent
        rw [step_of_absent absent]
        exact ih past room h

/-- Pools neither come nor go. -/
theorem length_pools_after (room : BufferRoom) (steps : List Step) :
    (room.after steps).pools.length = room.pools.length := by
  apply history_induction (P := fun _ later => later.pools.length = room.pools.length) rfl
  intro past now e later h took
  cases took with
  | lent => exact List.length_set.trans h
  | returned => exact List.length_set.trans h
  | _ => exact h

/-! ## Replacing and adding members -/

theorem forall_getElem?_set {α : Type} {P : Nat → α → Prop} {list : List α} {i : Nat} {a : α}
    (h : ∀ j b, j ≠ i → list[j]? = some b → P j b) (replaced : P i a) :
    ∀ j b, (list.set i a)[j]? = some b → P j b := by
  intro j b found
  by_cases same : i = j
  · subst same
    obtain ⟨bound, rfl⟩ := List.getElem?_eq_some_iff.mp found
    rwa [List.getElem_set_self]
  · rw [List.getElem?_set_ne same] at found
    exact h j b (Ne.symm same) found

theorem getElem?_concat_cases {α : Type} {list : List α} {a b : α} {i : Nat}
    (found : (list ++ [a])[i]? = some b) : list[i]? = some b ∨ i = list.length ∧ b = a := by
  obtain ⟨bound, rfl⟩ := List.getElem?_eq_some_iff.mp found
  rw [List.length_append, List.length_singleton] at bound
  rcases Nat.lt_succ_iff_lt_or_eq.mp bound with old | new
  · left
    rw [List.getElem_append_left old]
    exact List.getElem?_eq_getElem old
  · subst new
    exact .inr ⟨rfl, List.getElem_concat_length rfl _⟩

theorem getElem?_liveCounts (lender : room.pools[key]? = some pool) :
    room.liveCounts[key]? = some pool.liveCount := by
  rw [liveCounts, List.getElem?_map, lender]
  rfl

theorem contents_set_cleared (pools : List BufferPool) (number : Nat) (b : Buffer) :
    contents ⟨pools, room.buffers.set number b.cleared⟩ = room.contents.set number [] :=
  List.map_set

theorem liveCounts_set (key : Nat) (pool : BufferPool) (buffers : List Buffer) :
    liveCounts ⟨room.pools.set key pool, buffers⟩ = room.liveCounts.set key pool.liveCount :=
  List.map_set

/-! ## No two buffers are the same -/

/-- The identities of the buffers. -/
def ids (room : BufferRoom) : List BufferId :=
  room.buffers.map Buffer.id

theorem length_ids (room : BufferRoom) : room.ids.length = room.buffers.length :=
  List.length_map _

theorem getElem?_ids (found : room.buffers[number]? = some b) : room.ids[number]? = some b.id := by
  rw [ids, List.getElem?_map, found]
  rfl

theorem ids_concat (room : BufferRoom) (pools : List BufferPool) (b : Buffer) :
    ids ⟨pools, room.buffers ++ [b]⟩ = room.ids ++ [b.id] :=
  List.map_append

/-- What is done to the records of a buffer leaves its identity. -/
theorem ids_set (pools : List BufferPool) (found : room.buffers[number]? = some b) {b' : Buffer}
    (same : b'.id = b.id) : ids ⟨pools, room.buffers.set number b'⟩ = room.ids := by
  obtain ⟨bound, rfl⟩ := List.getElem?_eq_some_iff.mp found
  rw [ids, List.map_set, same, ids, ← List.map_set, List.set_getElem_self]

/-- Whether a buffer of the identity can have appeared by now. -/
def Made (room : BufferRoom) : BufferId → Prop
  | .lent key loan => ∃ pool, room.pools[key]? = some pool ∧ loan < pool.loans
  | .foreign number => number < room.buffers.length

/-- The pools are keyed by their places, and no two buffers are the same one. -/
structure Tidy (room : BufferRoom) : Prop where
  keyed : ∀ (key : Nat) (pool : BufferPool), room.pools[key]? = some pool → pool.key = key
  made : ∀ id ∈ room.ids, room.Made id
  distinct : room.ids.Nodup

/-- The next buffer that a pool lends is a new one. -/
theorem not_made_next (lender : room.pools[key]? = some pool) :
    ¬ room.Made (.lent key pool.loans) := by
  rintro ⟨same, found, below⟩
  obtain rfl : pool = same := Option.some.inj (lender.symm.trans found)
  exact Nat.lt_irrefl _ below

/-- Two numbers of the same buffer are one. -/
theorem Tidy.eq_id_iff (tidy : room.Tidy) (there : room.buffers[number]? = some b) {other : Nat}
    (found : room.ids[other]? = some id) : id = b.id ↔ number = other := by
  have own := getElem?_ids there
  obtain ⟨bound, -⟩ := List.getElem?_eq_some_iff.mp own
  rw [← List.getElem?_inj bound tidy.distinct, own, found, Option.some_inj, eq_comm]

namespace Took

variable (took : Took room e later)
include took

theorem keyed (tidy : room.Tidy) :
    ∀ (key : Nat) (pool : BufferPool), later.pools[key]? = some pool → pool.key = key := by
  cases took with
  | @lent key pool lender =>
      have own : pool.allocate.2.key = key := tidy.keyed key pool lender
      exact forall_getElem?_set (fun other pool _ => tidy.keyed other pool) own
  | @returned number key loan b pool found lender known =>
      have own : (pool.settle loan).key = key := tidy.keyed key pool lender
      exact forall_getElem?_set (fun other pool _ => tidy.keyed other pool) own
  | _ => exact tidy.keyed

/-- Pools stay, and none forgets a loan. -/
theorem exists_pool (lender : room.pools[key]? = some pool) :
    ∃ pool', later.pools[key]? = some pool' ∧ pool.loans ≤ pool'.loans := by
  have replaced {other : Nat} {old new : BufferPool} (found : room.pools[other]? = some old)
      (more : old.loans ≤ new.loans) :
      ∃ pool', (room.pools.set other new)[key]? = some pool' ∧ pool.loans ≤ pool'.loans := by
    obtain ⟨bound, -⟩ := List.getElem?_eq_some_iff.mp found
    by_cases same : other = key
    · subst same
      obtain rfl : old = pool := Option.some.inj (found.symm.trans lender)
      exact ⟨new, List.getElem?_set_self bound, more⟩
    · exact ⟨pool, (List.getElem?_set_ne same).trans lender, Nat.le_refl _⟩
  cases took with
  | lent found => exact replaced found (Nat.le_succ _)
  | returned _ found => exact replaced found (Nat.le_refl _)
  | _ => exact ⟨pool, lender, Nat.le_refl _⟩

theorem length_buffers_le : room.buffers.length ≤ later.buffers.length := by
  cases took with
  | refused => exact Nat.le_refl _
  | _ => simp

theorem made (h : room.Made id) : later.Made id := by
  cases id with
  | lent key loan =>
      obtain ⟨pool, lender, below⟩ := h
      obtain ⟨pool', lender', more⟩ := took.exists_pool lender
      exact ⟨pool', lender', Nat.lt_of_lt_of_le below more⟩
  | foreign number => exact Nat.lt_of_lt_of_le h took.length_buffers_le

/-- A buffer that appears is none of those that could be there. -/
theorem ids (tidy : room.Tidy) : later.ids = room.ids ∨
    ∃ id, later.ids = room.ids ++ [id] ∧ ¬ room.Made id ∧ later.Made id := by
  cases took with
  | @lent key pool lender =>
      obtain ⟨bound, -⟩ := List.getElem?_eq_some_iff.mp lender
      refine .inr ⟨pool.allocate.1.id, ids_concat room _ _, ?_, ?_⟩
      · rw [BufferPool.id_allocate, tidy.keyed key pool lender]
        exact not_made_next lender
      · rw [BufferPool.id_allocate, tidy.keyed key pool lender]
        exact ⟨_, List.getElem?_set_self bound, Nat.lt_succ_self _⟩
  | brought =>
      refine .inr ⟨.foreign room.buffers.length, ids_concat room _ _, Nat.lt_irrefl _, ?_⟩
      change room.buffers.length < (room.buffers ++ [_]).length
      simp
  | @appended number record b found => exact .inl (ids_set _ found (b.id_push record))
  | @returned number key loan b pool found => exact .inl (ids_set _ found b.id_cleared)
  | refused => exact .inl rfl

theorem tidy (tidy : room.Tidy) : later.Tidy := by
  have still : ∀ id ∈ room.ids, later.Made id := fun id member => took.made (tidy.made id member)
  rcases took.ids tidy with same | ⟨id, more, new, made⟩
  · refine ⟨took.keyed tidy, ?_, ?_⟩ <;> rw [same]
    · exact still
    · exact tidy.distinct
  · refine ⟨took.keyed tidy, ?_, ?_⟩ <;> rw [more]
    · exact List.forall_mem_append.mpr ⟨still, List.forall_mem_singleton.mpr made⟩
    · rw [← List.concat_eq_append]
      exact tidy.distinct.concat fun member => new (tidy.made id member)

end Took

/-! ## New rooms -/

theorem fresh_of_pageSize [Host] {size : Option Int}
    (made : BufferPool.ofPageSize? key size = .ok pool) :
    pool.key = key ∧ pool.liveCount = 0 := by
  cases size with
  | none =>
      cases made
      exact ⟨rfl, rfl⟩
  | some size =>
      rw [BufferPool.ofPageSize?, BufferPool.ofPageSize] at made
      split at made
      · cases made
        exact ⟨rfl, rfl⟩
      · cases made

/-- A new room has a pool for each size and no buffers, and its pools have lent nothing. -/
theorem new_of_pageSizes [Host] {sizes : List (Option Int)}
    (made : ofPageSizes sizes = .ok room) :
    room.buffers = [] ∧ room.pools.length = sizes.length ∧
      ∀ (key : Nat) (pool : BufferPool), room.pools[key]? = some pool →
        pool.key = key ∧ pool.liveCount = 0 := by
  obtain ⟨pools, computed, whole⟩ := bind_eq_ok_iff.mp made
  cases whole
  have each := mapM_eq_ok_iff.mp computed
  refine ⟨rfl, ?_, ?_⟩
  · have lengths := congrArg List.length each
    simpa using lengths.symm
  · intro key pool found
    have own := congrArg (·[key]?) each
    simp only [List.getElem?_map, List.getElem?_zipIdx, found, Option.map_map] at own
    obtain ⟨size, -, fresh⟩ := Option.map_eq_some_iff.mp own
    exact fresh_of_pageSize (by simpa using fresh)

theorem tidy_of_new [Host] {sizes : List (Option Int)} (made : ofPageSizes sizes = .ok room) :
    room.Tidy := by
  obtain ⟨empty, -, pools⟩ := new_of_pageSizes made
  have noIds : room.ids = [] := congrArg (List.map Buffer.id) empty
  refine ⟨fun key pool found => (pools key pool found).1, ?_, ?_⟩ <;> rw [noIds]
  · exact fun _ member => absurd member List.not_mem_nil
  · exact .nil

end BufferRoom

end TypedPages
