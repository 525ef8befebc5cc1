import TypedPages.Proofs.Rooms

/-!
# Whose buffer it is

A pool takes a buffer back exactly if it has lent it and the buffer was not taken back since. It
does not matter what the buffer holds, nor what was done with others. A buffer that is taken back is
emptied, and no other buffer changes with it; a refusal changes nothing at all. So a pool has as
many buffers out as it has lent, less those that it has taken back.
-/

namespace TypedPages

namespace BufferRoom

namespace Event

/-- The pool that lent a buffer, with the number of the buffer. -/
def lent? (e : Event) : Option (Nat × Nat) :=
  match e.step, e.answer with
  | .allocate key, .ok (.number number) => some (key, number)
  | _, _ => none

/-- The pool that took a buffer back, with the number of the buffer. -/
def returned? (e : Event) : Option (Nat × Nat) :=
  match e.step, e.answer with
  | .release number key, .ok _ => some (key, number)
  | _, _ => none

end Event

/-- How often the pool of a key has done what is read off the events: has lent a buffer, or has
taken one back. -/
def tally (deed? : Event → Option (Nat × Nat)) (key : Nat) (past : List Event) : Nat :=
  (past.filterMap deed?).countP fun deed => deed.1 == key

/-- The pool of a key has lent the buffer of a number, and since then no pool has taken it back. -/
def Out (key number : Nat) (past : List Event) : Prop :=
  ∃ before loan since, past = before ++ loan :: since ∧ loan.lent? = some (key, number) ∧
    ∀ e ∈ since, ∀ taker, e.returned? ≠ some (taker, number)

variable {room later : BufferRoom} {e : Event} {past : List Event}
variable {pool : BufferPool} {b : Buffer} {id : BufferId} {key number other loan : Nat}

/-! ## What one more event means -/

theorem out_concat_iff :
    Out key number (past ++ [e]) ↔ e.lent? = some (key, number) ∨
      Out key number past ∧ ∀ taker, e.returned? ≠ some (taker, number) := by
  constructor
  · rintro ⟨before, loan, since, split, lent, kept⟩
    -- Either the loan is the last event, or the last event came after it.
    rcases List.eq_nil_or_concat since with rfl | ⟨since, last, rfl⟩
    · obtain ⟨-, same⟩ := List.append_inj' split rfl
      cases same
      exact .inl lent
    · rw [List.concat_eq_append] at split kept
      rw [← List.cons_append, ← List.append_assoc] at split
      obtain ⟨rfl, same⟩ := List.append_inj' split rfl
      cases same
      refine .inr ⟨⟨before, loan, since, rfl, lent, ?_⟩, kept e (by simp)⟩
      intro earlier member
      exact kept earlier (List.mem_append_left [e] member)
  · rintro (lent | ⟨⟨before, loan, since, rfl, lent, kept⟩, keeps⟩)
    · exact ⟨past, e, [], rfl, lent, by simp⟩
    · refine ⟨before, loan, since ++ [e], by simp, lent, ?_⟩
      intro e' member
      rcases List.mem_append.mp member with earlier | last
      · exact kept e' earlier
      · rwa [List.mem_singleton.mp last]

theorem out_concat_iff_of_lent {lender new : Nat} (lends : e.lent? = some (lender, new))
    (takes : e.returned? = none) :
    Out key number (past ++ [e]) ↔ lender = key ∧ new = number ∨ Out key number past := by
  simp [out_concat_iff, lends, takes]

theorem out_concat_iff_of_returned {taker given : Nat} (lends : e.lent? = none)
    (takes : e.returned? = some (taker, given)) :
    Out key number (past ++ [e]) ↔ Out key number past ∧ ¬ given = number := by
  simp [out_concat_iff, lends, takes]

theorem out_concat_iff_of_idle (lends : e.lent? = none) (takes : e.returned? = none) :
    Out key number (past ++ [e]) ↔ Out key number past := by
  simp [out_concat_iff, lends, takes]

theorem tally_concat_of_some {deed? : Event → Option (Nat × Nat)} {doer : Nat}
    (done : deed? e = some (doer, number)) :
    tally deed? key (past ++ [e]) = tally deed? key past + if doer = key then 1 else 0 := by
  simp [tally, done, List.countP_cons]

theorem tally_concat_of_none {deed? : Event → Option (Nat × Nat)} (idle : deed? e = none) :
    tally deed? key (past ++ [e]) = tally deed? key past := by
  simp [tally, idle]

/-! ## What the pools wait for -/

/-- The pool of a key waits for the buffer of an identity. -/
def Lent (room : BufferRoom) (key : Nat) (id : BufferId) : Prop :=
  ∃ pool, room.pools[key]? = some pool ∧ id ∈ pool.out

theorem lent_iff (lender : room.pools[key]? = some pool) : room.Lent key id ↔ id ∈ pool.out := by
  constructor
  · rintro ⟨same, found, out⟩
    obtain rfl : pool = same := Option.some.inj (lender.symm.trans found)
    exact out
  · intro out
    exact ⟨pool, lender, out⟩

theorem Tidy.eq_lent (tidy : room.Tidy) (h : room.Lent key id) :
    ∃ loan, id = .lent key loan ∧ room.Made (.lent key loan) := by
  obtain ⟨pool, lender, out⟩ := h
  obtain ⟨loan, rfl, below⟩ := BufferPool.eq_lent_of_mem_out out
  rw [tidy.keyed key pool lender]
  exact ⟨loan, rfl, pool, lender, below⟩

theorem Tidy.made_of_lent (tidy : room.Tidy) (h : room.Lent key id) : room.Made id := by
  obtain ⟨loan, rfl, made⟩ := tidy.eq_lent h
  exact made

theorem lent_set_iff {pool' : BufferPool} {buffers : List Buffer}
    (lender : room.pools[key]? = some pool) :
    Lent ⟨room.pools.set key pool', buffers⟩ other id ↔
      if other = key then id ∈ pool'.out else room.Lent other id := by
  split
  · rename_i same
    subst same
    obtain ⟨bound, -⟩ := List.getElem?_eq_some_iff.mp lender
    exact lent_iff (List.getElem?_set_self bound)
  · rename_i different
    rw [Lent, List.getElem?_set_ne (Ne.symm different)]
    rfl

theorem lent_allocate_iff (tidy : room.Tidy) {buffers : List Buffer}
    (lender : room.pools[key]? = some pool) :
    Lent ⟨room.pools.set key pool.allocate.2, buffers⟩ other id ↔
      room.Lent other id ∨ other = key ∧ id = .lent key pool.loans := by
  rw [lent_set_iff lender, BufferPool.out_allocate, List.mem_append, List.mem_singleton,
    tidy.keyed key pool lender]
  split
  · rename_i same
    subst same
    simp [lent_iff lender]
  · rename_i different
    simp [different]

/-- A loan that ends is no longer waited for, by the pool that made it nor by another one. -/
theorem lent_settle_iff (tidy : room.Tidy) {buffers : List Buffer} {ended : BufferId}
    (lender : room.pools[key]? = some pool) (known : pool.loan? ended = some loan) :
    Lent ⟨room.pools.set key (pool.settle loan), buffers⟩ other id ↔
      room.Lent other id ∧ id ≠ ended := by
  rw [lent_set_iff lender, BufferPool.out_settle known, pool.nodup_out.mem_erase_iff]
  split
  · rename_i same
    subst same
    rw [lent_iff lender, and_comm]
  · rename_i different
    obtain ⟨rfl, -⟩ := BufferPool.loan?_eq_some_iff.mp known
    refine (and_iff_left_of_imp ?_).symm
    rintro lent rfl
    obtain ⟨_, own, -⟩ := tidy.eq_lent lent
    cases own
    exact different (tidy.keyed key pool lender)

/-! ## What is out is waited for -/

/-- Of the buffers in the room the pools wait for those that are out after the events. -/
structure Agrees (past : List Event) (room : BufferRoom) : Prop where
  tidy : room.Tidy
  within : ∀ key number, Out key number past → number < room.ids.length
  lent_iff_out : ∀ (key number : Nat) (id : BufferId), room.ids[number]? = some id →
    (room.Lent key id ↔ Out key number past)

theorem agrees_of_new [Host] {sizes : List (Option Int)} (made : ofPageSizes sizes = .ok room) :
    Agrees [] room := by
  refine ⟨tidy_of_new made, ?_, ?_⟩
  · rintro key number ⟨before, loan, since, split, -⟩
    exact absurd split.symm (List.append_ne_nil_of_right_ne_nil before (List.cons_ne_nil _ _))
  · intro key number id found
    rw [ids, (new_of_pageSizes made).1] at found
    cases found

namespace Agrees

variable (h : Agrees past room)
include h

theorem not_out_new (key : Nat) : ¬ Out key room.ids.length past :=
  fun out => Nat.lt_irrefl _ (h.within key _ out)

theorem within_took (took : Took room e later) (out : Out key number (past ++ [e])) :
    number < later.ids.length := by
  rw [length_ids]
  rcases out_concat_iff.mp out with lent | ⟨out, -⟩
  · cases took with
    | lent lender =>
        cases lent
        simp
    | _ => cases lent
  · have early := h.within key number out
    rw [length_ids] at early
    exact Nat.lt_of_lt_of_le early took.length_buffers_le

/-- The buffer that is lent is out, and nothing changes with the others. -/
theorem lent_iff_out_allocate (lender : room.pools[key]? = some pool)
    (found : (room.ids ++ [pool.allocate.1.id])[number]? = some id) :
    room.Lent other id ∨ other = key ∧ id = .lent key pool.loans ↔
      key = other ∧ room.ids.length = number ∨ Out other number past := by
  have new := not_made_next lender
  rw [BufferPool.id_allocate, h.tidy.keyed key pool lender] at found
  rcases getElem?_concat_cases found with old | ⟨rfl, rfl⟩
  · have different : id ≠ .lent key pool.loans := by
      rintro rfl
      exact new (h.tidy.made _ (List.mem_of_getElem? old))
    have before : room.ids.length ≠ number :=
      Nat.ne_of_gt (List.getElem?_eq_some_iff.mp old).1
    simp [different, before, h.lent_iff_out other number id old]
  · have unlent : ¬ room.Lent other (.lent key pool.loans) :=
      fun lent => new (h.tidy.made_of_lent lent)
    simp [unlent, h.not_out_new, eq_comm]

theorem lent_iff_out_took (took : Took room e later) (found : later.ids[number]? = some id) :
    later.Lent key id ↔ Out key number (past ++ [e]) := by
  cases took with
  | lent lender =>
      rw [ids_concat] at found
      rw [lent_allocate_iff h.tidy lender, out_concat_iff_of_lent rfl rfl, ← length_ids]
      exact h.lent_iff_out_allocate lender found
  | brought =>
      rw [ids_concat] at found
      rw [out_concat_iff_of_idle rfl rfl]
      rcases getElem?_concat_cases found with old | ⟨rfl, rfl⟩
      · exact h.lent_iff_out key number id old
      · refine iff_of_false ?_ (h.not_out_new key)
        intro lent
        exact Nat.lt_irrefl _ (h.tidy.made_of_lent lent)
  | @appended _ record b there =>
      rw [ids_set _ there (b.id_push record)] at found
      rw [out_concat_iff_of_idle rfl rfl]
      exact h.lent_iff_out key number id found
  | @returned _ _ _ b _ there lender known =>
      rw [ids_set _ there b.id_cleared] at found
      rw [lent_settle_iff h.tidy lender known, out_concat_iff_of_returned rfl rfl,
        h.lent_iff_out key number id found, ne_eq, h.tidy.eq_id_iff there found]
  | refused =>
      rw [out_concat_iff_of_idle rfl rfl]
      exact h.lent_iff_out key number id found

theorem took (took : Took room e later) : Agrees (past ++ [e]) later :=
  ⟨took.tidy h.tidy, fun _ _ => h.within_took took, fun _ _ _ => h.lent_iff_out_took took⟩

/-- A pool knows the loan of a buffer exactly if the buffer is out. -/
theorem exists_loan_iff (found : room.buffers[number]? = some b)
    (lender : room.pools[key]? = some pool) :
    (∃ loan, pool.loan? b.id = some loan) ↔ Out key number past := by
  rw [← h.lent_iff_out key number b.id (getElem?_ids found), lent_iff lender,
    BufferPool.mem_out_iff]

theorem step_release_of_out (found : room.buffers[number]? = some b)
    (lender : room.pools[key]? = some pool) (out : Out key number past) :
    ∃ loan ∈ pool.live, room.step (.release number key) =
      (.ok .done, ⟨room.pools.set key (pool.settle loan), room.buffers.set number b.cleared⟩) := by
  obtain ⟨loan, known⟩ := (h.exists_loan_iff found lender).mpr out
  obtain ⟨-, live⟩ := BufferPool.loan?_eq_some_iff.mp known
  exact ⟨loan, live, step_release_of_loan found lender known⟩

theorem step_release_of_not_out (found : room.buffers[number]? = some b)
    (lender : room.pools[key]? = some pool) (kept : ¬ Out key number past) :
    room.step (.release number key) = (.error (.violation .deadBuffer), room) := by
  apply step_release_of_unknown found lender
  rw [Option.eq_none_iff_forall_ne_some]
  intro loan known
  exact kept ((h.exists_loan_iff found lender).mp ⟨loan, known⟩)

end Agrees

/-! ## How much is out -/

/-- Every pool has out what it has lent, less what it has taken back. -/
def Balanced (past : List Event) (room : BufferRoom) : Prop :=
  ∀ (key : Nat) (pool : BufferPool), room.pools[key]? = some pool →
    pool.liveCount + tally Event.returned? key past = tally Event.lent? key past

theorem balanced_of_new [Host] {sizes : List (Option Int)} (made : ofPageSizes sizes = .ok room) :
    Balanced [] room := by
  obtain ⟨-, -, pools⟩ := new_of_pageSizes made
  intro key pool found
  exact (pools key pool found).2

namespace Balanced

variable (h : Balanced past room)
include h

theorem idle (same : later.pools = room.pools) (lends : e.lent? = none)
    (takes : e.returned? = none) : Balanced (past ++ [e]) later := by
  intro key pool found
  rw [tally_concat_of_none lends, tally_concat_of_none takes]
  rw [same] at found
  exact h key pool found

theorem took (took : Took room e later) : Balanced (past ++ [e]) later := by
  cases took with
  | @lent key pool lender =>
      refine forall_getElem?_set ?_ ?_
      · intro other p different found
        rw [tally_concat_of_none rfl, tally_concat_of_some rfl, if_neg different.symm]
        exact h other p found
      · have before := h key pool lender
        rw [tally_concat_of_none rfl, tally_concat_of_some rfl, if_pos rfl,
          BufferPool.liveCount_allocate]
        omega
  | brought => exact h.idle rfl rfl rfl
  | appended => exact h.idle rfl rfl rfl
  | @returned number key loan b pool found lender known =>
      refine forall_getElem?_set ?_ ?_
      · intro other p different found
        rw [tally_concat_of_some rfl, tally_concat_of_none rfl, if_neg different.symm]
        exact h other p found
      · have before := h key pool lender
        obtain ⟨-, live⟩ := BufferPool.loan?_eq_some_iff.mp known
        have fewer := BufferPool.liveCount_settle live
        rw [tally_concat_of_some rfl, tally_concat_of_none rfl, if_pos rfl]
        omega
  | refused => exact h.idle rfl rfl rfl

end Balanced

/-! ## Any course of steps -/

section

variable [Host] {sizes : List (Option Int)}

theorem agrees_after (made : ofPageSizes sizes = .ok room) (steps : List Step) :
    Agrees (room.history steps) (room.after steps) :=
  history_induction (agrees_of_new made) Agrees.took steps

theorem balanced_after (made : ofPageSizes sizes = .ok room) (steps : List Step) :
    Balanced (room.history steps) (room.after steps) :=
  history_induction (balanced_of_new made) Balanced.took steps

theorem exists_pool_after (made : ofPageSizes sizes = .ok room) (steps : List Step)
    (below : key < sizes.length) : ∃ pool, (room.after steps).pools[key]? = some pool := by
  obtain ⟨-, length, -⟩ := new_of_pageSizes made
  rw [← length, ← length_pools_after room steps] at below
  exact ⟨_, List.getElem?_eq_getElem below⟩

/-- Whatever was done in a room with any number of pools, a pool has out what it has lent, less what
it has taken back. It takes a buffer exactly if the buffer is out, lent by this pool and not taken
back since; the buffer is then empty, and the pool has one less out. Any other buffer is refused,
and all pools and buffers stay as they are. No other buffer changes either way. -/
theorem release_ok_iff_out (made : ofPageSizes sizes = .ok room) (steps : List Step) :
    (∀ key < sizes.length, ∃ live, (room.after steps).liveCounts[key]? = some live ∧
      live + tally Event.returned? key (room.history steps) =
        tally Event.lent? key (room.history steps)) ∧
    ∀ number < (room.after steps).buffers.length, ∀ key < sizes.length, ∀ answer later,
      (room.after steps).step (.release number key) = (answer, later) →
        (answer = .ok .done ↔ Out key number (room.history steps)) ∧
        (Out key number (room.history steps) →
          later.contents = (room.after steps).contents.set number [] ∧
          ∃ live, (room.after steps).liveCounts[key]? = some (live + 1) ∧
            later.liveCounts = (room.after steps).liveCounts.set key live) ∧
        (¬ Out key number (room.history steps) →
          answer = .error (.violation .deadBuffer) ∧ later = room.after steps) ∧
        ∀ other ≠ number, later.contents[other]? = (room.after steps).contents[other]? := by
  have agrees := agrees_after made steps
  refine ⟨?_, ?_⟩
  · intro key below
    obtain ⟨pool, lender⟩ := exists_pool_after made steps below
    exact ⟨pool.liveCount, getElem?_liveCounts lender, balanced_after made steps key pool lender⟩
  · intro number inside key below answer later released
    obtain ⟨pool, lender⟩ := exists_pool_after made steps below
    have found := List.getElem?_eq_getElem inside
    by_cases out : Out key number (room.history steps)
    · obtain ⟨loan, live, taken⟩ := agrees.step_release_of_out found lender out
      cases released.symm.trans taken
      rw [contents_set_cleared, liveCounts_set]
      refine ⟨iff_of_true rfl out, fun _ => ⟨rfl, _, ?_, rfl⟩, absurd out, ?_⟩
      · rw [BufferPool.liveCount_settle live]
        exact getElem?_liveCounts lender
      · intro other different
        exact List.getElem?_set_ne different.symm
    · have refused := agrees.step_release_of_not_out found lender out
      cases released.symm.trans refused
      refine ⟨iff_of_false nofun out, ?_, fun _ => ⟨rfl, rfl⟩, fun _ _ => rfl⟩
      exact fun lent => absurd lent out

end

namespace Sample

def twoPools : BufferRoom :=
  ⟨[.fresh 0 2 (Nat.zero_lt_succ 1), .standard 1], []⟩

/-- Each pool lends a buffer and a third one comes from elsewhere. A record goes into each; then the
second pool is offered the buffer of the first one in vain, takes its own, and what it has taken
back is written to. -/
def steps : List Step :=
  [.allocate 0, .allocate 1, .foreign, .append 0, .append 1, .append 2, .release 0 1, .release 1 1,
    .append 1]

end Sample

/-- Three buffers that hold the same are told apart: only the first one is out, and for its own pool
alone. -/
theorem sample_release_ok :
    ofPageSizes [some 2, none] = .ok Sample.twoPools ∧
    (Sample.twoPools.after Sample.steps).contents = [[[]], [[]], [[]]] ∧
    Out 0 0 (Sample.twoPools.history Sample.steps) ∧
    ¬ Out 1 0 (Sample.twoPools.history Sample.steps) ∧
    ¬ Out 1 1 (Sample.twoPools.history Sample.steps) ∧
    ¬ Out 0 2 (Sample.twoPools.history Sample.steps) := by
  have made : ofPageSizes [some 2, none] = .ok Sample.twoPools := rfl
  obtain ⟨-, release⟩ := release_ok_iff_out made Sample.steps
  refine ⟨made, rfl, ?_, ?_, ?_, ?_⟩
  · exact (release 0 (by decide) 0 (by decide) _ _ rfl).1.mp rfl
  · exact (release 0 (by decide) 1 (by decide) _ _ rfl).1.not.mp nofun
  · exact (release 1 (by decide) 1 (by decide) _ _ rfl).1.not.mp nofun
  · exact (release 2 (by decide) 0 (by decide) _ _ rfl).1.not.mp nofun

end BufferRoom

end TypedPages
