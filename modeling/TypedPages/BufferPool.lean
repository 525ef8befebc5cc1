import TypedPages.Error

/-!
# Buffer pools

A pool lends buffers and knows which of its buffers are still out. Buffers have an identity: two
buffers that hold the same records are told apart by who lent them and when.
-/

namespace TypedPages

/-- The identity of a buffer: the pool that lent it with the number of the loan, or none. -/
inductive BufferId where
  | lent (pool loan : Nat)
  | foreign (number : Nat)
  deriving DecidableEq, Repr, Inhabited

/-- Records that wait to become a page. -/
structure Buffer where
  id : BufferId
  records : List Record
  deriving Inhabited

/-- A lender of buffers. `key` tells it from other pools; `pageSize` is the number of records at
which a buffer is full; `loans` counts the buffers that were lent, and `live` holds the numbers of
those that are out. -/
structure BufferPool where
  key : Nat
  pageSize : Nat
  pageSize_pos : 0 < pageSize
  loans : Nat
  live : List Nat
  live_lt : ∀ loan ∈ live, loan < loans
  live_nodup : live.Nodup

namespace Buffer

/-- Appends a record. -/
def push (b : Buffer) (record : Record) : Buffer :=
  { b with records := b.records ++ [record] }

/-- The same buffer without its records. -/
def cleared (b : Buffer) : Buffer :=
  { b with records := [] }

@[simp] theorem id_push (b : Buffer) (record : Record) : (b.push record).id = b.id := rfl

@[simp] theorem records_push (b : Buffer) (record : Record) :
    (b.push record).records = b.records ++ [record] := rfl

@[simp] theorem id_cleared (b : Buffer) : b.cleared.id = b.id := rfl

@[simp] theorem records_cleared (b : Buffer) : b.cleared.records = [] := rfl

end Buffer

namespace BufferPool

/-- The page size of pools for which none is given. -/
def defaultPageSize : Nat := 4096

/-- A pool that has lent nothing. -/
def fresh (key pageSize : Nat) (pageSize_pos : 0 < pageSize) : BufferPool where
  key := key
  pageSize := pageSize
  pageSize_pos := pageSize_pos
  loans := 0
  live := []
  live_lt := by simp
  live_nodup := .nil

/-- A fresh pool of a given page size. A page holds at least one record. -/
def ofPageSize [Host] (key : Nat) (size : Int) : Except Error BufferPool :=
  if h : 1 ≤ size then .ok (fresh key size.toNat (by omega))
  else .error (Error.pageSize size).raised

/-- A fresh pool of the default page size. -/
def standard (key : Nat) : BufferPool :=
  fresh key defaultPageSize (by decide)

instance : Inhabited BufferPool := ⟨standard 0⟩

/-- A pool of the given page size, or of the default size if none is given. -/
def ofPageSize? [Host] (key : Nat) : Option Int → Except Error BufferPool
  | some size => ofPageSize key size
  | none => .ok (standard key)

/-- The number of buffers that are out. -/
def liveCount (pool : BufferPool) : Nat :=
  pool.live.length

/-- Lends an empty buffer. -/
def allocate (pool : BufferPool) : Buffer × BufferPool :=
  (⟨.lent pool.key pool.loans, []⟩,
    { pool with
      loans := pool.loans + 1
      live := pool.live ++ [pool.loans]
      live_lt := by
        intro loan h
        rcases List.mem_append.1 h with h | h
        · exact Nat.lt_succ_of_lt (pool.live_lt loan h)
        · simp_all
      live_nodup := List.nodup_append.2 ⟨pool.live_nodup, by simp, by
        intro a ha b hb
        have := pool.live_lt a ha
        simp_all
        omega⟩ })

@[simp] theorem records_allocate (pool : BufferPool) : pool.allocate.1.records = [] := rfl

@[simp] theorem id_allocate (pool : BufferPool) :
    pool.allocate.1.id = .lent pool.key pool.loans := rfl

@[simp] theorem live_allocate (pool : BufferPool) :
    pool.allocate.2.live = pool.live ++ [pool.loans] := rfl

@[simp] theorem liveCount_allocate (pool : BufferPool) :
    pool.allocate.2.liveCount = pool.liveCount + 1 := by
  simp [liveCount]

/-- The number of the loan by which a buffer is out, if it is one of this pool's. -/
def loan? (pool : BufferPool) (id : BufferId) : Option Nat :=
  match id with
  | .lent key loan => if key = pool.key ∧ loan ∈ pool.live then some loan else none
  | .foreign _ => none

/-- Ends a loan. -/
def settle (pool : BufferPool) (loan : Nat) : BufferPool :=
  { pool with
    live := pool.live.erase loan
    live_lt := fun n h => pool.live_lt n (List.mem_of_mem_erase h)
    live_nodup := pool.live_nodup.erase loan }

/-- Takes a buffer back, which empties it. Refused, with nothing changed, unless the buffer is one
of those that are out. -/
def release (pool : BufferPool) (b : Buffer) : Except Error (Buffer × BufferPool) :=
  match pool.loan? b.id with
  | some loan => .ok (b.cleared, pool.settle loan)
  | none => .error (.violation .deadBuffer)

theorem release_of_loan {pool : BufferPool} {b : Buffer} {loan : Nat}
    (known : pool.loan? b.id = some loan) :
    pool.release b = .ok (b.cleared, pool.settle loan) := by
  rw [release, known]

theorem release_of_unknown {pool : BufferPool} {b : Buffer} (unknown : pool.loan? b.id = none) :
    pool.release b = .error (.violation .deadBuffer) := by
  rw [release, unknown]

theorem loan?_eq_some_iff {pool : BufferPool} {id : BufferId} {loan : Nat} :
    pool.loan? id = some loan ↔ id = .lent pool.key loan ∧ loan ∈ pool.live := by
  cases id <;> grind [loan?]

theorem liveCount_settle {pool : BufferPool} {loan : Nat} (h : loan ∈ pool.live) :
    (pool.settle loan).liveCount + 1 = pool.liveCount := by
  have := List.length_pos_of_mem h
  simp only [liveCount, settle, List.length_erase_of_mem h]
  omega

end BufferPool

/-- Several pools, and the buffers that were lent by them or come from elsewhere, numbered in the
order of their appearance. -/
structure BufferRoom where
  pools : List BufferPool
  buffers : List Buffer

namespace BufferRoom

/-- What can be done in a room. The record that is appended has no cells unless one is given. -/
inductive Step where
  | allocate (pool : Nat)
  | foreign
  | append (buffer : Nat) (record : Record := [])
  | release (buffer pool : Nat)
  deriving Inhabited

/-- What a step answers: the number of a new buffer, the new length of one, or nothing. -/
inductive Answer where
  | done
  | number (n : Nat)
  deriving DecidableEq, Repr, Inhabited

/-- A room with one pool per page size and no buffers. The pools are keyed by their places. -/
def ofPageSizes [Host] (sizes : List (Option Int)) : Except Error BufferRoom := do
  let pools ← sizes.zipIdx.mapM fun (size, key) => BufferPool.ofPageSize? key size
  return ⟨pools, []⟩

/-- The number of buffers that each pool has out. -/
def liveCounts (room : BufferRoom) : List Nat :=
  room.pools.map BufferPool.liveCount

/-- The number of records in each buffer. -/
def lengths (room : BufferRoom) : List Nat :=
  room.buffers.map (·.records.length)

/-- Performs a step. A pool or a buffer that the room does not have leaves it as it is. -/
def step (room : BufferRoom) : Step → Except Error Answer × BufferRoom
  | .allocate k =>
    match room.pools[k]? with
    | none => (.ok .done, room)
    | some pool =>
      let (buffer, pool) := pool.allocate
      (.ok (.number room.buffers.length),
        ⟨room.pools.set k pool, room.buffers ++ [buffer]⟩)
  | .foreign =>
    (.ok (.number room.buffers.length),
      { room with buffers := room.buffers ++ [⟨.foreign room.buffers.length, []⟩] })
  | .append h record =>
    match room.buffers[h]? with
    | none => (.ok .done, room)
    | some buffer =>
      let buffer := buffer.push record
      (.ok (.number buffer.records.length), { room with buffers := room.buffers.set h buffer })
  | .release h k =>
    match room.buffers[h]?, room.pools[k]? with
    | some buffer, some pool =>
      match pool.release buffer with
      | .error e => (.error e, room)
      | .ok (buffer, pool) =>
        (.ok .done, ⟨room.pools.set k pool, room.buffers.set h buffer⟩)
    | _, _ => (.ok .done, room)

end BufferRoom

end TypedPages
