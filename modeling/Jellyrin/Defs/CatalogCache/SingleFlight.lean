import Jellyrin.Defs.Lock.WeakKeyed

/-! Calls that fill the shared cache.  What the cache answers is left open at each lookup, so its
content and its failures are covered. -/

universe u

namespace Jellyrin.CatalogCache

open Lock Transition

def maxSingleFlightKeys : Nat := 128

inductive CacheLookup where
  | hit
  | miss
  | unavailable
  deriving DecidableEq

inductive Phase where
  | looking
  | missed
  /-- Past the cache, without a lock. -/
  | computing
  | waiting (lock : MutexId)
  | rechecking (lock : MutexId)
  | filling (lock : MutexId)
  | bypassing (lock : MutexId)
  | putting (lock : MutexId)
  /-- The payload is there, the guard not dropped yet. -/
  | leaving (lock : MutexId)
  | released (lock : MutexId)
  | finished
  deriving DecidableEq

namespace Phase

def held : Phase → Option MutexId
  | .waiting lock | .rechecking lock | .filling lock | .bypassing lock | .putting lock
  | .leaving lock | .released lock => some lock
  | .looking | .missed | .computing | .finished => none

def isInside : Phase → Bool
  | .rechecking _ | .filling _ | .bypassing _ | .putting _ | .leaving _ => true
  | _ => false

def isActive : Phase → Bool
  | .waiting _ => true
  | phase => phase.isInside

end Phase

inductive Event where
  | lookup (answer : CacheLookup)
  | computed (succeeds : Bool)
  | stored
  | unlock
  | dropLock
  /-- The future is dropped at an await point; its guard and its reference go one after the other. -/
  | cancel

def Phase.after : Phase → Event → Option Phase
  | .looking, .lookup .hit => some .finished
  | .looking, .lookup .miss => some .missed
  | .looking, .lookup .unavailable => some .computing
  | .computing, .computed _ => some .finished
  | .rechecking lock, .lookup .hit => some (.leaving lock)
  | .rechecking lock, .lookup .miss => some (.filling lock)
  | .rechecking lock, .lookup .unavailable => some (.bypassing lock)
  | .filling lock, .computed true => some (.putting lock)
  | .filling lock, .computed false => some (.leaving lock)
  | .bypassing lock, .computed _ => some (.leaving lock)
  | .putting lock, .stored => some (.leaving lock)
  | .leaving lock, .unlock => some (.released lock)
  | .released _, .dropLock => some .finished
  | .looking, .cancel | .missed, .cancel | .computing, .cancel => some .finished
  | .waiting lock, .cancel => some (.released lock)
  | .rechecking lock, .cancel | .filling lock, .cancel | .bypassing lock, .cancel
  | .putting lock, .cancel => some (.leaving lock)
  | _, _ => none

structure Call (K : Type u) where
  key : K
  phase : Phase

structure SharedCatalogCache (K : Type u) where
  fillLocks : HashMap K MutexId
  overflowFillLock : MutexId
  calls : List (Call K)
  nextMutex : MutexId

inductive Action (K : Type u) where
  | call (key : K)
  | fillLock (i : Nat)
  | lock (i : Nat)
  | event (i : Nat) (event : Event)

namespace SharedCatalogCache

variable {K : Type u} [DecidableEq K]

omit [DecidableEq K] in
def strongCount (cache : SharedCatalogCache K) (lock : MutexId) : Nat :=
  1 + cache.calls.countP (·.phase.held = some lock)

omit [DecidableEq K] in
def retained (cache : SharedCatalogCache K) : HashMap K MutexId :=
  cache.fillLocks.retain fun _ lock => decide (1 < cache.strongCount lock)

def fillLock (cache : SharedCatalogCache K) (key : K) : MutexId × SharedCatalogCache K :=
  let locks := cache.retained
  match locks.lookup key with
  | some lock => (lock, { cache with fillLocks := locks })
  | none =>
    if maxSingleFlightKeys ≤ locks.size then
      (cache.overflowFillLock, { cache with fillLocks := locks })
    else
      (cache.nextMutex,
        { cache with
          fillLocks := locks.insert key cache.nextMutex
          nextMutex := cache.nextMutex + 1 })

omit [DecidableEq K] in
def setPhase (cache : SharedCatalogCache K) (i : Nat) (phase : Phase) : SharedCatalogCache K :=
  { cache with calls := cache.calls.modify i fun call => { call with phase } }

/-- `cached_shared_payload`, and its siblings for facets and counts, step by step. -/
def step (cache : SharedCatalogCache K) : Action K → Option (SharedCatalogCache K)
  | .call key => some { cache with calls := cache.calls ++ [⟨key, .looking⟩] }
  | .fillLock i => cache.calls[i]?.bind fun call =>
    if call.phase = .missed then
      let (lock, cache) := cache.fillLock call.key
      some (cache.setPhase i (.waiting lock))
    else none
  | .lock i => cache.calls[i]?.bind fun call =>
    match call.phase with
    | .waiting lock =>
      if cache.calls.any fun other => other.phase.isInside && other.phase.held == some lock then
        none
      else some (cache.setPhase i (.rechecking lock))
    | _ => none
  | .event i event => cache.calls[i]?.bind fun call =>
    (call.phase.after event).map (cache.setPhase i)

omit [DecidableEq K] in
def inside (cache : SharedCatalogCache K) (i : Nat) : Option K :=
  cache.calls[i]?.bind fun call => if call.phase.isInside then some call.key else none

end SharedCatalogCache

def sharedCatalogCache (K : Type u) [DecidableEq K] :
    Machine (SharedCatalogCache K) (Action K) where
  init := ⟨∅, 0, [], 1⟩
  step := SharedCatalogCache.step

/-- A key gets no lock of its own while one of its calls waits for the overflow lock or has it. -/
def KeepsLane {K : Type u} [DecidableEq K] (cache : SharedCatalogCache K) : Action K → Prop
  | .fillLock i => ∀ call ∈ cache.calls[i]?, cache.retained.lookup call.key = none →
      cache.retained.size < maxSingleFlightKeys →
        ∀ other ∈ cache.calls, other.key = call.key → other.phase.isActive = true →
          other.phase.held ≠ some cache.overflowFillLock
  | _ => True

end Jellyrin.CatalogCache
