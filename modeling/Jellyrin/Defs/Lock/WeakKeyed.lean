import Jellyrin.Defs.Data.FixedWidth
import Jellyrin.Defs.Data.HashMap
import Jellyrin.Defs.Transition.Machine

/-! What a keyed lock is for: at any moment at most one party is inside for each
key.  Parties and keys are arbitrary. -/

universe u v

namespace Jellyrin.Lock

open Transition

inductive KeyedMutex.Action (ι : Type u) (K : Type v) where
  | enter (party : ι) (key : K)
  | leave (party : ι)

noncomputable def KeyedMutex (ι : Type u) (K : Type v) [DecidableEq ι] :
    Machine (ι → Option K) (KeyedMutex.Action ι K) :=
  open Classical in
  { init := fun _ => none
    step := fun inside action =>
      match action with
      | .enter party key =>
        if ∀ other, inside other ≠ some key then
          some (Function.update inside party (some key))
        else none
      | .leave party => some (Function.update inside party none) }

namespace KeyedMutex

variable {ι : Type u} {K : Type v} [DecidableEq ι]

def Exclusive (inside : ι → Option K) : Prop :=
  ∀ i j key, inside i = some key → inside j = some key → i = j

theorem step_enter {inside : ι → Option K} {party : ι} {key : K}
    (h : ∀ other, inside other ≠ some key) :
    (KeyedMutex ι K).step inside (.enter party key) =
      some (Function.update inside party (some key)) := by
  simp only [KeyedMutex]
  rw [if_pos h]

theorem step_leave (inside : ι → Option K) (party : ι) :
    (KeyedMutex ι K).step inside (.leave party) = some (Function.update inside party none) :=
  rfl

theorem Exclusive.enter {inside : ι → Option K} (hi : Exclusive inside)
    {party : ι} {key : K} (h : ∀ other, inside other ≠ some key) :
    Exclusive (Function.update inside party (some key)) := by
  intro i j k hik hjk
  by_cases hip : i = party
  · subst hip
    by_cases hjp : j = i
    · exact hjp.symm
    · rw [Function.update_self] at hik
      rw [Function.update_of_ne hjp] at hjk
      cases hik
      exact absurd hjk (h j)
  · rw [Function.update_of_ne hip] at hik
    by_cases hjp : j = party
    · subst hjp
      rw [Function.update_self] at hjk
      cases hjk
      exact absurd hik (h i)
    · rw [Function.update_of_ne hjp] at hjk
      exact hi i j k hik hjk

theorem Exclusive.leave {inside : ι → Option K} (hi : Exclusive inside)
    (party : ι) : Exclusive (Function.update inside party none) := by
  intro i j k hik hjk
  by_cases hip : i = party
  · subst hip
    simp at hik
  · by_cases hjp : j = party
    · subst hjp
      simp at hjk
    · rw [Function.update_of_ne hip] at hik
      rw [Function.update_of_ne hjp] at hjk
      exact hi i j k hik hjk

theorem exclusive_of_reachable {inside : ι → Option K}
    (h : (KeyedMutex ι K).Reachable inside) : Exclusive inside := by
  refine h.invariant (fun i j key hi => by cases hi) ?_
  intro inside action inside' hi ha
  cases action with
  | enter party key =>
    by_cases hfree : ∀ other, inside other ≠ some key
    · rw [step_enter hfree] at ha
      cases ha
      exact hi.enter hfree
    · simp only [KeyedMutex] at ha
      rw [if_neg hfree] at ha
      cases ha
  | leave party =>
    rw [step_leave] at ha
    cases ha
    exact hi.leave party

end KeyedMutex

end Jellyrin.Lock

/-! The bounded registry of per-key locks.  Strong references live in the handles
that callers hold; the registry itself owns only the overflow lock. -/

namespace Jellyrin.Lock

open Transition

abbrev MutexId := Nat

def keyedLockPruneInterval : UInt64 := 64

structure WeakKeyedLockRegistry (K : Type u) where
  entries : HashMap K MutexId
  overflow : MutexId
  operationsSincePrune : UInt64
  maxEntries : UInt64

namespace WeakKeyedLockRegistry

variable {K : Type u} [DecidableEq K]

def upgrade (strongCount : MutexId → Nat) (lock : MutexId) : Option MutexId :=
  if 0 < strongCount lock then some lock else none

omit [DecidableEq K] in
def pruneDead (strongCount : MutexId → Nat) (registry : WeakKeyedLockRegistry K) :
    WeakKeyedLockRegistry K :=
  { registry with
    entries := registry.entries.retain fun _ lock => decide (0 < strongCount lock)
    operationsSincePrune := 0 }

def lockFor (strongCount : MutexId → Nat) (fresh : MutexId) (key : K)
    (registry : WeakKeyedLockRegistry K) : MutexId × WeakKeyedLockRegistry K :=
  match (registry.entries.lookup key).bind (upgrade strongCount) with
  | some lock => (lock, registry)
  | none =>
    let registry := { registry with entries := registry.entries.erase key }
    if 1 < strongCount registry.overflow then (registry.overflow, registry)
    else
      let registry := { registry with
        operationsSincePrune := U64.saturatingAdd registry.operationsSincePrune 1 }
      let registry :=
        if keyedLockPruneInterval ≤ registry.operationsSincePrune ∨
            registry.maxEntries.toNat ≤ registry.entries.size then
          registry.pruneDead strongCount
        else registry
      if registry.maxEntries.toNat ≤ registry.entries.size then (registry.overflow, registry)
      else (fresh, { registry with entries := registry.entries.insert key fresh })

end WeakKeyedLockRegistry

/-- A strong reference in the hands of a caller, and whether its holder is past
`lock().await`. -/
structure Handle (K : Type u) where
  id : Nat
  key : K
  mutex : MutexId
  inside : Bool

structure World (K : Type u) where
  registry : WeakKeyedLockRegistry K
  handles : List (Handle K)
  nextHandle : Nat
  nextMutex : MutexId

inductive Action (K : Type u) where
  | lockFor (key : K)
  | clone (id : Nat)
  | drop (id : Nat)
  | enter (id : Nat)
  | leave (id : Nat)

namespace World

variable {K : Type u} [DecidableEq K]

omit [DecidableEq K] in
def new (maxEntries : UInt64) : World K where
  registry := ⟨∅, 0, 0, maxEntries⟩
  handles := []
  nextHandle := 0
  nextMutex := 1

omit [DecidableEq K] in
/-- `Arc::strong_count`: the registry holds one reference to the overflow lock. -/
def strongCount (w : World K) (lock : MutexId) : Nat :=
  (if lock = w.registry.overflow then 1 else 0) + w.handles.countP (·.mutex = lock)

omit [DecidableEq K] in
def handle (w : World K) (id : Nat) : Option (Handle K) := w.handles.find? (·.id = id)

omit [DecidableEq K] in
def push (w : World K) (key : K) (lock : MutexId) : World K :=
  { w with handles := ⟨w.nextHandle, key, lock, false⟩ :: w.handles,
           nextHandle := w.nextHandle + 1 }

def lockFor (w : World K) (key : K) : World K :=
  let (lock, registry) := w.registry.lockFor w.strongCount w.nextMutex key
  ({ w with registry, nextMutex := w.nextMutex + 1 } : World K).push key lock

omit [DecidableEq K] in
def setInside (w : World K) (id : Nat) (inside : Bool) : World K :=
  { w with handles := w.handles.map fun handle =>
      if handle.id = id then { handle with inside } else handle }

/-- A mutex admits one guard at a time; a dropped handle takes its guard along. -/
def step (w : World K) : Action K → Option (World K)
  | .lockFor key => some (w.lockFor key)
  | .clone id => (w.handle id).map fun handle => w.push handle.key handle.mutex
  | .drop id => some { w with handles := w.handles.filter (·.id ≠ id) }
  | .enter id => (w.handle id).bind fun handle =>
    if w.handles.any fun other => other.mutex = handle.mutex && other.inside then none
    else some (w.setInside id true)
  | .leave id => some (w.setInside id false)

end World

def WeakKeyedLockRegistry.new {K : Type u} [DecidableEq K] (maxEntries : UInt64) :
    Machine (World K) (Action K) where
  init := World.new maxEntries
  step := World.step

end Jellyrin.Lock
