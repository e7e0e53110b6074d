import Jellyrin.Defs.LiveTv.TunerLease

/-! Sharing of one upstream connection among the consumers of a stream URL.  Each
lock section of the registry is one step, and a request future may be dropped
wherever it waits. -/

namespace Jellyrin.LiveTv.SharedStream

open Api Transition

structure SharedLiveStreamHandle where
  refcount : Nat
  generation : UInt64
  tunerLease : LiveTunerLeaseKey
  deriving DecidableEq

structure StreamId where
  url : String
  generation : UInt64
  deriving DecidableEq

/-- The stream registry and the lease registry that its handles hold guards of. -/
structure Registry where
  handles : HashMap String SharedLiveStreamHandle
  tuners : TunerLease.World
  deriving DecidableEq

def SharedLiveStreamHandle.id (handle : SharedLiveStreamHandle) (url : String) : StreamId :=
  ⟨url, handle.generation⟩

namespace Registry

def ensureLiveStreamProducerCapacity (registry : Registry) (streamKey : String) :
    Except ApiError Unit :=
  if streamKey ∈ registry.handles ∨ registry.handles.size < liveTvMaxDistinctProducers then
    .ok ()
  else .error (.serviceUnavailable "Global Live TV producer limit has been reached")

/-- Removal by the failed open or by the producer: only of their own generation.
The removed handle drops its lease guard. -/
def removeGeneration (id : StreamId) (registry : Registry) : Registry :=
  match registry.handles.lookup id.url with
  | some handle =>
    if handle.generation = id.generation then
      { handles := registry.handles.erase id.url
        tuners := registry.tuners.release handle.tunerLease }
    else registry
  | none => registry

def releaseConsumer (id : StreamId) (registry : Registry) : Registry :=
  match registry.handles.lookup id.url with
  | some handle =>
    if handle.generation ≠ id.generation then registry
    else
      let refcount := handle.refcount - 1
      if refcount = 0 then
        { handles := registry.handles.erase id.url
          tuners := registry.tuners.release handle.tunerLease }
      else { registry with handles := registry.handles.insert id.url { handle with refcount } }
  | none => registry

end Registry

/-- A `proxy_live_tv_channel_url` future: before its lock, at the network, or at
the lock of its failure path. -/
inductive Request where
  | waiting (url : String) (tunerHostId : Option String) (tunerCount : Option UInt64)
  | opening (id : StreamId) (consumerTunerLease : LiveTunerLeaseKey)
  | failing (id : StreamId) (consumerTunerLease : LiveTunerLeaseKey)
  deriving DecidableEq

def Request.url : Request → String
  | .waiting url _ _ => url
  | .opening id _ => id.url
  | .failing id _ => id.url

def Request.id : Request → Option StreamId
  | .waiting _ _ _ => none
  | .opening id _ => some id
  | .failing id _ => some id

def Request.lease : Request → Option LiveTunerLeaseKey
  | .waiting _ _ _ => none
  | .opening _ lease => some lease
  | .failing _ lease => some lease

structure Consumer where
  id : StreamId
  tunerLease : LiveTunerLeaseKey
  deriving DecidableEq

/-- `producers` copy bytes, `exiting` have left their loop and wait for the lock,
`releases` are the spawned tasks of dropped guards. -/
structure World where
  registry : Registry
  nextGeneration : UInt64
  requests : List Request
  producers : List StreamId
  exiting : List StreamId
  consumers : List Consumer
  releases : List StreamId
  deriving DecidableEq

inductive Action where
  | request (url : String) (tunerHostId : Option String) (tunerCount : Option UInt64)
  | start (url : String) (tunerHostId : Option String) (tunerCount : Option UInt64)
  | opened (id : StreamId) (consumerTunerLease : LiveTunerLeaseKey)
  | openFails (id : StreamId) (consumerTunerLease : LiveTunerLeaseKey)
  | removeFailed (id : StreamId) (consumerTunerLease : LiveTunerLeaseKey)
  | cancel (request : Request)
  | producerExits (id : StreamId)
  | producerRemoves (id : StreamId)
  | dropConsumer (consumer : Consumer)
  | release (id : StreamId)
  deriving DecidableEq

namespace World

def join (w : World) (url : String) (tunerHostId : Option String) (tunerCount : Option UInt64)
    (handle : SharedLiveStreamHandle) : Option World := do
  let (result, tuners) ← w.registry.tuners.acquire tunerHostId url tunerCount
  match result with
  | .error _ => some { w with registry := { w.registry with tuners } }
  | .ok consumerTunerLease =>
    some { w with
      registry := { w.registry with
        handles := w.registry.handles.insert url { handle with refcount := handle.refcount + 1 }
        tuners }
      consumers := ⟨handle.id url, consumerTunerLease⟩ :: w.consumers }

def insert (w : World) (url : String) (tunerHostId : Option String)
    (tunerCount : Option UInt64) : Option World :=
  match w.registry.ensureLiveStreamProducerCapacity url with
  | .error _ => some w
  | .ok () => do
    let (first, tuners) ← w.registry.tuners.acquire tunerHostId url tunerCount
    match first with
    | .error _ => some { w with registry := { w.registry with tuners } }
    | .ok tunerLease => do
      let (second, tuners) ← tuners.acquire tunerHostId url tunerCount
      match second with
      | .error _ =>
        some { w with registry := { w.registry with tuners := tuners.release tunerLease } }
      | .ok consumerTunerLease =>
        some { w with
          registry := {
            handles := w.registry.handles.insert url ⟨1, w.nextGeneration, tunerLease⟩
            tuners }
          nextGeneration := w.nextGeneration + 1
          requests := .opening ⟨url, w.nextGeneration⟩ consumerTunerLease :: w.requests }

def start (w : World) (url : String) (tunerHostId : Option String)
    (tunerCount : Option UInt64) : Option World :=
  match w.registry.handles.lookup url with
  | some handle => w.join url tunerHostId tunerCount handle
  | none => w.insert url tunerHostId tunerCount

def finish (w : World) (request : Request) : World :=
  { w with
    requests := w.requests.erase request
    registry := match request.lease with
      | some lease => { w.registry with tuners := w.registry.tuners.release lease }
      | none => w.registry }

def removeFailed (w : World) (id : StreamId) (lease : LiveTunerLeaseKey) : World :=
  { w with registry := w.registry.removeGeneration id }.finish (.failing id lease)

/-- The body is gone: the guard's lease is released at once, its entry later. -/
def dropConsumer (w : World) (consumer : Consumer) : World :=
  { w with
    consumers := w.consumers.erase consumer
    releases := consumer.id :: w.releases
    registry := { w.registry with tuners := w.registry.tuners.release consumer.tunerLease } }

def step (w : World) : Action → Option World
  | .request url tunerHostId tunerCount =>
    some { w with requests := .waiting url tunerHostId tunerCount :: w.requests }
  | .start url tunerHostId tunerCount =>
    if .waiting url tunerHostId tunerCount ∈ w.requests then
      { w with requests := w.requests.erase (.waiting url tunerHostId tunerCount) }.start
        url tunerHostId tunerCount
    else none
  | .opened id lease =>
    if .opening id lease ∈ w.requests then
      some { w with
        requests := w.requests.erase (.opening id lease)
        producers := id :: w.producers
        consumers := ⟨id, lease⟩ :: w.consumers }
    else none
  | .openFails id lease =>
    if .opening id lease ∈ w.requests then
      some { w with requests := .failing id lease :: w.requests.erase (.opening id lease) }
    else none
  | .removeFailed id lease =>
    if .failing id lease ∈ w.requests then some (w.removeFailed id lease) else none
  | .cancel request => if request ∈ w.requests then some (w.finish request) else none
  | .producerExits id =>
    if id ∈ w.producers then
      some { w with producers := w.producers.erase id, exiting := id :: w.exiting }
    else none
  | .producerRemoves id =>
    if id ∈ w.exiting then
      some { w with
        exiting := w.exiting.erase id
        registry := w.registry.removeGeneration id }
    else none
  | .dropConsumer consumer =>
    if consumer ∈ w.consumers then some (w.dropConsumer consumer) else none
  | .release id =>
    if id ∈ w.releases then
      some { w with
        releases := w.releases.erase id
        registry := w.registry.releaseConsumer id }
    else none

end World

def liveStreamRegistry : Machine World Action where
  init := {
    registry := ⟨∅, ⟨∅, []⟩⟩
    nextGeneration := 1
    requests := []
    producers := []
    exiting := []
    consumers := []
    releases := [] }
  step := World.step

end Jellyrin.LiveTv.SharedStream

/-! What each step of the shared streams can do. -/

namespace Jellyrin.LiveTv.SharedStream

open Api Transition

theorem countP_erase_add {α : Type} [DecidableEq α] (p : α → Bool) {l : List α} {a : α}
    (h : a ∈ l) : (l.erase a).countP p + (if p a then 1 else 0) = l.countP p := by
  rw [(List.perm_cons_erase h).countP_eq p, List.countP_cons]

inductive Step (w : World) : Action → World → Prop
  | request {url : String} {tunerHostId : Option String} {tunerCount : Option UInt64} :
      Step w (.request url tunerHostId tunerCount)
        { w with requests := .waiting url tunerHostId tunerCount :: w.requests }
  | refused {url : String} {tunerHostId : Option String} {tunerCount : Option UInt64} :
      .waiting url tunerHostId tunerCount ∈ w.requests →
      Step w (.start url tunerHostId tunerCount)
        { w with requests := w.requests.erase (.waiting url tunerHostId tunerCount) }
  | joined {url : String} {tunerHostId : Option String} {tunerCount : Option UInt64}
      {handle : SharedLiveStreamHandle} {lease : LiveTunerLeaseKey} {tuners : TunerLease.World} :
      .waiting url tunerHostId tunerCount ∈ w.requests →
      w.registry.handles.lookup url = some handle →
      TunerLease.Grants url w.registry.tuners (.ok lease) tuners →
      Step w (.start url tunerHostId tunerCount) { w with
        requests := w.requests.erase (.waiting url tunerHostId tunerCount)
        registry := {
          handles := w.registry.handles.insert url { handle with refcount := handle.refcount + 1 }
          tuners }
        consumers := ⟨handle.id url, lease⟩ :: w.consumers }
  | inserted {url : String} {tunerHostId : Option String} {tunerCount : Option UInt64}
      {first second : LiveTunerLeaseKey} {tuners₁ tuners₂ : TunerLease.World} :
      .waiting url tunerHostId tunerCount ∈ w.requests →
      w.registry.handles.lookup url = none →
      TunerLease.Grants url w.registry.tuners (.ok first) tuners₁ →
      TunerLease.Grants url tuners₁ (.ok second) tuners₂ →
      Step w (.start url tunerHostId tunerCount) { w with
        requests := .opening ⟨url, w.nextGeneration⟩ second ::
          w.requests.erase (.waiting url tunerHostId tunerCount)
        registry := {
          handles := w.registry.handles.insert url ⟨1, w.nextGeneration, first⟩
          tuners := tuners₂ }
        nextGeneration := w.nextGeneration + 1 }
  | opened {id : StreamId} {lease : LiveTunerLeaseKey} : .opening id lease ∈ w.requests →
      Step w (.opened id lease) { w with
        requests := w.requests.erase (.opening id lease)
        producers := id :: w.producers
        consumers := ⟨id, lease⟩ :: w.consumers }
  | openFails {id : StreamId} {lease : LiveTunerLeaseKey} : .opening id lease ∈ w.requests →
      Step w (.openFails id lease)
        { w with requests := .failing id lease :: w.requests.erase (.opening id lease) }
  | removeFailed {id : StreamId} {lease : LiveTunerLeaseKey} : .failing id lease ∈ w.requests →
      Step w (.removeFailed id lease) (w.removeFailed id lease)
  | cancel {request : Request} : request ∈ w.requests →
      Step w (.cancel request) (w.finish request)
  | producerExits {id : StreamId} : id ∈ w.producers →
      Step w (.producerExits id)
        { w with producers := w.producers.erase id, exiting := id :: w.exiting }
  | producerRemoves {id : StreamId} : id ∈ w.exiting →
      Step w (.producerRemoves id) { w with
        exiting := w.exiting.erase id
        registry := w.registry.removeGeneration id }
  | dropConsumer {consumer : Consumer} : consumer ∈ w.consumers →
      Step w (.dropConsumer consumer) (w.dropConsumer consumer)
  | release {id : StreamId} : id ∈ w.releases →
      Step w (.release id) { w with
        releases := w.releases.erase id
        registry := w.registry.releaseConsumer id }

variable {w w' : World}

variable {handle : SharedLiveStreamHandle}

theorem Step.of_join {url : String} {tunerHostId : Option String} {tunerCount : Option UInt64}
    (hr : .waiting url tunerHostId tunerCount ∈ w.requests)
    (hh : w.registry.handles.lookup url = some handle)
    (h : { w with requests := w.requests.erase (.waiting url tunerHostId tunerCount) }.join
      url tunerHostId tunerCount handle = some w') :
    Step w (.start url tunerHostId tunerCount) w' := by
  obtain ⟨⟨result, tuners⟩, hacquire, h⟩ := Option.bind_eq_some_iff.mp h
  have hgrants := TunerLease.Grants.of_acquire hacquire
  cases result with
  | error error =>
    cases hgrants
    cases h
    exact .refused hr
  | ok lease =>
    cases h
    exact .joined hr hh hgrants

theorem Step.of_insert {url : String} {tunerHostId : Option String}
    {tunerCount : Option UInt64} (hr : .waiting url tunerHostId tunerCount ∈ w.requests)
    (hn : w.registry.handles.lookup url = none)
    (h : { w with requests := w.requests.erase (.waiting url tunerHostId tunerCount) }.insert
      url tunerHostId tunerCount = some w') :
    Step w (.start url tunerHostId tunerCount) w' := by
  simp only [World.insert] at h
  split at h
  · cases h
    exact .refused hr
  · obtain ⟨⟨result, tuners₁⟩, hfirst, h⟩ := Option.bind_eq_some_iff.mp h
    have hgrants := TunerLease.Grants.of_acquire hfirst
    cases result with
    | error error =>
      cases hgrants
      cases h
      exact .refused hr
    | ok first =>
      obtain ⟨⟨result, tuners₂⟩, hsecond, h⟩ := Option.bind_eq_some_iff.mp h
      have hgrants₂ := TunerLease.Grants.of_acquire hsecond
      cases result with
      | error error =>
        -- The first acquire has made the key present, so the second one shares it.
        exact absurd hsecond (TunerLease.acquire_again hfirst)
      | ok second =>
        cases h
        exact .inserted hr hn hgrants hgrants₂

theorem Step.of_step {action : Action} (h : w.step action = some w') : Step w action w' := by
  cases action with
  | request url tunerHostId tunerCount =>
    cases h
    exact .request
  | start url tunerHostId tunerCount =>
    simp only [World.step] at h
    split at h
    · rename_i hr
      simp only [World.start] at h
      split at h
      · exact .of_join hr ‹_› h
      · exact .of_insert hr ‹_› h
    · cases h
  | opened id lease =>
    simp only [World.step] at h
    split at h <;> cases h
    exact .opened ‹_›
  | openFails id lease =>
    simp only [World.step] at h
    split at h <;> cases h
    exact .openFails ‹_›
  | removeFailed id lease =>
    simp only [World.step] at h
    split at h <;> cases h
    exact .removeFailed ‹_›
  | cancel request =>
    simp only [World.step] at h
    split at h <;> cases h
    exact .cancel ‹_›
  | producerExits id =>
    simp only [World.step] at h
    split at h <;> cases h
    exact .producerExits ‹_›
  | producerRemoves id =>
    simp only [World.step] at h
    split at h <;> cases h
    exact .producerRemoves ‹_›
  | dropConsumer consumer =>
    simp only [World.step] at h
    split at h <;> cases h
    exact .dropConsumer ‹_›
  | release id =>
    simp only [World.step] at h
    split at h <;> cases h
    exact .release ‹_›

namespace Registry

theorem lookup_removeGeneration {id : StreamId} {registry : Registry} {url : String} :
    (registry.removeGeneration id).handles.lookup url = some handle ↔
      registry.handles.lookup url = some handle ∧ handle.id url ≠ id := by
  simp only [removeGeneration]
  split
  · rename_i found hfound
    split
    · rename_i hgeneration
      by_cases hurl : url = id.url
      · subst hurl
        rw [AList.lookup_erase, hfound]
        constructor
        · intro h
          cases h
        · rintro ⟨h, hne⟩
          cases h
          exact absurd (StreamId.mk.injEq .. |>.mpr ⟨rfl, hgeneration⟩) hne
      · rw [AList.lookup_erase_ne hurl]
        constructor
        · intro h
          exact ⟨h, fun heq => hurl (congrArg StreamId.url heq)⟩
        · exact And.left
    · rename_i hgeneration
      constructor
      · intro h
        refine ⟨h, fun heq => ?_⟩
        subst heq
        rw [SharedLiveStreamHandle.id, h] at hfound
        cases hfound
        exact hgeneration rfl
      · exact And.left
  · rename_i hnone
    constructor
    · intro h
      refine ⟨h, fun heq => ?_⟩
      subst heq
      rw [SharedLiveStreamHandle.id, h] at hnone
      cases hnone
    · exact And.left

theorem lookup_releaseConsumer {id : StreamId} {registry : Registry} {url : String}
    (h : (registry.releaseConsumer id).handles.lookup url = some handle) :
    (handle.id url ≠ id ∧ registry.handles.lookup url = some handle) ∨
      (handle.id url = id ∧ 0 < handle.refcount ∧
        registry.handles.lookup url = some { handle with refcount := handle.refcount + 1 }) := by
  have hother : ∀ {other : SharedLiveStreamHandle}, url ≠ id.url → other.id url ≠ id :=
    fun hurl heq => hurl (congrArg StreamId.url heq)
  unfold releaseConsumer at h
  split at h
  · rename_i found hfound
    split at h
    · rename_i hgeneration
      refine .inl ⟨fun heq => ?_, h⟩
      subst heq
      rw [SharedLiveStreamHandle.id, h] at hfound
      cases hfound
      exact hgeneration rfl
    · rename_i hgeneration
      dsimp only at h
      split at h
      · obtain ⟨hurl, h⟩ := HashMap.lookup_erase_eq_some.mp h
        exact .inl ⟨hother hurl, h⟩
      · rename_i hpos
        obtain ⟨rfl, rfl⟩ | ⟨hurl, h⟩ := HashMap.lookup_insert_eq_some.mp h
        · refine .inr ⟨?_, Nat.pos_of_ne_zero hpos, ?_⟩
          · exact StreamId.mk.injEq .. |>.mpr ⟨rfl, Decidable.not_not.mp hgeneration⟩
          · rw [hfound]
            have hback : found.refcount - 1 + 1 = found.refcount := by omega
            simp [hback]
        · exact .inl ⟨hother hurl, h⟩
  · rename_i hnone
    refine .inl ⟨fun heq => ?_, h⟩
    subst heq
    rw [SharedLiveStreamHandle.id, h] at hnone
    cases hnone

theorem releaseConsumer_of_ne {id : StreamId} {registry : Registry}
    (h : registry.handles.lookup id.url = some handle) (hne : handle.generation ≠ id.generation) :
    registry.releaseConsumer id = registry := by
  simp only [releaseConsumer]
  rw [h]
  exact if_pos hne

end Registry

end Jellyrin.LiveTv.SharedStream
