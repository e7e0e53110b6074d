import Jellyrin.Defs.LiveTv.SharedStream

/-! Who keeps an entry of the stream registry alive, and who holds its leases. -/

namespace Jellyrin.LiveTv.SharedStream

open Api Transition

variable {w w' : World} {action : Action}

def entryLeases (registry : Registry) (key : LiveTunerLeaseKey) : Nat :=
  registry.handles.weight fun handle => if handle.tunerLease = key then 1 else 0

/-- The lease registry counts the guards of the entries and of the parties outside. -/
structure Balanced (registry : Registry) (outside : LiveTunerLeaseKey → Nat) : Prop where
  leased : TunerLease.Leased registry.tuners
  count : ∀ key, registry.tuners.guards.count key = entryLeases registry key + outside key
  keyed : ∀ url handle, registry.handles.lookup url = some handle →
    handle.tunerLease.channelUrl = url

namespace Balanced

variable {registry : Registry} {outside outside' : LiveTunerLeaseKey → Nat}
  {tuners : TunerLease.World} {lease : LiveTunerLeaseKey} {url : String}
  {handle : SharedLiveStreamHandle}

theorem congr (h : Balanced registry outside) (ho : ∀ key, outside' key = outside key) :
    Balanced registry outside' where
  leased := h.leased
  count key := by rw [ho, h.count]
  keyed := h.keyed

theorem mem_guards (h : Balanced registry outside) (hpos : 0 < outside lease) :
    lease ∈ registry.tuners.guards := by
  apply List.count_pos_iff.mp
  have hcount := h.count lease
  omega

theorem release (h : Balanced registry outside)
    (ho : ∀ key, outside key = outside' key + if key = lease then 1 else 0) :
    Balanced { registry with tuners := registry.tuners.release lease } outside' where
  leased := by
    apply h.leased.release
    apply h.mem_guards
    have hlease := ho lease
    rw [if_pos rfl] at hlease
    omega
  count key := by
    have hcount := h.count key
    have hkey := ho key
    change (registry.tuners.guards.erase lease).count key = entryLeases registry key + outside' key
    by_cases hne : key = lease
    · subst hne
      rw [if_pos rfl] at hkey
      rw [List.count_erase_self]
      omega
    · rw [if_neg hne] at hkey
      rw [List.count_erase_of_ne hne]
      omega
  keyed := h.keyed

theorem grant (h : Balanced registry outside)
    (hg : TunerLease.Grants url registry.tuners (.ok lease) tuners)
    (ho : ∀ key, outside' key = outside key + if key = lease then 1 else 0) :
    Balanced { registry with tuners } outside' := by
  cases hg with
  | granted _ hleased =>
    refine ⟨hleased h.leased, ?_, h.keyed⟩
    intro key
    have hcount := h.count key
    change List.count key (lease :: registry.tuners.guards) = entryLeases registry key + _
    rw [ho, List.count_cons]
    by_cases hne : key = lease
    · subst hne
      simp only [beq_self_eq_true, if_true]
      omega
    · have hne' : (lease == key) = false := by simpa using Ne.symm hne
      simp only [hne', hne, if_false, Bool.false_eq_true]
      omega

theorem erase (h : Balanced registry outside)
    (hl : registry.handles.lookup url = some handle) :
    Balanced { handles := registry.handles.erase url
               tuners := registry.tuners.release handle.tunerLease } outside := by
  have hweight : ∀ key, entryLeases registry key =
      (if handle.tunerLease = key then 1 else 0) +
        entryLeases { registry with handles := registry.handles.erase url } key :=
    fun key => HashMap.weight_erase _ hl
  have hout : Balanced { registry with handles := registry.handles.erase url }
      (fun key => outside key + if key = handle.tunerLease then 1 else 0) := by
    refine ⟨h.leased, ?_, ?_⟩
    · intro key
      have hcount := h.count key
      have hkey := hweight key
      dsimp only
      by_cases hne : key = handle.tunerLease
      · rw [if_pos hne]
        rw [if_pos hne.symm] at hkey
        omega
      · rw [if_neg hne]
        rw [if_neg (Ne.symm hne)] at hkey
        omega
    · intro a b hb
      exact h.keyed a b (HashMap.lookup_erase_eq_some.mp hb).2
  exact hout.release fun _ => rfl

theorem insert (h : Balanced registry outside) (hl : registry.handles.lookup url = none)
    (hurl : handle.tunerLease.channelUrl = url)
    (ho : ∀ key, outside key = outside' key + if key = handle.tunerLease then 1 else 0) :
    Balanced { registry with handles := registry.handles.insert url handle } outside' := by
  refine ⟨h.leased, ?_, ?_⟩
  · intro key
    have hcount := h.count key
    have hkey := ho key
    have hweight : entryLeases { registry with handles := registry.handles.insert url handle } key =
        (if handle.tunerLease = key then 1 else 0) + entryLeases registry key :=
      HashMap.weight_insert_of_notMem _ _ (AList.lookup_eq_none.mp hl)
    dsimp only at hweight ⊢
    rw [hweight]
    by_cases hne : key = handle.tunerLease
    · rw [if_pos hne] at hkey
      rw [if_pos hne.symm]
      omega
    · rw [if_neg hne] at hkey
      rw [if_neg (Ne.symm hne)]
      omega
  · intro a b hb
    obtain ⟨rfl, rfl⟩ | ⟨-, hb⟩ := HashMap.lookup_insert_eq_some.mp hb
    · exact hurl
    · exact h.keyed a b hb

theorem recount (h : Balanced registry outside) (refcount : Nat)
    (hl : registry.handles.lookup url = some handle) :
    Balanced { registry with
      handles := registry.handles.insert url { handle with refcount } } outside := by
  refine ⟨h.leased, ?_, ?_⟩
  · intro key
    have hweight : entryLeases { registry with
        handles := registry.handles.insert url { handle with refcount } } key =
          entryLeases registry key := by
      simp only [entryLeases, HashMap.weight_insert]
      exact (HashMap.weight_erase (fun handle : SharedLiveStreamHandle =>
        if handle.tunerLease = key then 1 else 0) hl).symm
    rw [hweight]
    exact h.count key
  · intro a b hb
    obtain ⟨rfl, rfl⟩ | ⟨-, hb⟩ := HashMap.lookup_insert_eq_some.mp hb
    · exact h.keyed a handle hl
    · exact h.keyed a b hb

theorem removeGeneration (h : Balanced registry outside) (id : StreamId) :
    Balanced (registry.removeGeneration id) outside := by
  simp only [Registry.removeGeneration]
  split
  · split
    · exact h.erase ‹_›
    · exact h
  · exact h

theorem releaseConsumer (h : Balanced registry outside) (id : StreamId) :
    Balanced (registry.releaseConsumer id) outside := by
  unfold Registry.releaseConsumer
  split
  · split
    · exact h
    · dsimp only
      split
      · exact h.erase ‹_›
      · exact h.recount _ ‹_›
  · exact h

end Balanced

namespace World

def outside (w : World) (key : LiveTunerLeaseKey) : Nat :=
  w.consumers.countP (fun consumer => decide (consumer.tunerLease = key)) +
    w.requests.countP fun request => decide (request.lease = some key)

def holders (w : World) (id : StreamId) : Nat :=
  w.consumers.countP (fun consumer => decide (consumer.id = id)) +
    w.releases.countP (fun release => decide (release = id)) +
    w.requests.countP fun request => decide (request.id = some id)

def Served (w : World) (id : StreamId) : Prop :=
  id ∈ w.producers ∨ id ∈ w.exiting ∨ ∃ request ∈ w.requests, request.id = some id

end World

variable {id : StreamId}

theorem World.Served.of_requests (h : w.Served id) (hproducers : w.producers ⊆ w'.producers)
    (hexiting : w.exiting ⊆ w'.exiting)
    (hrequests : ∀ request ∈ w.requests, request.id = some id → w'.Served id) : w'.Served id := by
  obtain hproducer | hexits | ⟨request, hmem, hid⟩ := h
  · exact .inl (hproducers hproducer)
  · exact .inr (.inl (hexiting hexits))
  · exact hrequests request hmem hid

/-- Every lease guard belongs to an entry, a consumer or a request of its channel. -/
structure Owned (w : World) : Prop where
  balanced : Balanced w.registry w.outside
  consumers : ∀ consumer ∈ w.consumers, consumer.tunerLease.channelUrl = consumer.id.url
  requests : ∀ request ∈ w.requests, ∀ id lease, request.id = some id →
    request.lease = some lease → lease.channelUrl = id.url

theorem Owned.congr (hi : Owned w) (hr : w'.registry = w.registry)
    (ho : ∀ key, w'.outside key = w.outside key)
    (hc : ∀ consumer ∈ w'.consumers, consumer.tunerLease.channelUrl = consumer.id.url)
    (hq : ∀ request ∈ w'.requests, ∀ id lease, request.id = some id →
      request.lease = some lease → lease.channelUrl = id.url) : Owned w' where
  balanced := by
    rw [hr]
    exact hi.balanced.congr ho
  consumers := hc
  requests := hq

variable {request : Request}

theorem Owned.requests_cons (hi : Owned w) {old : Request}
    (h : ∀ id lease, request.id = some id → request.lease = some lease →
      lease.channelUrl = id.url) :
    ∀ r ∈ request :: w.requests.erase old, ∀ id lease, r.id = some id → r.lease = some lease →
      lease.channelUrl = id.url := by
  intro r hr
  cases List.mem_cons.mp hr with
  | inl heq =>
    subst heq
    exact h
  | inr hold => exact hi.requests r (List.mem_of_mem_erase hold)

theorem Owned.consumers_cons (hi : Owned w) {consumer : Consumer}
    (h : consumer.tunerLease.channelUrl = consumer.id.url) :
    ∀ c ∈ consumer :: w.consumers, c.tunerLease.channelUrl = c.id.url := by
  intro c hc
  cases List.mem_cons.mp hc with
  | inl heq =>
    subst heq
    exact h
  | inr hold => exact hi.consumers c hold

theorem Owned.finish (hi : Owned w) (hr : request ∈ w.requests) : Owned (w.finish request) := by
  refine ⟨?_, hi.consumers, fun r h => hi.requests r (List.mem_of_mem_erase h)⟩
  have hcount : ∀ key, w.outside key =
      (w.finish request).outside key + if request.lease = some key then 1 else 0 := by
    intro key
    have herase := countP_erase_add (fun r : Request => decide (r.lease = some key)) hr
    simp only [decide_eq_true_eq] at herase
    simp only [World.outside, World.finish]
    omega
  simp only [World.finish]
  cases hl : request.lease with
  | none =>
    refine hi.balanced.congr fun key => ?_
    have hkey := hcount key
    rw [hl, if_neg (by simp)] at hkey
    exact hkey.symm
  | some lease =>
    refine hi.balanced.release fun key => ?_
    have hkey := hcount key
    rw [hl] at hkey
    rw [hkey]
    congr 1
    simp [eq_comm]

theorem Owned.removeGeneration (hi : Owned w) (id : StreamId) :
    Owned { w with registry := w.registry.removeGeneration id } :=
  ⟨hi.balanced.removeGeneration id, hi.consumers, hi.requests⟩

theorem Owned.dropConsumer (hi : Owned w) {consumer : Consumer} (h : consumer ∈ w.consumers) :
    Owned (w.dropConsumer consumer) := by
  refine ⟨?_, fun c hc => hi.consumers c (List.mem_of_mem_erase hc), hi.requests⟩
  refine hi.balanced.release fun key => ?_
  have herase := countP_erase_add (fun c : Consumer => decide (c.tunerLease = key)) h
  simp only [decide_eq_true_eq, eq_comm (a := consumer.tunerLease)] at herase
  simp only [World.outside, World.dropConsumer]
  omega

theorem Owned.opened (hi : Owned w) {lease : LiveTunerLeaseKey}
    (hr : .opening id lease ∈ w.requests) : Owned { w with
      requests := w.requests.erase (.opening id lease)
      producers := id :: w.producers
      consumers := ⟨id, lease⟩ :: w.consumers } := by
  refine hi.congr rfl (fun key => ?_) ?_ fun r h => hi.requests r (List.mem_of_mem_erase h)
  · have herase := countP_erase_add (fun r : Request => decide (r.lease = some key)) hr
    simp only [Request.lease, Option.some.injEq, decide_eq_true_eq] at herase
    simp only [World.outside, List.countP_cons, decide_eq_true_eq]
    simp only [Request.lease] at herase ⊢
    omega
  · exact hi.consumers_cons (hi.requests _ hr _ _ rfl rfl)

theorem Owned.openFails (hi : Owned w) {lease : LiveTunerLeaseKey}
    (hr : .opening id lease ∈ w.requests) : Owned { w with
      requests := .failing id lease :: w.requests.erase (.opening id lease) } := by
  refine hi.congr rfl (fun key => ?_) hi.consumers ?_
  · have herase := countP_erase_add (fun r : Request => decide (r.lease = some key)) hr
    have hlease : (Request.failing id lease).lease = (Request.opening id lease).lease := rfl
    simp only [World.outside, List.countP_cons, hlease]
    omega
  · exact hi.requests_cons fun _ _ hid hlease =>
      hi.requests (.opening id lease) hr _ _ hid hlease

theorem Owned.joined (hi : Owned w) {url : String} {handle : SharedLiveStreamHandle}
    {lease : LiveTunerLeaseKey} {tuners : TunerLease.World}
    (hl : w.registry.handles.lookup url = some handle)
    (hg : TunerLease.Grants url w.registry.tuners (.ok lease) tuners) : Owned { w with
      registry := {
        handles := w.registry.handles.insert url { handle with refcount := handle.refcount + 1 }
        tuners }
      consumers := ⟨handle.id url, lease⟩ :: w.consumers } := by
  have hurl : lease.channelUrl = url := by
    cases hg with
    | granted hurl _ => exact hurl
  refine ⟨?_, hi.consumers_cons hurl, hi.requests⟩
  refine (hi.balanced.recount (handle.refcount + 1) hl).grant hg fun key => ?_
  simp only [World.outside, List.countP_cons, decide_eq_true_eq, eq_comm (a := lease)]
  omega

theorem Owned.inserted (hi : Owned w) {url : String} {first second : LiveTunerLeaseKey}
    {tuners₁ tuners₂ : TunerLease.World} (hn : w.registry.handles.lookup url = none)
    (hg₁ : TunerLease.Grants url w.registry.tuners (.ok first) tuners₁)
    (hg₂ : TunerLease.Grants url tuners₁ (.ok second) tuners₂) : Owned { w with
      requests := .opening ⟨url, w.nextGeneration⟩ second :: w.requests
      registry := {
        handles := w.registry.handles.insert url ⟨1, w.nextGeneration, first⟩
        tuners := tuners₂ }
      nextGeneration := w.nextGeneration + 1 } := by
  have hurl : ∀ {tuners tuners' : TunerLease.World} {lease : LiveTunerLeaseKey},
      TunerLease.Grants url tuners (.ok lease) tuners' → lease.channelUrl = url := by
    intro tuners tuners' lease hg
    cases hg with
    | granted hurl _ => exact hurl
  refine ⟨?_, hi.consumers, ?_⟩
  · have hfirst : Balanced { w.registry with tuners := tuners₁ }
        (fun key => w.outside key + if key = first then 1 else 0) :=
      hi.balanced.grant hg₁ fun _ => rfl
    have hentry : Balanced ⟨w.registry.handles.insert url ⟨1, w.nextGeneration, first⟩, tuners₁⟩
        w.outside := hfirst.insert hn (hurl hg₁) fun _ => rfl
    refine hentry.grant hg₂ fun key => ?_
    simp only [World.outside, List.countP_cons, Request.lease, Option.some.injEq,
      decide_eq_true_eq, eq_comm (a := second)]
    omega
  · intro r hr
    cases List.mem_cons.mp hr with
    | inl heq =>
      subst heq
      rintro id lease ⟨⟩ ⟨⟩
      exact hurl hg₂
    | inr hold => exact hi.requests r hold

theorem Owned.step (hi : Owned w) (h : Step w action w') : Owned w' := by
  cases h with
  | request =>
    refine hi.congr rfl (fun key => ?_) hi.consumers ?_
    · simp [World.outside, Request.lease]
    · intro r hr
      cases List.mem_cons.mp hr with
      | inl heq =>
        subst heq
        rintro id lease ⟨⟩
      | inr hold => exact hi.requests r hold
  | refused hr => exact hi.finish hr
  | joined hr hl hg => exact (hi.finish hr).joined hl hg
  | inserted hr hn hg₁ hg₂ => exact (hi.finish hr).inserted hn hg₁ hg₂
  | opened hr => exact hi.opened hr
  | openFails hr => exact hi.openFails hr
  | removeFailed hr => exact (hi.removeGeneration _).finish hr
  | cancel hr => exact hi.finish hr
  | producerExits hp => exact hi.congr rfl (fun _ => rfl) hi.consumers hi.requests
  | producerRemoves hp => exact ⟨(hi.removeGeneration _).balanced, hi.consumers, hi.requests⟩
  | dropConsumer hc => exact hi.dropConsumer hc
  | release hr => exact ⟨hi.balanced.releaseConsumer _, hi.consumers, hi.requests⟩

theorem Owned.new : Owned liveStreamRegistry.init where
  balanced := {
    leased := .new
    count := fun _ => rfl
    keyed := fun _ _ h => by cases h }
  consumers _ h := by cases h
  requests _ h := by cases h

theorem owned_of_reachable (h : liveStreamRegistry.Reachable w) : Owned w :=
  h.invariant Owned.new fun _ _ _ hi ha => hi.step (.of_step ha)

structure Attended (w : World) : Prop where
  served : ∀ url handle, w.registry.handles.lookup url = some handle → w.Served (handle.id url)
  refcount : ∀ url handle, w.registry.handles.lookup url = some handle →
    0 < handle.refcount ∧ handle.refcount = w.holders (handle.id url)

theorem Attended.congr (hi : Attended w) (hr : w'.registry.handles = w.registry.handles)
    (hs : ∀ id, w.Served id → w'.Served id) (hh : ∀ id, w'.holders id = w.holders id) :
    Attended w' where
  served url handle hl := by
    rw [hr] at hl
    exact hs _ (hi.served url handle hl)
  refcount url handle hl := by
    rw [hr] at hl
    rw [hh]
    exact hi.refcount url handle hl

theorem Attended.removeGeneration (hi : Attended w) (id : StreamId) :
    Attended { w with registry := w.registry.removeGeneration id } where
  served url handle hl :=
    hi.served url handle (Registry.lookup_removeGeneration.mp hl).1
  refcount url handle hl :=
    hi.refcount url handle (Registry.lookup_removeGeneration.mp hl).1

@[simp] theorem handles_finish (request : Request) :
    (w.finish request).registry.handles = w.registry.handles := by
  simp only [World.finish]
  cases request.lease <;> rfl

theorem holders_finish (hr : request ∈ w.requests) (hid : request.id ≠ some id) :
    (w.finish request).holders id = w.holders id := by
  have herase := countP_erase_add (fun r : Request => decide (r.id = some id)) hr
  rw [if_neg (by simpa using hid)] at herase
  simp only [World.holders, World.finish]
  omega

theorem Attended.finish (hi : Attended w) (hr : request ∈ w.requests)
    (hid : ∀ url handle, w.registry.handles.lookup url = some handle →
      request.id ≠ some (handle.id url)) : Attended (w.finish request) := by
  constructor
  · intro url handle hl
    rw [handles_finish] at hl
    refine (hi.served url handle hl).of_requests (List.Subset.refl _) (List.Subset.refl _) ?_
    intro r hmem hr'
    have hne : r ≠ request := fun heq => hid url handle hl (heq ▸ hr')
    exact .inr (.inr ⟨r, (List.mem_erase_of_ne hne).mpr hmem, hr'⟩)
  · intro url handle hl
    rw [handles_finish] at hl
    rw [holders_finish hr (hid url handle hl)]
    exact hi.refcount url handle hl

theorem Attended.opened (hi : Attended w) {lease : LiveTunerLeaseKey}
    (hr : .opening id lease ∈ w.requests) : Attended { w with
      requests := w.requests.erase (.opening id lease)
      producers := id :: w.producers
      consumers := ⟨id, lease⟩ :: w.consumers } := by
  refine hi.congr rfl ?_ ?_
  · intro a hserved
    refine hserved.of_requests (List.subset_cons_self _ _) (List.Subset.refl _) ?_
    intro r hmem hr'
    by_cases hne : r = .opening id lease
    · subst hne
      cases hr'
      exact .inl List.mem_cons_self
    · exact .inr (.inr ⟨r, (List.mem_erase_of_ne hne).mpr hmem, hr'⟩)
  · intro a
    have herase := countP_erase_add (fun r : Request => decide (r.id = some a)) hr
    simp only [decide_eq_true_eq] at herase
    have hid : ((Request.opening id lease).id = some a) = (id = a) := by simp [Request.id]
    simp only [hid] at herase
    simp only [World.holders, List.countP_cons, decide_eq_true_eq]
    omega

theorem Attended.openFails (hi : Attended w) {lease : LiveTunerLeaseKey}
    (hr : .opening id lease ∈ w.requests) : Attended { w with
      requests := .failing id lease :: w.requests.erase (.opening id lease) } := by
  refine hi.congr rfl ?_ ?_
  · intro a hserved
    refine hserved.of_requests (List.Subset.refl _) (List.Subset.refl _) ?_
    intro r hmem hr'
    by_cases hne : r = .opening id lease
    · subst hne
      exact .inr (.inr ⟨.failing id lease, List.mem_cons_self, hr'⟩)
    · refine .inr (.inr ⟨r, List.mem_cons_of_mem _ ?_, hr'⟩)
      exact (List.mem_erase_of_ne hne).mpr hmem
  · intro a
    have herase := countP_erase_add (fun r : Request => decide (r.id = some a)) hr
    have hid : (Request.failing id lease).id = (Request.opening id lease).id := rfl
    simp only [World.holders, List.countP_cons, hid]
    omega

theorem Attended.joined (hi : Attended w) {url : String} {handle : SharedLiveStreamHandle}
    {lease : LiveTunerLeaseKey} {tuners : TunerLease.World}
    (hl : w.registry.handles.lookup url = some handle) : Attended { w with
      registry := {
        handles := w.registry.handles.insert url { handle with refcount := handle.refcount + 1 }
        tuners }
      consumers := ⟨handle.id url, lease⟩ :: w.consumers } := by
  have hold := hi.refcount url handle hl
  constructor
  · intro a b hb
    obtain ⟨rfl, rfl⟩ | ⟨-, hb⟩ := HashMap.lookup_insert_eq_some.mp hb
    · exact hi.served a handle hl
    · exact hi.served a b hb
  · intro a b hb
    obtain ⟨rfl, rfl⟩ | ⟨hne, hb⟩ := HashMap.lookup_insert_eq_some.mp hb
    · have hid : SharedLiveStreamHandle.id { handle with refcount := handle.refcount + 1 } a =
          handle.id a := rfl
      rw [hid]
      simp only [World.holders, List.countP_cons, decide_true, if_true] at hold ⊢
      omega
    · have hother : ¬handle.id url = b.id a := fun heq => hne (congrArg StreamId.url heq).symm
      have hcount := hi.refcount a b hb
      simp only [World.holders, List.countP_cons, decide_eq_true_eq, hother, if_false]
        at hcount ⊢
      omega

theorem Attended.inserted (hi : Attended w) {url : String} {first second : LiveTunerLeaseKey}
    {tuners : TunerLease.World} (hfresh : w.holders ⟨url, w.nextGeneration⟩ = 0) :
    Attended { w with
      requests := .opening ⟨url, w.nextGeneration⟩ second :: w.requests
      registry := {
        handles := w.registry.handles.insert url ⟨1, w.nextGeneration, first⟩
        tuners }
      nextGeneration := w.nextGeneration + 1 } := by
  constructor
  · intro a b hb
    obtain ⟨rfl, rfl⟩ | ⟨-, hb⟩ := HashMap.lookup_insert_eq_some.mp hb
    · exact .inr (.inr ⟨_, List.mem_cons_self, rfl⟩)
    · refine (hi.served a b hb).of_requests (List.Subset.refl _) (List.Subset.refl _) ?_
      intro r hmem hr
      exact .inr (.inr ⟨r, List.mem_cons_of_mem _ hmem, hr⟩)
  · intro a b hb
    obtain ⟨rfl, rfl⟩ | ⟨hne, hb⟩ := HashMap.lookup_insert_eq_some.mp hb
    · have hid : SharedLiveStreamHandle.id ⟨1, w.nextGeneration, first⟩ a =
          ⟨a, w.nextGeneration⟩ := rfl
      have hself : (Request.opening ⟨a, w.nextGeneration⟩ second).id =
          some ⟨a, w.nextGeneration⟩ := rfl
      rw [hid]
      simp only [World.holders, List.countP_cons, hself, decide_true, if_true] at hfresh ⊢
      omega
    · have hother : ¬(Request.opening ⟨url, w.nextGeneration⟩ second).id = some (b.id a) := by
        intro heq
        exact hne (congrArg StreamId.url (Option.some.inj heq)).symm
      have hcount := hi.refcount a b hb
      simp only [World.holders, List.countP_cons, decide_eq_true_eq, hother, if_false]
        at hcount ⊢
      exact hcount

theorem Attended.dropConsumer (hi : Attended w) {consumer : Consumer}
    (h : consumer ∈ w.consumers) : Attended (w.dropConsumer consumer) := by
  refine hi.congr rfl (fun _ hserved => hserved) ?_
  intro id
  have herase := countP_erase_add (fun c : Consumer => decide (c.id = id)) h
  simp only [World.holders, World.dropConsumer, List.countP_cons]
  omega

theorem Attended.release (hi : Attended w) (h : id ∈ w.releases) :
    Attended { w with
      releases := w.releases.erase id
      registry := w.registry.releaseConsumer id } := by
  have herase := fun other => countP_erase_add (fun r : StreamId => decide (r = other)) h
  constructor
  · intro url handle hl
    cases Registry.lookup_releaseConsumer hl with
    | inl hother => exact hi.served url handle hother.2
    | inr hown =>
      exact hi.served url { handle with refcount := handle.refcount + 1 } hown.2.2
  · intro url handle hl
    have hreleases := herase (handle.id url)
    simp only [decide_eq_true_eq] at hreleases
    cases Registry.lookup_releaseConsumer hl with
    | inl hother =>
      have hcount := hi.refcount url handle hother.2
      rw [if_neg (Ne.symm hother.1)] at hreleases
      simp only [World.holders] at hcount ⊢
      omega
    | inr hown =>
      obtain ⟨hid, hpos, hl⟩ := hown
      have hcount := (hi.refcount url _ hl).2
      change handle.refcount + 1 = w.holders (handle.id url) at hcount
      rw [if_pos hid.symm] at hreleases
      simp only [World.holders] at hcount ⊢
      omega

/-- No request is cancelled while the entry that it inserted is in place, and the
generation that a new entry gets is not carried by a holder of an earlier one. -/
structure Undisturbed (w : World) (action : Action) : Prop where
  cancel : ∀ request, action = .cancel request → ∀ url handle,
    w.registry.handles.lookup url = some handle → request.id ≠ some (handle.id url)
  fresh : ∀ url tunerHostId tunerCount, action = .start url tunerHostId tunerCount →
    w.registry.handles.lookup url = none → w.holders ⟨url, w.nextGeneration⟩ = 0

theorem Request.id_waiting_ne {url : String} {tunerHostId : Option String}
    {tunerCount : Option UInt64} : (Request.waiting url tunerHostId tunerCount).id ≠ some id := by
  rintro ⟨⟩

theorem Attended.finish_waiting (hi : Attended w) {url : String} {tunerHostId : Option String}
    {tunerCount : Option UInt64} (hr : .waiting url tunerHostId tunerCount ∈ w.requests) :
    Attended (w.finish (.waiting url tunerHostId tunerCount)) := by
  apply hi.finish hr
  intro a handle _
  exact Request.id_waiting_ne

theorem Attended.removeFailed (hi : Attended w) {lease : LiveTunerLeaseKey}
    (hr : .failing id lease ∈ w.requests) : Attended (w.removeFailed id lease) := by
  apply (hi.removeGeneration id).finish hr
  intro url handle hl hid
  cases hid
  exact (Registry.lookup_removeGeneration.mp hl).2 rfl

theorem Attended.producerExits (hi : Attended w) :
    Attended { w with producers := w.producers.erase id, exiting := id :: w.exiting } := by
  refine hi.congr rfl ?_ fun _ => rfl
  intro a hserved
  by_cases hne : a = id
  · subst hne
    exact .inr (.inl List.mem_cons_self)
  · cases hserved with
    | inl hproducer => exact .inl ((List.mem_erase_of_ne hne).mpr hproducer)
    | inr hrest =>
      cases hrest with
      | inl hexiting => exact .inr (.inl (List.mem_cons_of_mem _ hexiting))
      | inr hrequest => exact .inr (.inr hrequest)

theorem Attended.producerRemoves (hi : Attended w) : Attended { w with
    exiting := w.exiting.erase id
    registry := w.registry.removeGeneration id } where
  served url handle hl := by
    obtain ⟨hl, hne⟩ := Registry.lookup_removeGeneration.mp hl
    cases hi.served url handle hl with
    | inl hproducer => exact .inl hproducer
    | inr hrest =>
      cases hrest with
      | inl hexiting => exact .inr (.inl ((List.mem_erase_of_ne hne).mpr hexiting))
      | inr hrequest => exact .inr (.inr hrequest)
  refcount := (hi.removeGeneration id).refcount

theorem Attended.step (hi : Attended w) (hc : Undisturbed w action) (h : Step w action w') :
    Attended w' := by
  cases h with
  | request =>
    refine hi.congr rfl ?_ fun id => ?_
    · intro id hserved
      refine hserved.of_requests (List.Subset.refl _) (List.Subset.refl _) ?_
      intro r hmem hr
      exact .inr (.inr ⟨r, List.mem_cons_of_mem _ hmem, hr⟩)
    · simp [World.holders, Request.id]
  | refused hr => exact hi.finish_waiting hr
  | joined hr hl hg => exact (hi.finish_waiting hr).joined hl
  | @inserted url _ _ _ _ _ _ hr hn hg₁ hg₂ =>
    apply (hi.finish_waiting hr).inserted
    exact (holders_finish hr Request.id_waiting_ne).trans (hc.fresh _ _ _ rfl hn)
  | opened hr => exact hi.opened hr
  | openFails hr => exact hi.openFails hr
  | removeFailed hr => exact hi.removeFailed hr
  | cancel hr => exact hi.finish hr (hc.cancel _ rfl)
  | producerExits hp => exact hi.producerExits
  | producerRemoves hp => exact hi.producerRemoves
  | dropConsumer hd => exact hi.dropConsumer hd
  | release hr => exact hi.release hr

theorem Attended.new : Attended liveStreamRegistry.init where
  served _ _ h := by cases h
  refcount _ _ h := by cases h

theorem attended_of_reaches (h : liveStreamRegistry.Reaches Undisturbed w) : Attended w :=
  h.invariant (J := fun _ => True) (fun _ _ => trivial) Attended.new
    fun _ _ _ _ hi hc ha => hi.step hc (.of_step ha)

structure Abandoned (w : World) (url : String) : Prop where
  requests : ∀ request ∈ w.requests, request.url ≠ url
  consumers : ∀ consumer ∈ w.consumers, consumer.id.url ≠ url
  releases : ∀ id ∈ w.releases, id.url ≠ url

theorem Request.url_of_id (h : request.id = some id) : request.url = id.url := by
  cases request <;> cases h <;> rfl

theorem Request.exists_id_of_lease {lease : LiveTunerLeaseKey} (h : request.lease = some lease) :
    ∃ id, request.id = some id := by
  cases request with
  | waiting => cases h
  | opening id => exact ⟨id, rfl⟩
  | failing id => exact ⟨id, rfl⟩

theorem Abandoned.holders_eq_zero {url : String} (h : Abandoned w url) (generation : UInt64) :
    w.holders ⟨url, generation⟩ = 0 := by
  have hconsumers : w.consumers.countP (fun c => decide (c.id = ⟨url, generation⟩)) = 0 := by
    apply List.countP_eq_zero.mpr
    intro c hc hid
    exact h.consumers c hc (congrArg StreamId.url (of_decide_eq_true hid))
  have hreleases : w.releases.countP (fun r => decide (r = ⟨url, generation⟩)) = 0 := by
    apply List.countP_eq_zero.mpr
    intro r hr hid
    exact h.releases r hr (congrArg StreamId.url (of_decide_eq_true hid))
  have hrequests : w.requests.countP (fun r => decide (r.id = some ⟨url, generation⟩)) = 0 := by
    apply List.countP_eq_zero.mpr
    intro r hr hid
    exact h.requests r hr (Request.url_of_id (of_decide_eq_true hid))
  rw [World.holders, hconsumers, hreleases, hrequests]

theorem Attended.notMem_of_abandoned (hi : Attended w) {url : String} (h : Abandoned w url) :
    url ∉ w.registry.handles := by
  intro hmem
  obtain ⟨handle, hl⟩ := Option.isSome_iff_exists.mp (AList.lookup_isSome.mpr hmem)
  have hcount := hi.refcount url handle hl
  have hzero := h.holders_eq_zero handle.generation
  change 0 < handle.refcount ∧ handle.refcount = w.holders ⟨url, handle.generation⟩ at hcount
  omega

theorem Owned.lease_released (hi : Owned w) {url : String} (h : Abandoned w url)
    (hentry : url ∉ w.registry.handles) :
    ∀ key ∈ w.registry.tuners.leases, key.channelUrl ≠ url := by
  intro key hkey hurl
  have hguard := (hi.balanced.leased.counts.mem_iff key).mp hkey
  have hpos := List.count_pos_iff.mpr hguard
  rw [hi.balanced.count key] at hpos
  have hentries : entryLeases w.registry key = 0 := by
    by_contra hne
    obtain ⟨a, handle, hl, hholds⟩ := HashMap.exists_lookup_of_weight_pos _
      (Nat.pos_of_ne_zero hne)
    split at hholds
    · rename_i heq
      have hkeyed := hi.balanced.keyed a handle hl
      rw [heq, hurl] at hkeyed
      subst hkeyed
      exact hentry (AList.lookup_isSome.mp (Option.isSome_of_eq_some hl))
    · exact absurd hholds (Nat.lt_irrefl 0)
  have hconsumers : w.consumers.countP (fun c => decide (c.tunerLease = key)) = 0 := by
    apply List.countP_eq_zero.mpr
    intro c hc hlease
    apply h.consumers c hc
    rw [← hi.consumers c hc, of_decide_eq_true hlease, hurl]
  have hrequests : w.requests.countP (fun r => decide (r.lease = some key)) = 0 := by
    apply List.countP_eq_zero.mpr
    intro r hr hlease
    obtain ⟨id, hid⟩ := Request.exists_id_of_lease (of_decide_eq_true hlease)
    apply h.requests r hr
    rw [Request.url_of_id hid, ← hi.requests r hr id key hid (of_decide_eq_true hlease), hurl]
  rw [hentries, World.outside, hconsumers, hrequests] at hpos
  exact Nat.lt_irrefl 0 hpos

structure Coherent (w : World) : Prop where
  served : ∀ url handle, w.registry.handles.lookup url = some handle → w.Served (handle.id url)
  refcount : ∀ url handle, w.registry.handles.lookup url = some handle →
    0 < handle.refcount ∧ handle.refcount = w.holders (handle.id url)
  older : ∀ consumer handle, w.registry.handles.lookup consumer.id.url = some handle →
    handle.generation ≠ consumer.id.generation →
    (w.dropConsumer consumer).registry.handles = w.registry.handles ∧
      w.registry.releaseConsumer consumer.id = w.registry
  released : ∀ url, Abandoned w url → url ∉ w.registry.handles ∧
    ∀ key ∈ w.registry.tuners.leases, key.channelUrl ≠ url

theorem Attended.coherent (hi : Attended w) (ho : Owned w) : Coherent w where
  served := hi.served
  refcount := hi.refcount
  older _ _ hl hne := ⟨rfl, Registry.releaseConsumer_of_ne hl hne⟩
  released _ h := ⟨hi.notMem_of_abandoned h, ho.lease_released h (hi.notMem_of_abandoned h)⟩

theorem coherent_of_reaches (h : liveStreamRegistry.Reaches Undisturbed w) : Coherent w :=
  (attended_of_reaches h).coherent (owned_of_reachable h.reachable)

theorem not_coherent_of_cancel (hi : Attended w) (hr : request ∈ w.requests) {url : String}
    {handle : SharedLiveStreamHandle} (hl : w.registry.handles.lookup url = some handle)
    (hid : request.id = some (handle.id url)) : ¬Coherent (w.finish request) := by
  intro h
  have hbefore := (hi.refcount url handle hl).2
  have hafter := (h.refcount url handle ((handles_finish request).symm ▸ hl)).2
  have herase := countP_erase_add (fun r : Request => decide (r.id = some (handle.id url))) hr
  rw [if_pos (decide_eq_true hid)] at herase
  simp only [World.holders, World.finish] at hbefore hafter
  omega

/-- The registry is coherent along the undisturbed runs, and a cancellation keeps it
so exactly when it is undisturbed. -/
theorem coherent_iff_undisturbed (h : liveStreamRegistry.Reaches Undisturbed w) :
    Coherent w ∧
      ∀ request w', liveStreamRegistry.step w (.cancel request) = some w' →
        (Coherent w' ↔ Undisturbed w (.cancel request)) := by
  refine ⟨coherent_of_reaches h, ?_⟩
  intro request w' hstep
  constructor
  · intro hcoherent
    refine ⟨?_, by rintro _ _ _ ⟨⟩⟩
    rintro _ ⟨⟩ url handle hl hid
    cases (Step.of_step hstep : Step w (.cancel request) w') with
    | cancel hr => exact not_coherent_of_cancel (attended_of_reaches h) hr hl hid hcoherent
  · intro hc
    exact coherent_of_reaches (h.tail hc hstep)

def isUndisturbed (w : World) : Action → Bool
  | .cancel _ => false
  | .start _ _ _ =>
    w.consumers.isEmpty && w.releases.isEmpty && w.requests.all fun r => decide (r.id = none)
  | _ => true

theorem undisturbed_of_isUndisturbed (w : World) (action : Action)
    (h : isUndisturbed w action = true) : Undisturbed w action := by
  constructor
  · rintro request rfl
    cases h
  · rintro url tunerHostId tunerCount rfl -
    simp only [isUndisturbed, Bool.and_eq_true, List.isEmpty_iff, List.all_eq_true,
      decide_eq_true_eq] at h
    obtain ⟨⟨hconsumers, hreleases⟩, hrequests⟩ := h
    have hopen : w.requests.countP
        (fun r => decide (r.id = some ⟨url, w.nextGeneration⟩)) = 0 := by
      apply List.countP_eq_zero.mpr
      intro r hr hid
      rw [hrequests r hr] at hid
      cases hid
    rw [World.holders, hconsumers, hreleases, hopen]
    rfl

theorem coherent_of_single_client :
    ∃ w, Coherent w ∧ w.nextGeneration = 2 ∧ w.registry.handles.entries = [] ∧
      w.exiting = [⟨"http://hdhr/v1", 1⟩] := by
  have hrun : ∃ w, liveStreamRegistry.Reaches Undisturbed w ∧
      w.nextGeneration = 2 ∧ w.registry.handles.entries = [] ∧
      w.exiting = [⟨"http://hdhr/v1", 1⟩] :=
    Machine.exists_of_runWhile undisturbed_of_isUndisturbed
      [.request "http://hdhr/v1" (some "hdhr") (some 2),
        .start "http://hdhr/v1" (some "hdhr") (some 2),
        .opened ⟨"http://hdhr/v1", 1⟩ ⟨"hdhr", "http://hdhr/v1"⟩,
        .dropConsumer ⟨⟨"http://hdhr/v1", 1⟩, ⟨"hdhr", "http://hdhr/v1"⟩⟩,
        .release ⟨"http://hdhr/v1", 1⟩, .producerExits ⟨"http://hdhr/v1", 1⟩] (by decide)
  obtain ⟨w, hreach, hgeneration, hentries, hexiting⟩ := hrun
  exact ⟨w, (coherent_iff_undisturbed hreach).1, hgeneration, hentries, hexiting⟩

/-- The only client goes away while the upstream connection is being opened: the
entry and its tuner lease stay, and nobody will ever remove them. -/
theorem cancelled_open_leaves_entry :
    ∃ w, liveStreamRegistry.Reachable w ∧ Abandoned w "http://hdhr/v1" ∧
      "http://hdhr/v1" ∈ w.registry.handles ∧ w.producers = [] ∧ w.exiting = [] ∧
      ⟨"hdhr", "http://hdhr/v1"⟩ ∈ w.registry.tuners.leases := by
  have hrun : ∃ w, liveStreamRegistry.Reachable w ∧
      (w.requests = [] ∧ w.consumers = [] ∧ w.releases = []) ∧
      "http://hdhr/v1" ∈ w.registry.handles ∧ w.producers = [] ∧ w.exiting = [] ∧
      ⟨"hdhr", "http://hdhr/v1"⟩ ∈ w.registry.tuners.leases :=
    Machine.exists_of_run [.request "http://hdhr/v1" (some "hdhr") (some 2),
      .start "http://hdhr/v1" (some "hdhr") (some 2),
      .cancel (.opening ⟨"http://hdhr/v1", 1⟩ ⟨"hdhr", "http://hdhr/v1"⟩)] (by decide)
  obtain ⟨w, hreach, ⟨hrequests, hconsumers, hreleases⟩, hrest⟩ := hrun
  refine ⟨w, hreach, ?_, hrest⟩
  constructor
  · simp [hrequests]
  · simp [hconsumers]
  · simp [hreleases]

end Jellyrin.LiveTv.SharedStream
