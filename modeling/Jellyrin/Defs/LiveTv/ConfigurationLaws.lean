import Jellyrin.Defs.LiveTv.Configuration

/-! Each operation leaves alone what it is not about, so only the overlap of its read
and its write with other writes loses updates. -/

namespace Jellyrin.LiveTv.Configuration

open Ascii Transition

section Lists

variable {kind : Kind} {key : Key} {p : Json → Bool} {f : Json → Json} {items : List Json}

theorem filter_updateFirst (h : ∀ item ∈ items, p item = true →
      keyOf kind item ≠ some key ∧ keyOf kind (f item) ≠ some key) :
    (updateFirst p f items).filter (fun item => keyOf kind item == some key) =
      items.filter fun item => keyOf kind item == some key := by
  induction items with
  | nil => rfl
  | cons item rest ih =>
    simp only [updateFirst]
    split
    · rename_i hp
      obtain ⟨hitem, hf⟩ := h item (.head _) hp
      rw [List.filter_cons_of_neg (by simpa using hf),
        List.filter_cons_of_neg (by simpa using hitem)]
    · rw [List.filter_cons, List.filter_cons, ih fun other hother => h other (.tail _ hother)]

theorem filter_drop (h : ∀ item ∈ items, p item = true → keyOf kind item ≠ some key) :
    (items.filter fun item => !p item).filter (fun item => keyOf kind item == some key) =
      items.filter fun item => keyOf kind item == some key := by
  rw [List.filter_filter]
  apply List.filter_congr
  intro item hitem
  cases hp : p item with
  | false => simp
  | true => simpa [hp] using h item hitem hp

theorem filter_push {item : Json} (h : keyOf kind item ≠ some key) :
    (items ++ [item]).filter (fun item => keyOf kind item == some key) =
      items.filter fun item => keyOf kind item == some key := by
  rw [List.filter_append, List.filter_cons_of_neg (by simpa using h), List.filter_nil,
    List.append_nil]

theorem filter_foldl_pushChild {newTimers : List Json}
    (h : ∀ child ∈ newTimers, keyOf kind child = some key →
      items.any (hasId ((child.stringField "Id").getD "")) = true) :
    (newTimers.foldl pushChild items).filter (fun item => keyOf kind item == some key) =
      items.filter fun item => keyOf kind item == some key := by
  induction newTimers generalizing items with
  | nil => rfl
  | cons child rest ih =>
    rw [List.foldl_cons, pushChild]
    split
    · exact ih fun other hother => h other (.tail _ hother)
    · rename_i hnew
      have hchild : keyOf kind child ≠ some key := fun hkey => hnew (h child (.head _) hkey)
      rw [ih, filter_push hchild]
      intro other hother hkey
      rw [List.any_append, h other (.tail _ hother) hkey, Bool.true_or]

end Lists

@[simp] theorem get_setItems (config : LiveTvConfiguration) (kind : Kind) (items : List Json) :
    (config.setItems kind items).get kind = .array items := by
  cases kind <;> rfl

theorem get_setItems_of_ne (config : LiveTvConfiguration) {kind other : Kind} (h : other ≠ kind)
    (items : List Json) : (config.setItems kind items).get other = config.get other := by
  cases kind <;> cases other <;> first | rfl | exact absurd rfl h

theorem get_updateItems_of_ne (config : LiveTvConfiguration) {kind other : Kind}
    (h : other ≠ kind) (f : List Json → List Json) :
    (config.updateItems kind f).get other = config.get other := by
  simp only [LiveTvConfiguration.updateItems]
  split
  · exact get_setItems_of_ne config h _
  · rfl

theorem configItems_updateItems_of_ne (config : LiveTvConfiguration) {kind other : Kind}
    (h : other ≠ kind) (f : List Json → List Json) :
    (config.updateItems kind f).items other = config.items other :=
  congrArg Json.asArray (get_updateItems_of_ne config h f)

section View

variable {payload : Payload} {config : LiveTvConfiguration} {kind : Kind} {key : Key}

theorem view_setItems {items : List Json}
    (h : items.filter (fun item => keyOf kind item == some key) =
      ((config.items kind).getD []).filter fun item => keyOf kind item == some key) :
    view (some (config.setItems kind items)) key = view (some config) key := by
  by_cases hkind : key.kind = kind
  · subst hkind
    simp only [view, Payload.items, Payload.config, Option.getD_some, LiveTvConfiguration.items,
      get_setItems, Json.asArray]
    exact h
  · simp only [view, Payload.items, Payload.config, Option.getD_some, LiveTvConfiguration.items,
      get_setItems_of_ne config hkind]

theorem view_updateItems {f : List Json → List Json}
    (h : (f ((config.items kind).getD [])).filter (fun item => keyOf kind item == some key) =
      ((config.items kind).getD []).filter fun item => keyOf kind item == some key) :
    view (some (config.updateItems kind f)) key = view (some config) key := by
  simp only [LiveTvConfiguration.updateItems]
  cases hitems : config.items kind with
  | none => rfl
  | some items =>
    rw [hitems] at h
    apply view_setItems
    rw [hitems]
    exact h

theorem view_config (payload : Payload) (key : Key) :
    view (some payload.config) key = view payload key := by
  cases payload <;> rfl

theorem keyOf_ne_of_not_picks {p : Json → Bool} (h : ¬Picks payload kind p key) :
    ∀ item ∈ payload.items kind, p item = true → keyOf kind item ≠ some key :=
  fun item hitem hp hkey => h ⟨item, hitem, hp, hkey⟩

end View

theorem keyOf_set {kind : Kind} {item new : Json} {field : String}
    (hid : eqIgnoreAsciiCase field "Id" = false)
    (hrecording : eqIgnoreAsciiCase field "RecordingId" = false) :
    keyOf kind (item.set field new) = keyOf kind item := by
  simp only [keyOf, Json.stringField_set item new hid, Json.stringField_set item new hrecording]

theorem keyOf_completeRecordingItem (kind : Kind) (recording : Json) :
    keyOf kind (completeRecordingItem recording) = keyOf kind recording :=
  keyOf_set (by decide) (by decide)

theorem keyOf_completeTimerItem (kind : Kind) (path : String) (timer : Json) :
    keyOf kind (completeTimerItem path timer) = keyOf kind timer :=
  (keyOf_set (by decide) (by decide)).trans (keyOf_set (by decide) (by decide))

section Frame

variable {payload : Payload} {config : LiveTvConfiguration} {key : Key}

theorem view_upsertLiveTvTimer {kind : Kind} {freshId : String} {pathTimerId : Option String}
    {body : Json} (h : upsertLiveTvTimer kind freshId pathTimerId body payload = some config)
    (htouches : ¬(Operation.upsertTimer kind freshId pathTimerId body).touches payload key) :
    view (some config) key = view payload key := by
  simp only [Operation.touches, not_or] at htouches
  obtain ⟨htimer, hexisting⟩ := htouches
  simp only [upsertLiveTvTimer] at h
  split at h <;> cases h
  rw [← view_config payload]
  apply view_setItems
  split
  · apply filter_updateFirst
    intro item hitem hp
    exact ⟨keyOf_ne_of_not_picks hexisting item hitem hp, htimer⟩
  · exact filter_push htimer

theorem view_deletePersistedLiveTvTimer {kind : Kind} {timerId : String}
    (h : deletePersistedLiveTvTimer kind timerId payload = some config)
    (htouches : ¬(Operation.deleteTimer kind timerId).touches payload key) :
    view (some config) key = view payload key := by
  unfold deletePersistedLiveTvTimer at h
  dsimp only at h
  split at h <;> cases h
  rw [← view_config payload]
  exact view_setItems (filter_drop (keyOf_ne_of_not_picks htouches))

theorem view_completeRecording {recordingId timerId path : String}
    (htouches : ¬(Operation.completeRecording recordingId timerId path).touches payload key) :
    view (some (completeRecording recordingId timerId path payload)) key = view payload key := by
  simp only [Operation.touches, not_or] at htouches
  obtain ⟨hrecording, htimer⟩ := htouches
  rw [completeRecording, view_updateItems, view_updateItems, view_config]
  · apply filter_updateFirst
    intro item hitem hp
    have hkey := keyOf_ne_of_not_picks hrecording item hitem hp
    exact ⟨hkey, keyOf_completeRecordingItem .recordings item ▸ hkey⟩
  · rw [configItems_updateItems_of_ne _ (by decide)]
    apply filter_updateFirst
    intro item hitem hp
    have hkey := keyOf_ne_of_not_picks htimer item hitem hp
    exact ⟨hkey, keyOf_completeTimerItem .timers path item ▸ hkey⟩

theorem view_discardRecording {recordingId timerId : String}
    (htouches : ¬(Operation.discardRecording recordingId timerId).touches payload key) :
    view (some (discardRecording recordingId timerId payload)) key = view payload key := by
  simp only [Operation.touches, not_or] at htouches
  obtain ⟨hrecording, htimer⟩ := htouches
  rw [discardRecording, view_updateItems, view_updateItems, view_config]
  · exact filter_drop (keyOf_ne_of_not_picks hrecording)
  · rw [configItems_updateItems_of_ne _ (by decide)]
    exact filter_drop (keyOf_ne_of_not_picks htimer)

theorem view_materializeSeriesTimerTimers {newTimers : List Json}
    (h : materializeSeriesTimerTimers newTimers payload = some config)
    (htouches : ¬(Operation.materialize newTimers).touches payload key) :
    view (some config) key = view payload key := by
  simp only [materializeSeriesTimerTimers] at h
  split at h <;> cases h
  rw [← view_config payload]
  apply view_setItems
  apply filter_foldl_pushChild
  intro child hchild hkey
  by_contra hnew
  exact htouches ⟨child, hchild, hkey, Bool.not_eq_true _ ▸ hnew⟩

theorem view_cascadeDeleteSeriesTimerTimers {seriesTimerId : String}
    {activeTimerIds : List String}
    (h : cascadeDeleteSeriesTimerTimers seriesTimerId activeTimerIds payload = some config)
    (htouches : ¬(Operation.cascadeDelete seriesTimerId activeTimerIds).touches payload key) :
    view (some config) key = view payload key := by
  cases payload with
  | none => cases h
  | some stored =>
    obtain ⟨timers, htimers, rfl⟩ := Option.map_eq_some_iff.mp h
    have hitems : Payload.items (some stored) .timers = timers := by
      simp only [Payload.items, Payload.config, Option.getD_some, htimers]
    apply view_setItems
    rw [htimers, Option.getD_some]
    apply filter_drop
    exact hitems ▸ keyOf_ne_of_not_picks htouches

theorem view_deletePersistedLiveTvRecording {recordingId : String}
    (h : deletePersistedLiveTvRecording recordingId payload = some config)
    (htouches : ¬(Operation.deleteRecording recordingId).touches payload key) :
    view (some config) key = view payload key := by
  unfold deletePersistedLiveTvRecording at h
  dsimp only at h
  split at h <;> cases h
  rw [← view_config payload]
  exact view_setItems (filter_drop (keyOf_ne_of_not_picks htouches))

theorem Operation.frame {op : Operation} (h : op.apply payload = some config)
    (htouches : ¬op.touches payload key) : view (some config) key = view payload key := by
  cases op with
  | upsertTimer => exact view_upsertLiveTvTimer h htouches
  | deleteTimer => exact view_deletePersistedLiveTvTimer h htouches
  | startRecording start =>
    cases h
    rw [← view_config payload]
    exact view_setItems (filter_push htouches)
  | completeRecording =>
    cases h
    exact view_completeRecording htouches
  | discardRecording =>
    cases h
    exact view_discardRecording htouches
  | cleanupRecording =>
    cases h
    rw [← view_config payload]
    exact view_updateItems (filter_drop (keyOf_ne_of_not_picks htouches))
  | materialize => exact view_materializeSeriesTimerTimers h htouches
  | cascadeDelete => exact view_cascadeDeleteSeriesTimerTimers h htouches
  | deleteRecording => exact view_deletePersistedLiveTvRecording h htouches

end Frame

section Effect

variable {payload : Payload} {config : LiveTvConfiguration} {kind : Kind}

@[simp] theorem items_setItems (items : List Json) :
    Payload.items (some (config.setItems kind items)) kind = items := by
  simp [Payload.items, Payload.config, LiveTvConfiguration.items, Json.asArray]

theorem items_updateItems {f : List Json → List Json} (hf : f [] = []) :
    Payload.items (some (config.updateItems kind f)) kind =
      f (Payload.items (some config) kind) := by
  simp only [LiveTvConfiguration.updateItems]
  cases hitems : config.items kind with
  | none => simp [Payload.items, Payload.config, hitems, hf]
  | some items =>
    have hitems : Payload.items (some config) kind = items := by
      simp [Payload.items, Payload.config, hitems]
    rw [hitems]
    exact items_setItems _

theorem items_updateItems_of_ne {other : Kind} (h : other ≠ kind) {f : List Json → List Json} :
    Payload.items (some (config.updateItems kind f)) other = Payload.items (some config) other := by
  simp only [Payload.items, Payload.config, Option.getD_some,
    configItems_updateItems_of_ne config h]

theorem mem_updateFirst {p : Json → Bool} {f : Json → Json} {new : Json} {items : List Json}
    (hany : items.any p = true) (hf : ∀ item, f item = new) : new ∈ updateFirst p f items := by
  induction items with
  | nil => cases hany
  | cons item rest ih =>
    simp only [updateFirst]
    split
    · rw [hf]
      exact .head _
    · rename_i hp
      rw [List.any_cons, Bool.eq_false_iff.mpr hp, Bool.false_or] at hany
      exact .tail _ (ih hany)

theorem find?_updateFirst {p : Json → Bool} {f : Json → Json} (hp : ∀ item, p (f item) = p item)
    (items : List Json) : (updateFirst p f items).find? p = (items.find? p).map f := by
  induction items with
  | nil => rfl
  | cons item rest ih =>
    simp only [updateFirst]
    split
    · rename_i hitem
      rw [List.find?_cons_of_pos (by rw [hp, hitem]), List.find?_cons_of_pos hitem, Option.map_some]
    · rename_i hitem
      rw [List.find?_cons_of_neg hitem, List.find?_cons_of_neg hitem, ih]

theorem eq_false_of_mem_filter {p : Json → Bool} {items : List Json} :
    ∀ item ∈ items.filter (fun item => !p item), p item = false := by
  intro item hmem
  simpa using (List.mem_filter.mp hmem).2

theorem any_pushChild {p : Json → Bool} {items : List Json} (child : Json)
    (h : items.any p = true) : (pushChild items child).any p = true := by
  simp only [pushChild]
  split
  · exact h
  · rw [List.any_append, h, Bool.true_or]

theorem any_foldl_pushChild {p : Json → Bool} {items : List Json} (newTimers : List Json)
    (h : items.any p = true) : (newTimers.foldl pushChild items).any p = true := by
  induction newTimers generalizing items with
  | nil => exact h
  | cons child rest ih => exact ih (any_pushChild child h)

theorem hasId_foldl_pushChild {newTimers items : List Json} {child : Json} {id : String}
    (hmem : child ∈ newTimers) (hid : child.stringField "Id" = some id) :
    (newTimers.foldl pushChild items).any (hasId id) = true := by
  induction newTimers generalizing items with
  | nil => cases hmem
  | cons other rest ih =>
    obtain rfl | hmem := List.mem_cons.mp hmem
    · rw [List.foldl_cons]
      apply any_foldl_pushChild
      have hchild : hasId id child = true := by simp [hasId, hid]
      rw [pushChild, hid, Option.getD_some]
      split
      · assumption
      · rw [List.any_append, List.any_cons, hchild, Bool.true_or, Bool.or_true]
    · exact ih hmem

theorem hasId_set {id field : String} (hfield : eqIgnoreAsciiCase field "Id" = false)
    (item new : Json) : hasId id (item.set field new) = hasId id item := by
  simp only [hasId, Json.stringField_set item new hfield]

theorem hasId_completeRecordingItem (id : String) (recording : Json) :
    hasId id (completeRecordingItem recording) = hasId id recording :=
  hasId_set (by decide) _ _

theorem hasId_completeTimerItem (id path : String) (timer : Json) :
    hasId id (completeTimerItem path timer) = hasId id timer :=
  (hasId_set (by decide) _ _).trans (hasId_set (by decide) _ _)

theorem isObject_of_hasId {id : String} {item : Json} (h : hasId id item = true) :
    item.isObject = true := by
  cases hfield : item.stringField "Id" with
  | none =>
    rw [hasId, hfield] at h
    cases h
  | some text => exact Json.isObject_of_stringField hfield

theorem effect_completeRecording (recordingId timerId path : String) (payload : Payload) :
    (Operation.completeRecording recordingId timerId path).Effect
      (completeRecording recordingId timerId path payload) := by
  constructor
  · intro recording hfind
    rw [completeRecording, items_updateItems_of_ne (by decide), items_updateItems rfl,
      find?_updateFirst (hasId_completeRecordingItem recordingId)] at hfind
    obtain ⟨before, hbefore, rfl⟩ := Option.map_eq_some_iff.mp hfind
    exact Json.get_set (isObject_of_hasId (List.find?_some hbefore)) _ _
  · intro timer hfind
    rw [completeRecording, items_updateItems rfl,
      find?_updateFirst (hasId_completeTimerItem timerId path)] at hfind
    obtain ⟨before, hbefore, rfl⟩ := Option.map_eq_some_iff.mp hfind
    have hobject := isObject_of_hasId (List.find?_some hbefore)
    simp only [completeTimerItem]
    rw [Json.get_set_of_ne _ _ (by decide), Json.get_set hobject,
      Json.get_set ((Json.isObject_set _ _ _).trans hobject)]
    exact ⟨rfl, rfl⟩

theorem effect_discardRecording (recordingId timerId : String) (payload : Payload) :
    (Operation.discardRecording recordingId timerId).Effect
      (discardRecording recordingId timerId payload) := by
  constructor
  · rw [discardRecording, items_updateItems_of_ne (by decide), items_updateItems rfl]
    exact eq_false_of_mem_filter
  · rw [discardRecording, items_updateItems rfl]
    exact eq_false_of_mem_filter

theorem effect_upsertLiveTvTimer {freshId : String} {pathTimerId : Option String} {body : Json}
    (h : upsertLiveTvTimer kind freshId pathTimerId body payload = some config) :
    (Operation.upsertTimer kind freshId pathTimerId body).Effect config := by
  simp only [upsertLiveTvTimer] at h
  split at h <;> cases h
  simp only [Operation.Effect, items_setItems]
  split
  · rename_i hany
    exact mem_updateFirst hany fun _ => rfl
  · exact List.mem_append_right _ (.head _)

theorem Operation.effect_of_apply {op : Operation} (h : op.apply payload = some config) :
    op.Effect config := by
  cases op with
  | upsertTimer => exact effect_upsertLiveTvTimer h
  | deleteTimer =>
    simp only [Operation.apply, deletePersistedLiveTvTimer] at h
    split at h <;> cases h
    rw [Operation.Effect, items_setItems]
    exact eq_false_of_mem_filter
  | startRecording =>
    cases h
    rw [Operation.Effect, Configuration.startRecording, items_setItems]
    exact List.mem_append_right _ (.head _)
  | completeRecording =>
    cases h
    exact effect_completeRecording _ _ _ payload
  | discardRecording =>
    cases h
    exact effect_discardRecording _ _ payload
  | cleanupRecording =>
    cases h
    rw [Operation.Effect, cleanupFailedRecording, items_updateItems rfl]
    exact eq_false_of_mem_filter
  | materialize newTimers =>
    simp only [Operation.apply, materializeSeriesTimerTimers] at h
    split at h <;> cases h
    intro child hmem id hid
    rw [items_setItems]
    exact List.any_eq_true.mp (hasId_foldl_pushChild hmem hid)
  | cascadeDelete =>
    cases payload with
    | none => cases h
    | some stored =>
      obtain ⟨timers, -, rfl⟩ := Option.map_eq_some_iff.mp h
      rw [Operation.Effect, items_setItems]
      exact eq_false_of_mem_filter
  | deleteRecording =>
    simp only [Operation.apply, deletePersistedLiveTvRecording] at h
    split at h <;> cases h
    rw [Operation.Effect, items_setItems]
    exact eq_false_of_mem_filter

end Effect

def operations : Updates Operation Payload Key (List Json) where
  apply op payload := (op.apply payload).map some
  view
  touches := Operation.touches
  frame := by
    intro op before after key h htouches
    obtain ⟨config, happly, rfl⟩ := Option.map_eq_some_iff.mp h
    exact op.frame happly htouches

open ReadModifyWrite

def configurationStore (initial : Payload) :
    Machine (World Operation Payload) (Action Operation Payload) := machine operations initial

theorem effect_of_reachable {initial : Payload} {w : World Operation Payload}
    (h : (configurationStore initial).Reachable w) {write : Write Operation Payload}
    (hmem : write ∈ w.history) : ∃ config, write.after = some config ∧ write.op.Effect config := by
  obtain ⟨config, happly, hafter⟩ := Option.map_eq_some_iff.mp (apply_of_mem_history h write hmem)
  exact ⟨config, hafter.symm, Operation.effect_of_apply happly⟩

/-- A successful operation has written its effect.  Along fresh writes none of that is
lost, and a step keeps that exactly when it is fresh. -/
theorem updates_survive_iff_fresh (initial : Payload) :
    (∀ w, (configurationStore initial).Reachable w → ∀ write ∈ w.history,
      ∃ config, write.after = some config ∧ write.op.Effect config) ∧
    (∀ w, (configurationStore initial).Reaches (Fresh operations) w →
      NoLostUpdate operations w) ∧
    (∀ w action w', (configurationStore initial).Reaches (Fresh operations) w →
      (configurationStore initial).step w action = some w' →
      (NoLostUpdate operations w' ↔ Fresh operations w action)) := by
  refine ⟨?_, ?_, ?_⟩
  · intro w hw write hmem
    exact effect_of_reachable hw hmem
  · intro w hw
    exact (serial_of_reaches hw).noLostUpdate
  · intro w action w' hw hstep
    exact noLostUpdate_iff_fresh hw hstep

def storedTimer : Json := .object [("Id", .string "t1"), ("Name", .string "News")]

def recordingStart : RecordingStart where
  recordingId := "r2"
  timerId := "t2"
  programId := .null
  seriesTimerId := .null
  name := "Film"
  channelId := "hdhr_1"
  path := "/livetv/recordings/Film.ts"
  startDate := "2024-01-01T20:00:00Z"
  endDate := "2024-01-01T22:00:00Z"
  dateCreated := "2024-01-01T20:00:01Z"

/-- A timer is cancelled while the start of another timer's recording is between its
read and its write.  The cancelled timer is back. -/
theorem cancelled_timer_returns :
    ∃ initial w, (configurationStore initial).Reachable w ∧
      Operation.deleteTimer .timers "t1" ∈ w.history.map Write.op ∧
      view w.document ⟨.timers, "t1"⟩ = [storedTimer] ∧ ¬NoLostUpdate operations w := by
  let initial : Payload := some ⟨.array [storedTimer], .array [], .array []⟩
  let deletion : Write Operation Payload :=
    ⟨.deleteTimer .timers "t1", initial, some ⟨.array [], .array [], .array []⟩⟩
  have hrun : ∃ w, (configurationStore initial).Reachable w ∧
      w.history = [⟨.startRecording recordingStart, initial, w.document⟩, deletion] ∧
      view w.document ⟨.timers, "t1"⟩ = [storedTimer] :=
    Machine.exists_of_run [.read (.deleteTimer .timers "t1"),
      .read (.startRecording recordingStart), .write (.deleteTimer .timers "t1") initial,
      .write (.startRecording recordingStart) initial] (by decide)
  obtain ⟨w, hreach, hhistory, hview⟩ := hrun
  refine ⟨initial, w, hreach, ?_, hview, ?_⟩
  · rw [hhistory]
    exact .tail _ (.head _)
  · intro hlost
    have hkept := hlost [⟨.startRecording recordingStart, initial, w.document⟩] deletion []
      hhistory ⟨.timers, "t1"⟩ ⟨storedTimer, .head _, by decide, by decide⟩ ?_
    · change view w.document ⟨.timers, "t1"⟩ = view deletion.after ⟨.timers, "t1"⟩ at hkept
      rw [hview] at hkept
      exact absurd hkept (by decide)
    · intro l hl
      obtain rfl := List.mem_singleton.mp hl
      change ¬keyOf .recordings recordingStart.json = some ⟨.timers, "t1"⟩
      decide

end Jellyrin.LiveTv.Configuration
