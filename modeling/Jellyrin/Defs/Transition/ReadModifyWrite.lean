import Jellyrin.Defs.Transition.Machine

/-! Operations that read a document, compute a new one and write it back, with
nothing that holds the document between the two.  A write loses what others have
written since its read, unless the document still agrees with what it read wherever
the operation has nothing to say. -/

universe u v w x

namespace Jellyrin.Transition

/-- Updates of a document that is observed key by key.  `touches` is what an operation
is about, given the document that it reads. -/
structure Updates (Op : Type u) (D : Type v) (K : Type w) (V : Type x) where
  apply : Op → D → Option D
  view : D → K → V
  touches : Op → D → K → Prop
  frame : ∀ {op before after key}, apply op before = some after → ¬touches op before key →
    view after key = view before key

namespace ReadModifyWrite

structure Write (Op : Type u) (D : Type v) where
  op : Op
  before : D
  after : D
  deriving DecidableEq

/-- `reads` are the operations under way with the document that they have read,
`history` the successful ones, newest first. -/
structure World (Op : Type u) (D : Type v) where
  document : D
  reads : List (Op × D)
  history : List (Write Op D)
  deriving DecidableEq

inductive Action (Op : Type u) (D : Type v) where
  | read (op : Op)
  | write (op : Op) (snapshot : D)
  | drop (op : Op) (snapshot : D)
  deriving DecidableEq

variable {Op : Type u} {D : Type v} {K : Type w} {V : Type x}

def World.step [DecidableEq Op] [DecidableEq D] (U : Updates Op D K V) (w : World Op D) :
    Action Op D → Option (World Op D)
  | .read op => some { w with reads := (op, w.document) :: w.reads }
  | .write op snapshot =>
    if (op, snapshot) ∈ w.reads then
      let reads := w.reads.erase (op, snapshot)
      match U.apply op snapshot with
      | some after => some ⟨after, reads, ⟨op, snapshot, after⟩ :: w.history⟩
      | none => some { w with reads }
    else none
  | .drop op snapshot =>
    if (op, snapshot) ∈ w.reads then some { w with reads := w.reads.erase (op, snapshot) }
    else none

def machine [DecidableEq Op] [DecidableEq D] (U : Updates Op D K V) (initial : D) :
    Machine (World Op D) (Action Op D) where
  init := ⟨initial, [], []⟩
  step := World.step U

variable (U : Updates Op D K V)

def Write.Touches (write : Write Op D) (key : K) : Prop := U.touches write.op write.before key

/-- Every successful operation's result is there, key by key, up to later successful
operations on the same key. -/
def NoLostUpdate (w : World Op D) : Prop :=
  ∀ later write earlier, w.history = later ++ write :: earlier →
    ∀ key, write.Touches U key → (∀ l ∈ later, ¬l.Touches U key) →
      U.view w.document key = U.view write.after key

/-- The document still is as the operation has read it, outside of what the operation
is about. -/
def Fresh (w : World Op D) : Action Op D → Prop
  | .write op snapshot => U.apply op snapshot ≠ none →
    ∀ key, ¬U.touches op snapshot key → U.view w.document key = U.view snapshot key
  | .read _ => True
  | .drop _ _ => True

def Accounted (w : World Op D) : Prop :=
  ∀ op snapshot, (op, snapshot) ∈ w.reads →
    ∀ key, U.view snapshot key ≠ U.view w.document key →
      ∃ write ∈ w.history, write.Touches U key

theorem exists_last {α : Type u} {p : α → Prop} {l : List α} (h : ∃ a ∈ l, p a) :
    ∃ later a earlier, l = later ++ a :: earlier ∧ p a ∧ ∀ b ∈ later, ¬p b := by
  induction l with
  | nil =>
    obtain ⟨a, ha, -⟩ := h
    cases ha
  | cons b l ih =>
    by_cases hb : p b
    · exact ⟨[], b, l, rfl, hb, fun _ h => by cases h⟩
    · have htail : ∃ a ∈ l, p a := by
        obtain ⟨a, ha, hpa⟩ := h
        obtain rfl | ha := List.mem_cons.mp ha
        · exact absurd hpa hb
        · exact ⟨a, ha, hpa⟩
      obtain ⟨later, a, earlier, rfl, hpa, hlater⟩ := ih htail
      refine ⟨b :: later, a, earlier, rfl, hpa, ?_⟩
      intro c hc
      obtain rfl | hc := List.mem_cons.mp hc
      · exact hb
      · exact hlater c hc

section Step

variable {U} {w w' : World Op D} {op : Op} {snapshot after : D} {reads : List (Op × D)}

inductive Step [DecidableEq Op] [DecidableEq D] (U : Updates Op D K V) (w : World Op D) :
    Action Op D → World Op D → Prop
  | read {op : Op} : Step U w (.read op) { w with reads := (op, w.document) :: w.reads }
  | write {op : Op} {snapshot after : D} : (op, snapshot) ∈ w.reads →
      U.apply op snapshot = some after →
      Step U w (.write op snapshot)
        ⟨after, w.reads.erase (op, snapshot), ⟨op, snapshot, after⟩ :: w.history⟩
  | error {op : Op} {snapshot : D} : U.apply op snapshot = none →
      Step U w (.write op snapshot) { w with reads := w.reads.erase (op, snapshot) }
  | drop {op : Op} {snapshot : D} :
      Step U w (.drop op snapshot) { w with reads := w.reads.erase (op, snapshot) }

theorem Step.of_step [DecidableEq Op] [DecidableEq D] {action : Action Op D}
    (h : w.step U action = some w') : Step U w action w' := by
  cases action with
  | read op =>
    cases h
    exact .read
  | write op snapshot =>
    simp only [World.step] at h
    split at h
    · rename_i hmem
      cases happly : U.apply op snapshot with
      | none =>
        simp only [happly] at h
        cases h
        exact .error happly
      | some after =>
        simp only [happly] at h
        cases h
        exact .write hmem happly
    · cases h
  | drop op snapshot =>
    simp only [World.step] at h
    split at h <;> cases h
    exact .drop

theorem NoLostUpdate.congr (hi : NoLostUpdate U w) (hdocument : w'.document = w.document)
    (hhistory : w'.history = w.history) : NoLostUpdate U w' := by
  simp only [NoLostUpdate]
  rw [hdocument, hhistory]
  exact hi

theorem Accounted.withReads (hi : Accounted U w)
    (hreads : ∀ read ∈ reads, read ∈ w.reads ∨ read.2 = w.document) :
    Accounted U { w with reads } := by
  intro op snapshot hmem key hne
  obtain hmem | rfl := hreads _ hmem
  · exact hi op snapshot hmem key hne
  · exact absurd rfl hne

theorem NoLostUpdate.write (hi : NoLostUpdate U w) (happly : U.apply op snapshot = some after)
    (hfresh : ∀ key, ¬U.touches op snapshot key → U.view w.document key = U.view snapshot key) :
    NoLostUpdate U ⟨after, reads, ⟨op, snapshot, after⟩ :: w.history⟩ := by
  intro later write earlier hhistory key htouches hlater
  cases later with
  | nil =>
    cases hhistory
    rfl
  | cons newest later =>
    injection hhistory with hnewest hhistory
    have huntouched : ¬U.touches op snapshot key := by
      have h := hlater newest (.head _)
      rw [← hnewest] at h
      exact h
    calc U.view after key = U.view snapshot key := U.frame happly huntouched
      _ = U.view w.document key := (hfresh key huntouched).symm
      _ = U.view write.after key :=
        hi later write earlier hhistory key htouches fun l hl => hlater l (.tail _ hl)

theorem Accounted.write (hi : Accounted U w) (happly : U.apply op snapshot = some after)
    (hfresh : ∀ key, ¬U.touches op snapshot key → U.view w.document key = U.view snapshot key)
    (hreads : ∀ read ∈ reads, read ∈ w.reads) :
    Accounted U ⟨after, reads, ⟨op, snapshot, after⟩ :: w.history⟩ := by
  intro other read hmem key hne
  by_cases htouches : U.touches op snapshot key
  · exact ⟨_, .head _, htouches⟩
  · have hafter : U.view after key = U.view w.document key :=
      (U.frame happly htouches).trans (hfresh key htouches).symm
    rw [hafter] at hne
    obtain ⟨write, hwrite, hkey⟩ := hi other read (hreads _ hmem) key hne
    exact ⟨write, .tail _ hwrite, hkey⟩

theorem NoLostUpdate.fresh (hlost : NoLostUpdate U w) (hi : Accounted U w)
    (hmem : (op, snapshot) ∈ w.reads) (happly : U.apply op snapshot = some after)
    (hafter : NoLostUpdate U ⟨after, reads, ⟨op, snapshot, after⟩ :: w.history⟩) (key : K)
    (huntouched : ¬U.touches op snapshot key) : U.view w.document key = U.view snapshot key := by
  by_contra hne
  obtain ⟨later, write, earlier, hhistory, htouches, hlater⟩ :=
    exists_last (hi op snapshot hmem key (Ne.symm hne))
  have hbefore := hlost later write earlier hhistory key htouches hlater
  have hkept : U.view after key = U.view write.after key := by
    apply hafter (⟨op, snapshot, after⟩ :: later) write earlier (by rw [hhistory]; rfl) key
      htouches
    intro l hl
    obtain rfl | hl := List.mem_cons.mp hl
    · exact huntouched
    · exact hlater l hl
  rw [U.frame happly huntouched] at hkept
  exact hne (hbefore.trans hkept.symm)

end Step

variable [DecidableEq Op] [DecidableEq D] {U} {initial : D} {w w' : World Op D}

structure Serial (U : Updates Op D K V) (w : World Op D) : Prop where
  noLostUpdate : NoLostUpdate U w
  accounted : Accounted U w

theorem Serial.new : Serial U (machine U initial).init where
  noLostUpdate later _ _ h := by cases later <;> cases h
  accounted _ _ h := by cases h

theorem Serial.step (hi : Serial U w) {action : Action Op D} (hc : Fresh U w action)
    (h : Step U w action w') : Serial U w' := by
  cases h with
  | read =>
    refine ⟨hi.noLostUpdate.congr rfl rfl, hi.accounted.withReads ?_⟩
    intro read hmem
    obtain rfl | hmem := List.mem_cons.mp hmem
    · exact .inr rfl
    · exact .inl hmem
  | write hmem happly =>
    have hfresh := hc (by rw [happly]; nofun)
    exact ⟨hi.noLostUpdate.write happly hfresh,
      hi.accounted.write happly hfresh fun _ hread => List.mem_of_mem_erase hread⟩
  | error | drop =>
    exact ⟨hi.noLostUpdate.congr rfl rfl,
      hi.accounted.withReads fun _ hread => .inl (List.mem_of_mem_erase hread)⟩

theorem apply_of_mem_history (h : (machine U initial).Reachable w) :
    ∀ write ∈ w.history, U.apply write.op write.before = some write.after := by
  refine h.invariant
    (I := fun w => ∀ write ∈ w.history, U.apply write.op write.before = some write.after)
    (fun _ h => by cases h) ?_
  intro w action w' hi hstep
  cases Step.of_step hstep with
  | read | error | drop => exact hi
  | write _ happly =>
    intro write hmem
    cases hmem with
    | head => exact happly
    | tail _ hmem => exact hi write hmem

theorem serial_of_reaches (h : (machine U initial).Reaches (Fresh U) w) : Serial U w :=
  h.invariant (J := fun _ => True) (fun _ _ => trivial) Serial.new
    fun _ _ _ _ hi hc ha => hi.step hc (.of_step ha)

theorem noLostUpdate_iff_fresh (h : (machine U initial).Reaches (Fresh U) w)
    {action : Action Op D} (hstep : (machine U initial).step w action = some w') :
    NoLostUpdate U w' ↔ Fresh U w action := by
  have hi := serial_of_reaches h
  constructor
  · intro hafter
    cases action with
    | read | drop => trivial
    | write op snapshot =>
      intro hwrites key huntouched
      cases (Step.of_step hstep : Step U w (.write op snapshot) w') with
      | write hmem happly =>
        exact hi.noLostUpdate.fresh hi.accounted hmem happly hafter key huntouched
      | error happly => exact absurd happly hwrites
  · intro hc
    exact (hi.step hc (.of_step hstep)).noLostUpdate

end ReadModifyWrite

end Jellyrin.Transition
