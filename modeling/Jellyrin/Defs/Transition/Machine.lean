import Mathlib.Data.List.Basic
import Mathlib.Logic.Relation

/-! Labelled machines with partial steps.  A run may be restricted to the steps
that meet a side condition, so that one development serves every interleaving
and the interleavings that keep off a given branch. -/

universe u v w x

namespace Jellyrin.Transition

structure Machine (σ : Type u) (α : Type v) where
  init : σ
  step : σ → α → Option σ

namespace Machine

variable {σ : Type u} {α : Type v} (M : Machine σ α)

def Next (C : σ → α → Prop) (s t : σ) : Prop :=
  ∃ a, C s a ∧ M.step s a = some t

def Steps (C : σ → α → Prop) : σ → σ → Prop :=
  Relation.ReflTransGen (M.Next C)

def Reaches (C : σ → α → Prop) (s : σ) : Prop := M.Steps C M.init s

def Any : σ → α → Prop := fun _ _ => True

def Reachable (s : σ) : Prop := M.Reaches Any s

def run : List α → σ → Option σ
  | [], s => some s
  | a :: as, s => (M.step s a).bind (run as)

def runWhile (check : σ → α → Bool) : List α → σ → Option σ
  | [], s => some s
  | a :: as, s => if check s a then (M.step s a).bind (runWhile check as) else none

variable {M} {C D : σ → α → Prop}

theorem Steps.refl (s : σ) : M.Steps C s s := Relation.ReflTransGen.refl

theorem Steps.tail {s t u : σ} {a : α} (h : M.Steps C s t) (hc : C t a)
    (ha : M.step t a = some u) : M.Steps C s u :=
  Relation.ReflTransGen.tail h ⟨a, hc, ha⟩

theorem Steps.trans {s t u : σ} (h : M.Steps C s t) (k : M.Steps C t u) : M.Steps C s u :=
  Relation.ReflTransGen.trans h k

theorem Steps.mono (hCD : ∀ s a, C s a → D s a) {s t : σ} (h : M.Steps C s t) :
    M.Steps D s t := by
  induction h with
  | refl => exact Steps.refl s
  | tail _ hbc ih =>
    obtain ⟨a, hc, ha⟩ := hbc
    exact ih.tail (hCD _ _ hc) ha

theorem Reaches.mono (hCD : ∀ s a, C s a → D s a) {s : σ} (h : M.Reaches C s) :
    M.Reaches D s := Steps.mono hCD h

theorem Reaches.reachable {s : σ} (h : M.Reaches C s) : M.Reachable s :=
  h.mono fun _ _ _ => trivial

theorem Reaches.init : M.Reaches C M.init := Steps.refl _

theorem Reaches.steps {s t : σ} (h : M.Reaches C s) (k : M.Steps C s t) : M.Reaches C t :=
  Steps.trans h k

theorem Reaches.tail {s t : σ} {a : α} (h : M.Reaches C s) (hc : C s a)
    (ha : M.step s a = some t) : M.Reaches C t := Steps.tail h hc ha

theorem Reachable.tail {s t : σ} {a : α} (h : M.Reachable s) (ha : M.step s a = some t) :
    M.Reachable t := Reaches.tail h trivial ha

theorem Steps.invariant {I : σ → Prop}
    (step : ∀ s a t, I s → C s a → M.step s a = some t → I t) {s t : σ}
    (h : M.Steps C s t) (hs : I s) : I t := by
  induction h with
  | refl => exact hs
  | tail _ hbc ih =>
    obtain ⟨a, hc, ha⟩ := hbc
    exact step _ _ _ ih hc ha

theorem Reaches.invariant {I J : σ → Prop} (known : ∀ s, M.Reaches C s → J s)
    (init : I M.init) (step : ∀ s a t, J s → I s → C s a → M.step s a = some t → I t)
    {s : σ} (h : M.Reaches C s) : I s := by
  induction h with
  | refl => exact init
  | tail hb hbc ih =>
    obtain ⟨a, hc, ha⟩ := hbc
    exact step _ _ _ (known _ hb) ih hc ha

theorem Reachable.invariant {I : σ → Prop} (init : I M.init)
    (step : ∀ s a t, I s → M.step s a = some t → I t) {s : σ} (h : M.Reachable s) : I s :=
  Reaches.invariant (J := fun _ => True) (fun _ _ => trivial) init
    (fun s a t _ hs _ ha => step s a t hs ha) h

theorem steps_of_run (as : List α) {s t : σ} (h : M.run as s = some t) :
    M.Steps Any s t := by
  induction as generalizing s with
  | nil =>
    cases h
    exact Steps.refl _
  | cons a as ih =>
    obtain ⟨u, hu, ht⟩ := Option.bind_eq_some_iff.mp h
    exact ((Steps.refl s).tail trivial hu).trans (ih ht)

theorem reachable_of_run (as : List α) {s : σ} (h : M.run as M.init = some s) :
    M.Reachable s := steps_of_run as h

theorem steps_of_runWhile {check : σ → α → Bool} (hcheck : ∀ s a, check s a = true → C s a)
    (as : List α) {s t : σ} (h : M.runWhile check as s = some t) : M.Steps C s t := by
  induction as generalizing s with
  | nil =>
    cases h
    exact Steps.refl _
  | cons a as ih =>
    simp only [runWhile] at h
    split at h
    · obtain ⟨u, hu, ht⟩ := Option.bind_eq_some_iff.mp h
      exact ((Steps.refl s).tail (hcheck s a ‹_›) hu).trans (ih ht)
    · cases h

theorem run_of_runWhile {check : σ → α → Bool} (as : List α) {s t : σ}
    (h : M.runWhile check as s = some t) : M.run as s = some t := by
  induction as generalizing s with
  | nil => exact h
  | cons a as ih =>
    simp only [runWhile] at h
    split at h
    · obtain ⟨u, hu, ht⟩ := Option.bind_eq_some_iff.mp h
      rw [run, hu, Option.bind_some]
      exact ih ht
    · cases h

theorem exists_of_runWhile {check : σ → α → Bool} (hcheck : ∀ s a, check s a = true → C s a)
    (as : List α) {P : σ → Prop} [DecidablePred P]
    (h : (M.runWhile check as M.init).any (fun s => decide (P s)) = true) :
    ∃ s, M.Reaches C s ∧ P s := by
  obtain ⟨s, hs, hp⟩ := (Option.any_eq_true _ _).mp h
  exact ⟨s, steps_of_runWhile hcheck as hs, of_decide_eq_true hp⟩

theorem exists_of_run (as : List α) {P : σ → Prop} [DecidablePred P]
    (h : (M.run as M.init).any (fun s => decide (P s)) = true) : ∃ s, M.Reachable s ∧ P s := by
  obtain ⟨s, hs, hp⟩ := (Option.any_eq_true _ _).mp h
  exact ⟨s, reachable_of_run as hs, of_decide_eq_true hp⟩

end Machine

/-! Loops that may fail. -/

section Loops

variable {σ : Type u} {α : Type v} (step : σ → α → Option σ)

def EachPass (C : σ → α → Prop) : σ → List α → Prop
  | _, [] => True
  | s, a :: as => C s a ∧ ∀ t, step s a = some t → EachPass C t as

variable {step}

theorem EachPass.invariant {C : σ → α → Prop} {I : σ → Prop}
    (h : ∀ s a t, I s → C s a → step s a = some t → I t) {as : List α} {s t : σ}
    (hloop : as.foldlM step s = some t) (hpass : EachPass step C s as) (hs : I s) : I t := by
  induction as generalizing s with
  | nil =>
    cases hloop
    exact hs
  | cons a as ih =>
    rw [List.foldlM_cons] at hloop
    obtain ⟨next, hnext, hrest⟩ := Option.bind_eq_some_iff.mp hloop
    exact ih hrest (hpass.2 next hnext) (h s a next hs hpass.1 hnext)

end Loops

/-! Refinement mappings: every concrete step is an abstract step or is invisible. -/

structure Refinement {σ : Type u} {α : Type v} {τ : Type w} {β : Type x}
    (M : Machine σ α) (N : Machine τ β) (abs : σ → τ) : Prop where
  init : abs M.init = N.init
  step : ∀ s a t, M.Reachable s → M.step s a = some t →
    abs t = abs s ∨ ∃ b, N.step (abs s) b = some (abs t)

namespace Refinement

variable {σ : Type u} {α : Type v} {τ : Type w} {β : Type x}
  {M : Machine σ α} {N : Machine τ β} {abs : σ → τ}

theorem reachable (R : Refinement M N abs) {s : σ} (h : M.Reachable s) :
    N.Reachable (abs s) := by
  apply Machine.Reaches.invariant (J := M.Reachable) (fun _ hs => hs.reachable) ?_ ?_ h
  · rw [R.init]
    exact Machine.Reaches.init
  · intro s a t hs hi _ ha
    cases R.step s a t hs ha with
    | inl hstutter =>
      rw [hstutter]
      exact hi
    | inr hvisible =>
      obtain ⟨b, hb⟩ := hvisible
      exact hi.tail hb

theorem invariant (R : Refinement M N abs) {P : τ → Prop} (hP : ∀ t, N.Reachable t → P t)
    {s : σ} (h : M.Reachable s) : P (abs s) :=
  hP (abs s) (R.reachable h)

end Refinement

end Jellyrin.Transition

/-! Machines that answer every request, and simulations between two of them.  Each
request carries a time; a relation between the states may grow as time passes. -/

universe y

namespace Jellyrin.Transition

structure Mealy (σ : Type u) (α : Type v) (ω : Type w) where
  step : σ → α → σ × ω

namespace Mealy

variable {σ : Type u} {τ : Type x} {α : Type v} {ω : Type w} {T : Type y} [LE T]

def run (M : Mealy σ α ω) : List α → σ → σ × List ω
  | [], s => (s, [])
  | a :: as, s => ((M.run as (M.step s a).1).1, (M.step s a).2 :: (M.run as (M.step s a).1).2)

def Timed (time : α → T) : T → List α → Prop
  | _, [] => True
  | now, a :: as => now ≤ time a ∧ Timed time (time a) as

instance Timed.decidable (time : α → T) [DecidableLE T] : (now : T) → (as : List α) →
    Decidable (Timed time now as)
  | _, [] => .isTrue trivial
  | now, a :: as =>
    have := Timed.decidable time (time a) as
    inferInstanceAs (Decidable (now ≤ time a ∧ Timed time (time a) as))

def clock (time : α → T) : T → List α → T
  | now, [] => now
  | _, a :: as => clock time (time a) as

theorem run_invariant {M : Mealy σ α ω} {I : σ → Prop}
    (step : ∀ s a, I s → I (M.step s a).1) (as : List α) {s : σ} (h : I s) :
    I (M.run as s).1 := by
  induction as generalizing s with
  | nil => exact h
  | cons a as ih => exact ih (step s a h)

theorem run_simulates {M : Mealy σ α ω} {N : Mealy τ α ω} (time : α → T)
    {R : T → σ → τ → Prop} (mono : ∀ t t' s u, t ≤ t' → R t s u → R t' s u)
    (step : ∀ s u a, R (time a) s u →
      (M.step s a).2 = (N.step u a).2 ∧ R (time a) (M.step s a).1 (N.step u a).1)
    (as : List α) {now : T} (htimed : Timed time now as) {s : σ} {u : τ} (h : R now s u) :
    (M.run as s).2 = (N.run as u).2 ∧ R (clock time now as) (M.run as s).1 (N.run as u).1 := by
  induction as generalizing now s u with
  | nil => exact ⟨rfl, h⟩
  | cons a as ih =>
    obtain ⟨hanswer, hnext⟩ := step s u a (mono _ _ _ _ htimed.1 h)
    obtain ⟨hanswers, hlast⟩ := ih htimed.2 hnext
    constructor
    · simp only [run]
      rw [hanswer, hanswers]
    · exact hlast

end Mealy

end Jellyrin.Transition
