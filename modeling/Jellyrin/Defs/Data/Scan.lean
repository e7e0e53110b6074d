import Mathlib.Data.List.Basic
import Mathlib.Data.List.TakeWhile

/-! Scanners of byte strings that can return early.  Bytes that are appended change what a scanner
says only in that it rejects them. -/

namespace Jellyrin

inductive Exit where
  | outOfRange
  | returned (result : Bool)
  deriving DecidableEq

def Outlasts {α : Type} (result longer : Except Exit α) : Prop :=
  match result with
  | .ok a => longer = .ok a ∨ longer = .error (.returned false)
  | .error (.returned true) => longer = .error (.returned false)
  | .error _ => True

theorem outlasts_rejected {α : Type} (result : Except Exit α) :
    Outlasts result (.error (.returned false)) := by
  rcases result with (_ | _ | _) | a
  · trivial
  · trivial
  · rfl
  · exact .inr rfl

structure Scan (α : Type) where
  run : List UInt8 → Except Exit α
  outlasts : ∀ bytes more, more ≠ [] → Outlasts (run bytes) (run (bytes ++ more))

namespace Scan

variable {α β : Type} {bytes more : List UInt8}

instance : Monad Scan where
  pure a := ⟨fun _ => .ok a, fun _ _ _ => .inl rfl⟩
  bind scan next :=
    { run := fun bytes =>
        match scan.run bytes with
        | .ok a => (next a).run bytes
        | .error exit => .error exit
      outlasts := by
        intro bytes more hmore
        have hscan := scan.outlasts bytes more hmore
        cases hrun : scan.run bytes with
        | ok a =>
          rw [hrun] at hscan
          cases hscan with
          | inl hlonger =>
            rw [hlonger]
            exact (next a).outlasts bytes more hmore
          | inr hlonger =>
            rw [hlonger]
            exact outlasts_rejected _
        | error exit =>
          rw [hrun] at hscan
          rcases exit with _ | _ | _
          · trivial
          · trivial
          · have hlonger : scan.run (bytes ++ more) = .error (.returned false) := hscan
            rw [hlonger]
            rfl }

/-! Reading. -/

def reject : Scan α := ⟨fun _ => .error (.returned false), fun _ _ _ => trivial⟩

def require (c : Prop) [Decidable c] : Scan Unit := if c then pure () else reject

def get (i : Nat) : Scan UInt8 where
  run bytes := if h : i < bytes.length then .ok bytes[i] else .error (.returned false)
  outlasts := by
    intro bytes more _
    by_cases h : i < bytes.length
    · have hlonger : i < (bytes ++ more).length := by
        rw [List.length_append]
        omega
      rw [dif_pos h, dif_pos hlonger, List.getElem_append_left h]
      exact .inl rfl
    · rw [dif_neg h]
      trivial

def index (i : Nat) : Scan UInt8 where
  run bytes := if h : i < bytes.length then .ok bytes[i] else .error .outOfRange
  outlasts := by
    intro bytes more _
    by_cases h : i < bytes.length
    · have hlonger : i < (bytes ++ more).length := by
        rw [List.length_append]
        omega
      rw [dif_pos h, dif_pos hlonger, List.getElem_append_left h]
      exact .inl rfl
    · rw [dif_neg h]
      trivial

def indexOf (part : List UInt8) (i : Nat) : Scan UInt8 :=
  if h : i < part.length then pure part[i] else ⟨fun _ => .error .outOfRange, fun _ _ _ => trivial⟩

def slice (start stop : Nat) : Scan (List UInt8) where
  run bytes :=
    if start ≤ stop ∧ stop ≤ bytes.length then .ok ((bytes.take stop).drop start)
    else .error .outOfRange
  outlasts := by
    intro bytes more _
    by_cases h : start ≤ stop ∧ stop ≤ bytes.length
    · have hlonger : start ≤ stop ∧ stop ≤ (bytes ++ more).length := by
        rw [List.length_append]
        omega
      rw [if_pos h, if_pos hlonger, List.take_append_of_le_length h.2]
      exact .inl rfl
    · rw [if_neg h]
      trivial

def within (stop : Nat) : Scan Unit where
  run bytes := if stop ≤ bytes.length then .ok () else .error (.returned false)
  outlasts := by
    intro bytes more _
    by_cases h : stop ≤ bytes.length
    · have hlonger : stop ≤ (bytes ++ more).length := by
        rw [List.length_append]
        omega
      rw [if_pos h, if_pos hlonger]
      exact .inl rfl
    · rw [if_neg h]
      trivial

def exactly (length : Nat) : Scan Unit where
  run bytes := if length = bytes.length then .ok () else .error (.returned false)
  outlasts := by
    intro bytes more hmore
    by_cases h : length = bytes.length
    · have hlonger : length ≠ (bytes ++ more).length := by
        have hpos := List.length_pos_of_ne_nil hmore
        rw [List.length_append]
        omega
      rw [if_pos h, if_neg hlonger]
      exact .inr rfl
    · rw [if_neg h]
      trivial

def startsWithAny (starts : List (List UInt8)) : Scan Unit where
  run bytes := if ∃ start ∈ starts, start <+: bytes then .ok () else .error (.returned false)
  outlasts := by
    intro bytes more _
    by_cases h : ∃ start ∈ starts, start <+: bytes
    · have hlonger : ∃ start ∈ starts, start <+: bytes ++ more := by
        obtain ⟨start, hstart, hprefix⟩ := h
        exact ⟨start, hstart, hprefix.trans (List.prefix_append _ _)⟩
      rw [if_pos h, if_pos hlonger]
      exact .inl rfl
    · rw [if_neg h]
      trivial

def finish (c : Bool) (offset : Nat) : Scan α where
  run bytes := .error (.returned (c && offset == bytes.length))
  outlasts := by
    intro bytes more hmore
    cases hresult : c && offset == bytes.length with
    | false => trivial
    | true =>
      have hoffset : offset = bytes.length := by
        rw [Bool.and_eq_true, beq_iff_eq] at hresult
        exact hresult.2
      have hlonger : (offset == (bytes ++ more).length) = false := by
        have hpos := List.length_pos_of_ne_nil hmore
        rw [beq_eq_false_iff_ne, List.length_append]
        omega
      rw [hlonger, Bool.and_false]
      rfl

/-- The first byte from an offset on that does not meet a test, and the offset behind it.  There
is a rejection where all bytes meet it. -/
def getAfter (p : UInt8 → Bool) (offset : Nat) : Scan (UInt8 × Nat) where
  run bytes :=
    let stop := offset + ((bytes.drop offset).takeWhile p).length
    if h : stop < bytes.length then .ok (bytes[stop], stop + 1) else .error (.returned false)
  outlasts := by
    intro bytes more _
    by_cases h : offset + ((bytes.drop offset).takeWhile p).length < bytes.length
    · have hskip : ((bytes ++ more).drop offset).takeWhile p = (bytes.drop offset).takeWhile p := by
        have hlength := List.length_drop (l := bytes) (i := offset)
        rw [List.drop_append_of_le_length (by omega), List.takeWhile_append, if_neg (by omega)]
      have hlonger : offset + ((bytes.drop offset).takeWhile p).length < (bytes ++ more).length := by
        rw [List.length_append]
        omega
      simp only [hskip, dif_pos h, dif_pos hlonger, List.getElem_append_left h]
      exact .inl rfl
    · simp only [dif_neg h]
      trivial

/-! What holds after a scan that stays in range. -/

def Safe (bytes : List UInt8) (scan : Scan α) (Q : α → Prop) : Prop :=
  match scan.run bytes with
  | .ok a => Q a
  | .error .outOfRange => False
  | .error (.returned _) => True

variable {stop offset : Nat}

section Safe

variable {scan : Scan α} {Q : α → Prop}

theorem Safe.imp {P : α → Prop} (h : Safe bytes scan P) (himp : ∀ a, P a → Q a) :
    Safe bytes scan Q := by
  unfold Safe at h ⊢
  split at h
  · exact himp _ h
  · exact h
  · exact h

@[simp] theorem safe_pure (a : α) : Safe bytes (pure a) Q ↔ Q a := Iff.rfl

@[simp] theorem safe_bind {next : α → Scan β} {Q : β → Prop} :
    Safe bytes (scan >>= next) Q ↔ Safe bytes scan fun a => Safe bytes (next a) Q := by
  unfold Safe
  simp only [bind]
  rcases scan.run bytes with (_ | _) | a <;> rfl

@[simp] theorem safe_ite {c : Prop} [Decidable c] {scan other : Scan α} :
    Safe bytes (if c then scan else other) Q ↔
      (c → Safe bytes scan Q) ∧ (¬c → Safe bytes other Q) := by
  split <;> simp [*]

@[simp] theorem safe_reject : Safe bytes reject Q ↔ True := Iff.rfl

@[simp] theorem safe_require {c : Prop} [Decidable c] {Q : Unit → Prop} :
    Safe bytes (require c) Q ↔ (c → Q ()) := by
  rw [require, safe_ite]
  simp

@[simp] theorem safe_get {i : Nat} {Q : UInt8 → Prop} :
    Safe bytes (get i) Q ↔ ∀ h : i < bytes.length, Q bytes[i] := by
  unfold Safe
  simp only [get]
  by_cases h : i < bytes.length <;> simp [h]

@[simp] theorem safe_index {i : Nat} {Q : UInt8 → Prop} :
    Safe bytes (index i) Q ↔ ∃ h : i < bytes.length, Q bytes[i] := by
  unfold Safe
  simp only [index]
  by_cases h : i < bytes.length <;> simp [h]

@[simp] theorem safe_indexOf {part : List UInt8} {i : Nat} {Q : UInt8 → Prop} :
    Safe bytes (indexOf part i) Q ↔ ∃ h : i < part.length, Q part[i] := by
  unfold indexOf
  by_cases h : i < part.length
  · simp [h]
  · simp [h, Safe]

@[simp] theorem safe_slice {start : Nat} {Q : List UInt8 → Prop} :
    Safe bytes (slice start stop) Q ↔
      (start ≤ stop ∧ stop ≤ bytes.length) ∧ Q ((bytes.take stop).drop start) := by
  unfold Safe
  simp only [slice]
  by_cases h : start ≤ stop ∧ stop ≤ bytes.length <;> simp [h]

@[simp] theorem safe_within {Q : Unit → Prop} :
    Safe bytes (within stop) Q ↔ (stop ≤ bytes.length → Q ()) := by
  unfold Safe
  simp only [within]
  by_cases h : stop ≤ bytes.length <;> simp [h]

@[simp] theorem safe_exactly {length : Nat} {Q : Unit → Prop} :
    Safe bytes (exactly length) Q ↔ (length = bytes.length → Q ()) := by
  unfold Safe
  simp only [exactly]
  by_cases h : length = bytes.length <;> simp [h]

@[simp] theorem safe_startsWithAny {starts : List (List UInt8)} {Q : Unit → Prop} :
    Safe bytes (startsWithAny starts) Q ↔ ((∃ start ∈ starts, start <+: bytes) → Q ()) := by
  unfold Safe
  simp only [startsWithAny]
  by_cases h : ∃ start ∈ starts, start <+: bytes <;> simp [h]

@[simp] theorem safe_finish {c : Bool} : Safe bytes (finish c offset) Q ↔ True :=
  Iff.rfl

theorem Safe.slice {start : Nat} {Q : List UInt8 → Prop} (h : start ≤ stop ∧ stop ≤ bytes.length)
    (hpart : ∀ part : List UInt8, part.length = stop - start → Q part) :
    Safe bytes (Scan.slice start stop) Q := by
  refine safe_slice.mpr ⟨h, hpart _ ?_⟩
  rw [List.length_drop, List.length_take]
  omega

theorem Safe.getAfter {p : UInt8 → Bool} {Q : UInt8 × Nat → Prop}
    (h : ∀ byte stop, offset < stop → stop ≤ bytes.length → Q (byte, stop)) :
    Safe bytes (Scan.getAfter p offset) Q := by
  unfold Safe
  simp only [Scan.getAfter]
  by_cases hstop : offset + ((bytes.drop offset).takeWhile p).length < bytes.length
  · rw [dif_pos hstop]
    exact h _ _ (by omega) hstop
  · rw [dif_neg hstop]
    trivial

end Safe

/-! What a scan that goes on has read. -/

section Run

theorem run_bind_eq_ok {scan : Scan α} {next : α → Scan β} {b : β} :
    (scan >>= next).run bytes = .ok b ↔
      ∃ a, scan.run bytes = .ok a ∧ (next a).run bytes = .ok b := by
  simp only [bind]
  cases scan.run bytes <;> simp

theorem run_pure_eq_ok {a b : α} : (pure a : Scan α).run bytes = .ok b ↔ a = b := by
  simp only [pure, Except.ok.injEq]

theorem run_require_eq_ok {c : Prop} [Decidable c] {u : Unit} :
    (require c).run bytes = .ok u ↔ c := by
  rw [require]
  split <;> simp [*, pure, reject]

theorem run_get_eq_ok {i : Nat} {byte : UInt8} :
    (get i).run bytes = .ok byte ↔ bytes[i]? = some byte := by
  simp only [get]
  by_cases h : i < bytes.length <;> simp [h]

theorem run_slice_eq_ok {start : Nat} {part : List UInt8} :
    (slice start stop).run bytes = .ok part ↔
      (start ≤ stop ∧ stop ≤ bytes.length) ∧ (bytes.take stop).drop start = part := by
  simp only [slice]
  split <;> simp [*]

theorem run_within_eq_ok {u : Unit} : (within stop).run bytes = .ok u ↔ stop ≤ bytes.length := by
  simp only [within]
  split <;> simp [*]

theorem run_finish_ne_ok {c : Bool} {a : α} : (finish c offset : Scan α).run bytes ≠ .ok a := by
  simp [finish]

theorem run_getAfter_eq_ok {p : UInt8 → Bool} {byte : UInt8}
    (h : (getAfter p offset).run bytes = .ok (byte, stop)) :
    offset < stop ∧ bytes[stop - 1]? = some byte ∧ p byte = false ∧
      ∀ i, offset ≤ i → i < stop - 1 → ∃ skipped, bytes[i]? = some skipped ∧ p skipped = true := by
  have hrest : ∀ k, bytes[offset + k]? =
      ((bytes.drop offset).takeWhile p ++ (bytes.drop offset).dropWhile p)[k]? := fun k => by
    rw [List.takeWhile_append_dropWhile, List.getElem?_drop]
  simp only [getAfter] at h
  split at h
  · rename_i hstop
    cases h
    have hbyte : bytes[offset + ((bytes.drop offset).takeWhile p).length]? =
        some bytes[offset + ((bytes.drop offset).takeWhile p).length] :=
      List.getElem?_eq_getElem hstop
    refine ⟨by omega, by simp [hstop], ?_, fun i hi hlt => ?_⟩
    · have hnot := List.head?_dropWhile_not p (bytes.drop offset)
      rw [hrest, List.getElem?_append_right (Nat.le_refl _), Nat.sub_self,
        ← List.head?_eq_getElem?] at hbyte
      rw [hbyte] at hnot
      exact hnot
    · obtain ⟨k, rfl⟩ := Nat.exists_eq_add_of_le hi
      have hk : k < ((bytes.drop offset).takeWhile p).length := by omega
      have hskipped := hrest k
      rw [List.getElem?_append_left hk, List.getElem?_eq_getElem hk] at hskipped
      exact ⟨_, hskipped, List.mem_takeWhile_imp (List.getElem_mem hk)⟩
  · cases h

/-! Where a scan ends early it mostly rejects. -/

def NoAccept (bytes : List UInt8) (scan : Scan α) : Prop :=
  scan.run bytes ≠ .error (.returned true)

theorem noAccept_pure (a : α) : NoAccept bytes (pure a) := nofun

theorem noAccept_bind {scan : Scan α} {next : α → Scan β} (h : NoAccept bytes scan)
    (hnext : ∀ a, NoAccept bytes (next a)) : NoAccept bytes (scan >>= next) := by
  unfold NoAccept at h ⊢
  simp only [bind]
  cases hrun : scan.run bytes with
  | ok a => exact hnext a
  | error exit =>
    rw [hrun] at h
    intro hexit
    cases hexit
    exact h rfl

theorem noAccept_ite {c : Prop} [Decidable c] {scan other : Scan α} (h : NoAccept bytes scan)
    (hother : NoAccept bytes other) : NoAccept bytes (if c then scan else other) := by
  split
  · exact h
  · exact hother

theorem noAccept_reject : NoAccept bytes (reject : Scan α) := nofun

theorem noAccept_require {c : Prop} [Decidable c] : NoAccept bytes (require c) :=
  noAccept_ite (noAccept_pure ()) noAccept_reject

theorem noAccept_get {i : Nat} : NoAccept bytes (get i) := by
  simp only [NoAccept, get]
  split <;> nofun

theorem noAccept_indexOf {part : List UInt8} {i : Nat} : NoAccept bytes (indexOf part i) := by
  simp only [NoAccept, indexOf]
  split <;> nofun

theorem noAccept_slice {start : Nat} : NoAccept bytes (slice start stop) := by
  simp only [NoAccept, slice]
  split <;> nofun

theorem noAccept_within : NoAccept bytes (within stop) := by
  simp only [NoAccept, within]
  split <;> nofun

theorem noAccept_getAfter {p : UInt8 → Bool} : NoAccept bytes (getAfter p offset) := by
  simp only [NoAccept, getAfter]
  split <;> nofun

theorem noAccept_startsWithAny {starts : List (List UInt8)} :
    NoAccept bytes (startsWithAny starts) := by
  simp only [NoAccept, startsWithAny]
  split <;> nofun

theorem noAccept_finish : NoAccept bytes (finish false offset : Scan α) := by
  simp [NoAccept, finish]

def Passes (bytes : List UInt8) (scan : Scan α) : Prop :=
  (∃ a, scan.run bytes = .ok a) ∨ scan.run bytes = .error (.returned true)

theorem Passes.of_bind {scan : Scan α} {next : α → Scan β} (hno : NoAccept bytes scan)
    (h : Passes bytes (scan >>= next)) :
    ∃ a, scan.run bytes = .ok a ∧ Passes bytes (next a) := by
  unfold Passes at h
  simp only [bind] at h
  cases hrun : scan.run bytes with
  | ok a =>
    rw [hrun] at h
    exact ⟨a, rfl, h⟩
  | error exit =>
    rw [hrun] at h
    obtain ⟨b, hb⟩ | haccept := h
    · cases hb
    · cases haccept
      exact absurd hrun hno

theorem Passes.ok {scan : Scan α} (hno : NoAccept bytes scan) (h : Passes bytes scan) :
    ∃ a, scan.run bytes = .ok a :=
  h.resolve_right hno

end Run

end Scan

/-! Loops. -/

structure ScanLoop (σ ρ : Type) where
  step : σ → Scan (σ ⊕ ρ)
  offset : σ → Nat
  advances : ∀ bytes state, Scan.Safe bytes (step state) fun next =>
    ∀ later, next = .inl later → offset state < offset later ∧ offset later ≤ bytes.length

namespace ScanLoop

open Scan

variable {σ ρ : Type} (loop : ScanLoop σ ρ)

theorem advances_of_run {bytes : List UInt8} {state later : σ}
    (h : (loop.step state).run bytes = .ok (.inl later)) :
    loop.offset state < loop.offset later ∧ loop.offset later ≤ bytes.length := by
  have hsafe := loop.advances bytes state
  unfold Safe at hsafe
  rw [h] at hsafe
  exact hsafe later rfl

def runOn (bytes : List UInt8) (state : σ) : Except Exit ρ :=
  match _h : (loop.step state).run bytes with
  | .ok (.inl later) => runOn bytes later
  | .ok (.inr result) => .ok result
  | .error exit => .error exit
termination_by bytes.length - loop.offset state
decreasing_by
  have hadvances := loop.advances_of_run _h
  omega

theorem runOn_eq (bytes : List UInt8) (state : σ) : loop.runOn bytes state =
    match (loop.step state).run bytes with
    | .ok (.inl later) => loop.runOn bytes later
    | .ok (.inr result) => .ok result
    | .error exit => .error exit := by
  rw [runOn]
  split <;> simp [*]

theorem outlasts_runOn (bytes more : List UInt8) (hmore : more ≠ []) (state : σ) :
    Outlasts (loop.runOn bytes state) (loop.runOn (bytes ++ more) state) := by
  induction state using ScanLoop.runOn.induct loop bytes with
  | case1 state later hstep ih =>
    have houtlasts := (loop.step state).outlasts bytes more hmore
    rw [hstep] at houtlasts
    rw [runOn_eq, hstep]
    cases houtlasts with
    | inl hlonger =>
      rw [loop.runOn_eq (bytes ++ more), hlonger]
      exact ih
    | inr hlonger =>
      rw [loop.runOn_eq (bytes ++ more), hlonger]
      exact outlasts_rejected _
  | case2 state result hstep =>
    have houtlasts := (loop.step state).outlasts bytes more hmore
    rw [hstep] at houtlasts
    rw [runOn_eq, hstep]
    cases houtlasts with
    | inl hlonger =>
      rw [loop.runOn_eq (bytes ++ more), hlonger]
      exact .inl rfl
    | inr hlonger =>
      rw [loop.runOn_eq (bytes ++ more), hlonger]
      exact .inr rfl
  | case3 state exit hstep =>
    have houtlasts := (loop.step state).outlasts bytes more hmore
    rw [hstep] at houtlasts
    rw [runOn_eq, hstep]
    rcases exit with _ | _ | _
    · trivial
    · trivial
    · have hlonger : (loop.step state).run (bytes ++ more) = .error (.returned false) := houtlasts
      rw [loop.runOn_eq (bytes ++ more), hlonger]
      rfl

theorem passes_step {bytes : List UInt8} {state : σ}
    (h : loop.runOn bytes state = .error (.returned true)) : Passes bytes (loop.step state) := by
  rw [runOn_eq] at h
  split at h
  · rename_i later hrun
    exact .inl ⟨_, hrun⟩
  · rename_i result hrun
    exact .inl ⟨_, hrun⟩
  · rename_i exit hrun
    cases h
    exact .inr hrun

def scan (state : σ) : Scan ρ := ⟨fun bytes => loop.runOn bytes state, fun bytes more hmore =>
  loop.outlasts_runOn bytes more hmore state⟩

theorem safe_scan {bytes : List UInt8} {I : σ → Prop} {Q : ρ → Prop}
    (hstep : ∀ state, I state → Safe bytes (loop.step state) (Sum.elim I Q)) {state : σ}
    (h : I state) : Safe bytes (loop.scan state) Q := by
  unfold Safe
  simp only [scan]
  induction state using ScanLoop.runOn.induct loop bytes with
  | case1 state later hrun ih =>
    have hsafe := hstep state h
    unfold Safe at hsafe
    rw [hrun] at hsafe
    rw [runOn_eq, hrun]
    exact ih hsafe
  | case2 state result hrun =>
    have hsafe := hstep state h
    unfold Safe at hsafe
    rw [hrun] at hsafe
    rw [runOn_eq, hrun]
    exact hsafe
  | case3 state exit hrun =>
    have hsafe := hstep state h
    unfold Safe at hsafe
    rw [hrun] at hsafe
    rw [runOn_eq, hrun]
    cases exit with
    | outOfRange => exact hsafe
    | returned result => trivial

theorem safe_scan_empty (loop : ScanLoop σ Empty) (bytes : List UInt8) (state : σ) :
    Safe bytes (loop.scan state) fun _ => True := by
  refine loop.safe_scan (I := fun _ => True) (fun state _ => ?_) trivial
  refine (loop.advances bytes state).imp fun next _ => ?_
  cases next with
  | inl later => trivial
  | inr result => cases result

end ScanLoop

/-! Answers. -/

namespace Scan

def answer (scan : Scan Empty) (bytes : List UInt8) : Option Bool :=
  match scan.run bytes with
  | .ok a => nomatch a
  | .error .outOfRange => none
  | .error (.returned result) => some result

theorem passes_of_answer {scan : Scan Empty} {bytes : List UInt8}
    (h : scan.answer bytes = some true) : Passes bytes scan := by
  unfold answer at h
  rcases hrun : scan.run bytes with (_ | result) | a
  · rw [hrun] at h
    cases h
  · rw [hrun] at h
    cases h
    exact .inr hrun
  · exact nomatch a

theorem Passes.accepts {scan : Scan Empty} {bytes : List UInt8} (h : Passes bytes scan) :
    scan.run bytes = .error (.returned true) :=
  h.resolve_left fun h => nomatch h.choose

/-- There is always an answer, and what is accepted has no other bytes behind it. -/
structure IsExact (answer : List UInt8 → Option Bool) : Prop where
  answers : ∀ bytes, ∃ result, answer bytes = some result
  extended : ∀ bytes more, answer bytes = some true → more ≠ [] →
    answer (bytes ++ more) = some false
  truncated : ∀ bytes more, answer (bytes ++ more) = some true → more ≠ [] →
    answer bytes = some false

theorem answer_append {scan : Scan Empty} {bytes more : List UInt8}
    (h : scan.answer bytes = some true) (hmore : more ≠ []) :
    scan.answer (bytes ++ more) = some false := by
  have houtlasts := scan.outlasts bytes more hmore
  unfold answer at h ⊢
  rcases hrun : scan.run bytes with (_ | result) | a
  · rw [hrun] at h
    cases h
  · rw [hrun] at h houtlasts
    cases h
    have hlonger : scan.run (bytes ++ more) = .error (.returned false) := houtlasts
    rw [hlonger]
  · exact nomatch a

theorem isExact_answer {scan : Scan Empty} (h : ∀ bytes, Safe bytes scan fun _ => True) :
    IsExact scan.answer := by
  have hanswers : ∀ bytes, ∃ result, scan.answer bytes = some result := by
    intro bytes
    have hsafe := h bytes
    unfold Safe at hsafe
    unfold answer
    rcases hrun : scan.run bytes with (_ | result) | a
    · rw [hrun] at hsafe
      exact hsafe.elim
    · exact ⟨result, rfl⟩
    · exact nomatch a
  refine ⟨hanswers, fun bytes more => answer_append, fun bytes more haccept hmore => ?_⟩
  obtain ⟨result, hresult⟩ := hanswers bytes
  cases result with
  | false => exact hresult
  | true =>
    rw [answer_append hresult hmore] at haccept
    cases haccept

end Scan

end Jellyrin
