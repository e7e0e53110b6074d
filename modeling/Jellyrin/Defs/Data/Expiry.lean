import Jellyrin.Defs.Data.HashMap

/-! Maps whose entries expire.  Two maps agree at a time when they hold the same live
entries; dropping expired entries, early or late, changes nothing about that. -/

universe u v w

namespace Jellyrin.Expiry

variable {K : Type u} {V : Type v} {T : Type w} [DecidableEq K] {expired : V → T → Bool}

def Live (expired : V → T → Bool) (now : T) (m : HashMap K V) (k : K) (v : V) : Prop :=
  m.lookup k = some v ∧ expired v now = false

def Agree (expired : V → T → Bool) (now : T) (m n : HashMap K V) : Prop :=
  ∀ k v, Live expired now m k v ↔ Live expired now n k v

def prune (expired : V → T → Bool) (now : T) (m : HashMap K V) : HashMap K V :=
  m.retain fun _ v => !expired v now

theorem Agree.refl (now : T) (m : HashMap K V) : Agree expired now m m := fun _ _ => Iff.rfl

variable {m n : HashMap K V}

theorem Agree.symm {now : T} (h : Agree expired now m n) :
    Agree expired now n m := fun k v => (h k v).symm

theorem Agree.trans {now : T} {l : HashMap K V} (h : Agree expired now m n)
    (g : Agree expired now n l) : Agree expired now m l := fun k v => (h k v).trans (g k v)

theorem Agree.mono [LE T] (hmono : ∀ v t t', t ≤ t' → expired v t = true → expired v t' = true)
    {t t' : T} (ht : t ≤ t') (h : Agree expired t m n) : Agree expired t' m n := by
  have hfresh : ∀ v, expired v t' = false → expired v t = false := by
    intro v hv
    cases hexp : expired v t with
    | false => rfl
    | true =>
      rw [hmono v t t' ht hexp] at hv
      cases hv
  intro k v
  constructor
  · intro hlive
    exact ⟨((h k v).mp ⟨hlive.1, hfresh v hlive.2⟩).1, hlive.2⟩
  · intro hlive
    exact ⟨((h k v).mpr ⟨hlive.1, hfresh v hlive.2⟩).1, hlive.2⟩

theorem lookup_prune {now : T} {k : K} {v : V} :
    (prune expired now m).lookup k = some v ↔ Live expired now m k v := by
  rw [prune, HashMap.lookup_retain, Bool.not_eq_true']
  exact Iff.rfl

theorem agree_prune (now : T) (m : HashMap K V) : Agree expired now (prune expired now m) m := by
  intro k v
  constructor
  · exact fun h => lookup_prune.mp h.1
  · exact fun h => ⟨lookup_prune.mpr h, h.2⟩

theorem agree_erase_expired {now : T} {k : K} {v : V} (hk : m.lookup k = some v)
    (hv : expired v now = true) : Agree expired now (m.erase k) m := by
  intro a b
  constructor
  · exact fun h => ⟨(HashMap.lookup_erase_eq_some.mp h.1).2, h.2⟩
  · intro h
    refine ⟨HashMap.lookup_erase_eq_some.mpr ⟨?_, h.1⟩, h.2⟩
    rintro rfl
    have hb : v = b := Option.some.inj (hk.symm.trans h.1)
    rw [← hb] at h
    exact absurd (hv.symm.trans h.2) (by simp)

theorem Agree.erase {now : T} (h : Agree expired now m n) (k : K) :
    Agree expired now (m.erase k) (n.erase k) := by
  have hlive : ∀ (m : HashMap K V) (a : K) (b : V),
      Live expired now (m.erase k) a b ↔ a ≠ k ∧ Live expired now m a b := by
    intro m a b
    rw [Live, HashMap.lookup_erase_eq_some, and_assoc, Live]
  intro a b
  rw [hlive, hlive, h a b]

theorem Agree.insert {now : T} (h : Agree expired now m n) (k : K) (v : V) :
    Agree expired now (m.insert k v) (n.insert k v) := by
  have hlive : ∀ (m : HashMap K V) (a : K) (b : V), Live expired now (m.insert k v) a b ↔
      a = k ∧ v = b ∧ expired b now = false ∨ a ≠ k ∧ Live expired now m a b := by
    intro m a b
    rw [Live, HashMap.lookup_insert_eq_some, or_and_right, and_assoc, and_assoc, Live]
  intro a b
  rw [hlive, hlive, h a b]

omit [DecidableEq K] in
theorem size_prune_le (now : T) (m : HashMap K V) : (prune expired now m).size ≤ m.size :=
  HashMap.size_retain_le _ _

theorem Agree.size_prune {now : T} (h : Agree expired now m n) :
    (prune expired now m).size = (prune expired now n).size := by
  apply HashMap.size_eq_of_lookup
  intro k v
  rw [lookup_prune, lookup_prune, h k v]

theorem Agree.lookup_prune {now : T} (h : Agree expired now m n) (k : K) :
    (prune expired now m).lookup k = (prune expired now n).lookup k := by
  apply Option.ext
  intro v
  rw [Expiry.lookup_prune, Expiry.lookup_prune, h k v]

theorem Agree.mem_prune {now : T} (h : Agree expired now m n) {k : K} :
    k ∈ prune expired now m ↔ k ∈ prune expired now n := by
  rw [← AList.lookup_isSome, ← AList.lookup_isSome, h.lookup_prune k]

end Jellyrin.Expiry
