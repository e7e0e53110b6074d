import Mathlib.Data.List.Basic

/-! Opening computations that may fail. -/

namespace Jellyrin

universe u v w

theorem ok_bind {ε : Type u} {α β : Type v} (a : α) (f : α → Except ε β) :
    (.ok a : Except ε α) >>= f = f a := rfl

theorem error_ne_ok {ε : Type u} {α : Type v} {e : ε} {a : α} : (.error e : Except ε α) ≠ .ok a :=
  nofun

theorem mem_toOption {ε : Type u} {α : Type v} {x : Except ε α} {a : α} :
    a ∈ x.toOption ↔ x = .ok a := by
  cases x <;> simp [Except.toOption]

theorem exists_of_bind_eq_ok {ε : Type u} {α β : Type v} {x : Except ε α} {f : α → Except ε β}
    {b : β} (h : x >>= f = .ok b) : ∃ a, x = .ok a ∧ f a = .ok b := by
  cases x with
  | error e => nomatch h
  | ok a => exact ⟨a, rfl, h⟩

/-! Computations of known values that fail where a condition does not hold. -/

section OnlyIf

variable {ε : Type u} {α β : Type v} {e : ε} {safe : Bool} {a : α}

def onlyIf (e : ε) (safe : Bool) (a : α) : Except ε α := if safe then .ok a else .error e

@[simp] theorem onlyIf_true : onlyIf e true a = .ok a := rfl

@[simp] theorem onlyIf_false : onlyIf e false a = .error e := rfl

theorem onlyIf_eq_ok {b : α} : onlyIf e safe a = .ok b ↔ safe = true ∧ a = b := by
  cases safe <;> simp

theorem exists_onlyIf_eq_ok : (∃ b, onlyIf e safe a = .ok b) ↔ safe = true := by
  cases safe <;> simp

theorem onlyIf_bind (f : α → Except ε β) :
    onlyIf e safe a >>= f = if safe then f a else .error e := by
  cases safe <;> rfl

theorem onlyIf_bind_onlyIf {f : α → Except ε β} {safe' : Bool} {b : β}
    (h : f a = onlyIf e safe' b) : onlyIf e safe a >>= f = onlyIf e (safe && safe') b := by
  rw [onlyIf_bind, h]
  cases safe <;> rfl

theorem map_onlyIf {γ : Type w} (f : α → γ) :
    (onlyIf e safe a).map f = onlyIf e safe (f a) := by
  cases safe <;> rfl

end OnlyIf

/-! Lists that are read up to the first element that is looked for. -/

/-- Nothing unsafe comes before the first element that is found, which is safe itself. -/
def reaches {α : Type v} (safe found : α → Bool) : List α → Bool
  | [] => true
  | a :: l => safe a && (found a || reaches safe found l)

theorem reaches_of_all {α : Type v} {safe found : α → Bool} {l : List α}
    (h : l.all safe = true) : reaches safe found l = true := by
  induction l with
  | nil => rfl
  | cons a l ih =>
    rw [List.all_cons, Bool.and_eq_true] at h
    rw [reaches, h.1, ih h.2, Bool.or_true, Bool.and_true]

section Lists

variable {ε : Type u} {e : ε} {α : Type} {test : α → Except ε Bool} {safe found : α → Bool}

theorem anyM_eq (h : ∀ a, test a = onlyIf e (safe a) (found a)) (l : List α) :
    l.anyM test = onlyIf e (reaches safe found l) (l.any found) := by
  induction l with
  | nil => rfl
  | cons a l ih =>
    rw [List.anyM, h, reaches, List.any_cons]
    refine onlyIf_bind_onlyIf ?_
    cases found a with
    | true => rfl
    | false => exact ih

theorem findSomeM?_eq {β : Type} {f : α → Except ε (Option β)} {g : α → Option β}
    (h : ∀ a, f a = onlyIf e (safe a) (g a)) (l : List α) :
    l.findSomeM? f = onlyIf e (reaches safe (fun a => (g a).isSome) l) (l.findSome? g) := by
  induction l with
  | nil => rfl
  | cons a l ih =>
    rw [List.findSomeM?, h, reaches, List.findSome?_cons]
    refine onlyIf_bind_onlyIf ?_
    cases g a with
    | some b => rfl
    | none => exact ih

theorem filterAuxM_eq (test : α → Except ε Bool) (l kept : List α) :
    l.filterAuxM test kept = (l.filterAuxM test []).map (· ++ kept) := by
  induction l generalizing kept with
  | nil => rfl
  | cons a l ih =>
    rw [List.filterAuxM, List.filterAuxM]
    cases test a with
    | error e => rfl
    | ok b =>
      rw [ok_bind, ok_bind, ih, ih (cond b [a] [])]
      cases l.filterAuxM test [] with
      | error e => rfl
      | ok rest => cases b <;> simp [Except.map]

theorem filterM_cons (test : α → Except ε Bool) (a : α) (l : List α) :
    (a :: l).filterM test = test a >>= fun found =>
      (l.filterM test).map fun kept => if found then a :: kept else kept := by
  rw [List.filterM, List.filterAuxM, List.filterM]
  cases test a with
  | error e => rfl
  | ok found =>
    rw [ok_bind, ok_bind, filterAuxM_eq]
    cases l.filterAuxM test [] with
    | error e => rfl
    | ok rest =>
      cases found with
      | true => exact congrArg Except.ok (List.reverse_append ..)
      | false => exact congrArg (fun l => Except.ok (List.reverse l)) (List.append_nil rest)

theorem filterM_eq (h : ∀ a, test a = onlyIf e (safe a) (found a)) (l : List α) :
    l.filterM test = onlyIf e (l.all safe) (l.filter found) := by
  induction l with
  | nil => rfl
  | cons a l ih =>
    rw [filterM_cons, h, List.all_cons, List.filter_cons, ih]
    exact onlyIf_bind_onlyIf (map_onlyIf _)

theorem mem_of_filterM {l kept : List α} (h : l.filterM test = .ok kept) {a : α} :
    a ∈ kept ↔ a ∈ l ∧ test a = .ok true := by
  induction l generalizing kept with
  | nil =>
    cases h
    simp
  | cons first l ih =>
    rw [filterM_cons] at h
    obtain ⟨found, hfound, h⟩ := exists_of_bind_eq_ok h
    cases hrest : l.filterM test with
    | error e =>
      rw [hrest] at h
      cases h
    | ok rest =>
      rw [hrest] at h
      cases h
      rw [List.mem_cons]
      cases found with
      | true =>
        change a ∈ first :: rest ↔ _
        rw [List.mem_cons, ih hrest]
        constructor
        · rintro (rfl | ⟨ha, htest⟩)
          · exact ⟨.inl rfl, hfound⟩
          · exact ⟨.inr ha, htest⟩
        · rintro ⟨rfl | ha, htest⟩
          · exact .inl rfl
          · exact .inr ⟨ha, htest⟩
      | false =>
        change a ∈ rest ↔ _
        rw [ih hrest]
        refine and_congr_left fun htest => ⟨.inr, ?_⟩
        rintro (rfl | ha)
        · rw [hfound] at htest
          cases htest
        · exact ha

theorem exists_filterM_eq_ok {l : List α} :
    (∃ kept, l.filterM test = .ok kept) ↔ ∀ a ∈ l, ∃ found, test a = .ok found := by
  induction l with
  | nil => exact iff_of_true ⟨[], rfl⟩ fun a ha => absurd ha List.not_mem_nil
  | cons a l ih =>
    rw [List.forall_mem_cons, ← ih, filterM_cons]
    cases test a with
    | error e => exact iff_of_false (by rintro ⟨kept, ⟨⟩⟩) (by rintro ⟨⟨found, ⟨⟩⟩, -⟩)
    | ok found =>
      rw [ok_bind]
      cases l.filterM test with
      | error e => exact iff_of_false (by rintro ⟨kept, ⟨⟩⟩) (by rintro ⟨-, kept, ⟨⟩⟩)
      | ok rest => exact iff_of_true ⟨_, rfl⟩ ⟨⟨found, rfl⟩, rest, rfl⟩

theorem of_anyM_eq_ok {l : List α} {any : Bool} (h : l.anyM test = .ok any) :
    any = true ↔ ∃ a ∈ l, test a = .ok true := by
  induction l with
  | nil =>
    cases h
    simp
  | cons a l ih =>
    rw [List.anyM] at h
    obtain ⟨found, hfound, h⟩ := exists_of_bind_eq_ok h
    rw [List.exists_mem_cons_iff]
    cases found with
    | true =>
      cases h
      exact iff_of_true rfl (.inl hfound)
    | false =>
      rw [ih h, hfound]
      simp

theorem anyM_flatMap {β : Type} (f : α → List β) (test : β → Except ε Bool) (l : List α) :
    (l.flatMap f).anyM test = l.anyM fun a => (f a).anyM test := by
  have happend : ∀ bs bs' : List β, (bs ++ bs').anyM test =
      bs.anyM test >>= fun found => if found then .ok true else bs'.anyM test := by
    intro bs bs'
    induction bs with
    | nil => rfl
    | cons b bs ih =>
      rw [List.cons_append, List.anyM, List.anyM]
      cases test b with
      | error e => rfl
      | ok found => cases found <;> [exact ih; rfl]
  induction l with
  | nil => rfl
  | cons a l ih =>
    rw [List.flatMap_cons, happend, List.anyM, ih]
    refine congrArg _ (funext fun found => ?_)
    cases found <;> rfl

theorem anyM_map {β : Type} (f : α → β) (test : β → Except ε Bool) (l : List α) :
    (l.map f).anyM test = l.anyM (test ∘ f) := by
  induction l with
  | nil => rfl
  | cons a l ih =>
    rw [List.map_cons, List.anyM, List.anyM, ih]
    rfl

end Lists

end Jellyrin
