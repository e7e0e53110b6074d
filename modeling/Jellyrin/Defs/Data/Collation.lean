import Jellyrin.Defs.Data.Ascii
import Mathlib.Data.List.DropRight
import Mathlib.Data.List.Infix
import Mathlib.Data.String.Basic

/-! The texts of a database. -/

namespace Jellyrin

structure Collation where
  lower : String → String
  compare : String → String → Ordering
  transCmp : Std.TransCmp compare
  /-- Texts that differ are told apart. -/
  eq_of_compare : ∀ {a b}, compare a b = .eq → a = b

instance (collation : Collation) : Std.TransCmp collation.compare := collation.transCmp

def btrim (text : String) : String :=
  String.ofList ((text.toList.dropWhile (· == ' ')).rdropWhile (· == ' '))

/-- `LIKE … ESCAPE '\'`: `%` stands for any text and `_` for any character. -/
def like : List Char → List Char → Bool
  | [], text => text.isEmpty
  | '%' :: pattern, text => text.tails.any (like pattern)
  | '\\' :: escaped :: pattern, text => text.head? == some escaped && like pattern text.tail
  | '_' :: pattern, text => !text.isEmpty && like pattern text.tail
  | c :: pattern, text => text.head? == some c && like pattern text.tail

@[simp] theorem like_percent (text : List Char) : like ['%'] text = true := by
  rw [like, List.any_eq_true]
  exact ⟨[], (List.mem_tails _ _).mpr List.nil_suffix, rfl⟩

theorem head_matches {c : Char} {pattern text : List Char} :
    (text.head? == some c && like pattern text.tail) = true ↔
      ∃ rest, text = c :: rest ∧ like pattern rest = true := by
  cases text with
  | nil => simp
  | cons d text =>
    rw [List.head?_cons, List.tail_cons, Bool.and_eq_true, beq_iff_eq, Option.some.injEq]
    constructor
    · rintro ⟨rfl, hlike⟩
      exact ⟨text, rfl, hlike⟩
    · rintro ⟨rest, heq, hlike⟩
      cases heq
      exact ⟨rfl, hlike⟩

theorem like_escaped {c : Char} {pattern text : List Char} :
    like ('\\' :: c :: pattern) text = true ↔
      ∃ rest, text = c :: rest ∧ like pattern rest = true := by
  rw [like]
  exact head_matches

theorem like_literal {c : Char} {pattern text : List Char} (hpercent : c ≠ '%')
    (hescape : c ≠ '\\') (hany : c ≠ '_') :
    like (c :: pattern) text = true ↔ ∃ rest, text = c :: rest ∧ like pattern rest = true := by
  rw [like.eq_5 _ _ _ hpercent (fun _ _ h => absurd h hescape) hany]
  exact head_matches

def escapeLike (text : List Char) : List Char :=
  text.flatMap fun c => if c = '\\' ∨ c = '%' ∨ c = '_' then ['\\', c] else [c]

theorem like_escapeLike_append {literal pattern text : List Char} :
    like (escapeLike literal ++ pattern) text = true ↔
      ∃ rest, text = literal ++ rest ∧ like pattern rest = true := by
  induction literal generalizing text with
  | nil => simp [escapeLike]
  | cons c literal ih =>
    have hchar : like (escapeLike (c :: literal) ++ pattern) text = true ↔
        ∃ rest, text = c :: rest ∧ like (escapeLike literal ++ pattern) rest = true := by
      rw [escapeLike, List.flatMap_cons, List.append_assoc]
      by_cases hspecial : c = '\\' ∨ c = '%' ∨ c = '_'
      · rw [if_pos hspecial]
        exact like_escaped
      · rw [if_neg hspecial]
        simp only [not_or] at hspecial
        exact like_literal hspecial.2.1 hspecial.1 hspecial.2.2
    rw [hchar]
    constructor
    · rintro ⟨_, rfl, hlike⟩
      obtain ⟨rest, rfl, hrest⟩ := ih.mp hlike
      exact ⟨rest, rfl, hrest⟩
    · rintro ⟨rest, rfl, hrest⟩
      exact ⟨literal ++ rest, rfl, ih.mpr ⟨rest, rfl, hrest⟩⟩

def byteCollation : Collation where
  lower := Ascii.toAsciiLowercase
  compare := Ord.compare
  transCmp := inferInstance
  eq_of_compare h := Std.compare_eq_iff_eq.mp h

end Jellyrin
