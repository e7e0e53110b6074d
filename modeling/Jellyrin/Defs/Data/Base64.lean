import Mathlib.Data.List.Basic

/-! Base64 in the alphabet of URLs, without padding. -/

namespace Jellyrin.Base64

def alphabet : List Char :=
  "ABCDEFGHIJKLMNOPQRSTUVWXYZabcdefghijklmnopqrstuvwxyz0123456789-_".toList

def symbol (n : Nat) : Char := alphabet.getD n 'A'

def symbolValue (c : Char) : Option Nat := alphabet.findIdx? (· == c)

def encode : List UInt8 → List Char
  | [] => []
  | [a] => [symbol (a.toNat / 4), symbol (a.toNat % 4 * 16)]
  | [a, b] =>
    [symbol (a.toNat / 4), symbol (a.toNat % 4 * 16 + b.toNat / 16), symbol (b.toNat % 16 * 4)]
  | a :: b :: c :: rest =>
    symbol (a.toNat / 4) :: symbol (a.toNat % 4 * 16 + b.toNat / 16) ::
      symbol (b.toNat % 16 * 4 + c.toNat / 64) :: symbol (c.toNat % 64) :: encode rest

def decode : List Char → Option (List UInt8)
  | [] => some []
  | [_] => none
  | [p, q] => do
    let p ← symbolValue p
    let q ← symbolValue q
    if q % 16 = 0 then some [.ofNat (p * 4 + q / 16)] else none
  | [p, q, r] => do
    let p ← symbolValue p
    let q ← symbolValue q
    let r ← symbolValue r
    if r % 4 = 0 then some [.ofNat (p * 4 + q / 16), .ofNat (q % 16 * 16 + r / 4)] else none
  | p :: q :: r :: s :: rest => do
    let p ← symbolValue p
    let q ← symbolValue q
    let r ← symbolValue r
    let s ← symbolValue s
    let bytes ← decode rest
    some (.ofNat (p * 4 + q / 16) :: .ofNat (q % 16 * 16 + r / 4) :: .ofNat (r % 4 * 64 + s) ::
      bytes)

theorem symbolValue_symbol {n : Nat} (h : n < 64) : symbolValue (symbol n) = some n := by
  have hall : ∀ n < 64, symbolValue (symbol n) = some n := by decide
  exact hall n h

theorem symbol_mem {n : Nat} : symbol n ∈ alphabet := by
  rw [symbol, List.getD_eq_getElem?_getD]
  cases h : alphabet[n]? with
  | none =>
    rw [Option.getD_none]
    decide
  | some c => exact List.mem_of_getElem? h

theorem ofNat_eq {a : UInt8} {n : Nat} (h : n = a.toNat) : UInt8.ofNat n = a := by
  rw [h, UInt8.ofNat_toNat]

@[simp] theorem decode_encode (bytes : List UInt8) : decode (encode bytes) = some bytes := by
  induction bytes using encode.induct with
  | case1 => rfl
  | case2 a =>
    have ha := a.toNat_lt
    rw [encode, decode, symbolValue_symbol (by omega), symbolValue_symbol (by omega)]
    simp only [Option.bind_eq_bind, Option.bind_some]
    rw [if_pos (by omega), ofNat_eq (a := a) (by omega)]
  | case3 a b =>
    have ha := a.toNat_lt
    have hb := b.toNat_lt
    rw [encode, decode, symbolValue_symbol (by omega), symbolValue_symbol (by omega),
      symbolValue_symbol (by omega)]
    simp only [Option.bind_eq_bind, Option.bind_some]
    rw [if_pos (by omega), ofNat_eq (a := a) (by omega), ofNat_eq (a := b) (by omega)]
  | case4 a b c rest ih =>
    have ha := a.toNat_lt
    have hb := b.toNat_lt
    have hc := c.toNat_lt
    rw [encode, decode, symbolValue_symbol (by omega), symbolValue_symbol (by omega),
      symbolValue_symbol (by omega), symbolValue_symbol (by omega), ih]
    simp only [Option.bind_eq_bind, Option.bind_some]
    rw [ofNat_eq (a := a) (by omega), ofNat_eq (a := b) (by omega), ofNat_eq (a := c) (by omega)]

theorem length_encode (bytes : List UInt8) :
    (encode bytes).length = (4 * bytes.length + 2) / 3 := by
  induction bytes using encode.induct with
  | case1 => rfl
  | case2 a => simp [encode]
  | case3 a b => simp [encode]
  | case4 a b c rest ih =>
    simp only [encode, List.length_cons, ih]
    omega

theorem mem_encode {bytes : List UInt8} {c : Char} (h : c ∈ encode bytes) : c ∈ alphabet := by
  induction bytes using encode.induct with
  | case1 => cases h
  | case2 a =>
    simp only [encode, List.mem_cons, List.not_mem_nil, or_false] at h
    obtain rfl | rfl := h <;> exact symbol_mem
  | case3 a b =>
    simp only [encode, List.mem_cons, List.not_mem_nil, or_false] at h
    obtain rfl | rfl | rfl := h <;> exact symbol_mem
  | case4 a b d rest ih =>
    simp only [encode, List.mem_cons] at h
    obtain rfl | rfl | rfl | rfl | hrest := h
    · exact symbol_mem
    · exact symbol_mem
    · exact symbol_mem
    · exact symbol_mem
    · exact ih hrest

end Jellyrin.Base64
