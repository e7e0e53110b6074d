import Jellyrin.Defs.Data.Json
import Mathlib.Tactic.NormNum

/-! Identifiers of 128 bits, and identifiers that are derived from texts. -/

namespace Jellyrin

abbrev Uuid := BitVec 128

namespace Uuid

def lowDigits (base : Nat) : Nat → Nat → List Nat
  | 0, _ => []
  | count + 1, n => lowDigits base count (n / base) ++ [n % base]

def simple (id : Uuid) : String := String.ofList ((lowDigits 16 32 id.toNat).map Nat.digitChar)

theorem lt_of_mem_lowDigits {base : Nat} (hbase : 0 < base) {count n digit : Nat}
    (h : digit ∈ lowDigits base count n) : digit < base := by
  induction count generalizing n with
  | zero => cases h
  | succ count ih =>
    rw [lowDigits, List.mem_append, List.mem_singleton] at h
    cases h with
    | inl hinit => exact ih hinit
    | inr hlast =>
      rw [hlast]
      exact Nat.mod_lt n hbase

theorem lowDigits_injective {base count m n : Nat}
    (hm : m < base ^ count) (hn : n < base ^ count)
    (h : lowDigits base count m = lowDigits base count n) : m = n := by
  induction count generalizing m n with
  | zero =>
    rw [Nat.pow_zero] at hm hn
    omega
  | succ count ih =>
    rw [lowDigits, lowDigits] at h
    obtain ⟨hinit, hlast⟩ := List.append_inj' h rfl
    rw [Nat.pow_succ] at hm hn
    have hquot := ih (Nat.div_lt_of_lt_mul (Nat.mul_comm _ _ ▸ hm))
      (Nat.div_lt_of_lt_mul (Nat.mul_comm _ _ ▸ hn)) hinit
    rw [← Nat.div_add_mod m base, ← Nat.div_add_mod n base, hquot, List.singleton_inj.mp hlast]

theorem map_idxOf_digitChar {digits : List Nat} (h : ∀ digit ∈ digits, digit < 16) :
    (digits.map Nat.digitChar).map
      (fun c => ['0', '1', '2', '3', '4', '5', '6', '7', '8', '9', 'a', 'b', 'c', 'd', 'e',
        'f'].idxOf c) = digits := by
  have hall : ∀ digit < 16, ['0', '1', '2', '3', '4', '5', '6', '7', '8', '9', 'a', 'b', 'c', 'd',
      'e', 'f'].idxOf digit.digitChar = digit := by decide
  rw [List.map_map]
  exact (List.map_congr_left fun digit hdigit => hall digit (h digit hdigit)).trans
    (List.map_id digits)

theorem simple_injective {a b : Uuid} (h : a.simple = b.simple) : a = b := by
  have hsize : (2 : Nat) ^ 128 = 16 ^ 32 := by norm_num
  have hlt : ∀ id : Uuid, id.toNat < 16 ^ 32 := by
    intro id
    rw [← hsize]
    exact id.isLt
  have hdigits : lowDigits 16 32 a.toNat = lowDigits 16 32 b.toNat := by
    rw [← map_idxOf_digitChar fun digit => lt_of_mem_lowDigits (n := a.toNat) (by decide),
      String.ofList_inj.mp h,
      map_idxOf_digitChar fun digit => lt_of_mem_lowDigits (by decide)]
  exact BitVec.eq_of_toNat_eq (lowDigits_injective (hlt a) (hlt b) hdigits)

theorem mem_simple {id : Uuid} {c : Char} (hc : c ∈ id.simple.toList) :
    c.isDigit = true ∨ c ∈ ['a', 'b', 'c', 'd', 'e', 'f'] := by
  have hall : ∀ digit < 16, digit.digitChar.isDigit = true ∨
      digit.digitChar ∈ ['a', 'b', 'c', 'd', 'e', 'f'] := by decide
  rw [simple, String.toList_ofList] at hc
  obtain ⟨digit, hdigit, rfl⟩ := List.mem_map.mp hc
  exact hall digit (lt_of_mem_lowDigits (by decide) hdigit)

end Uuid

/-! Identifiers as texts, and their comparison. -/

open Ascii

namespace Uuid

def hexValue (c : Char) : Option Nat :=
  if '0' ≤ c ∧ c ≤ '9' then some (c.toNat - 48)
  else if 'a' ≤ c ∧ c ≤ 'f' then some (c.toNat - 87)
  else if 'A' ≤ c ∧ c ≤ 'F' then some (c.toNat - 55)
  else none

def parseSimple (cs : List Char) : Option Uuid :=
  if cs.length = 32 then
    (cs.mapM hexValue).map fun digits =>
      BitVec.ofNat 128 (digits.foldl (fun value digit => 16 * value + digit) 0)
  else none

def parseHyphenated (cs : List Char) : Option Uuid :=
  let groups := cs.splitOn '-'
  if groups.map List.length = [8, 4, 4, 4, 12] then parseSimple groups.flatten else none

def parseStr (s : String) : Option Uuid :=
  match s.toList with
  | 'u' :: 'r' :: 'n' :: ':' :: 'u' :: 'u' :: 'i' :: 'd' :: ':' :: cs => parseHyphenated cs
  | '{' :: cs => if cs.getLast? = some '}' then parseHyphenated cs.dropLast else none
  | cs => (parseSimple cs).or (parseHyphenated cs)

def hyphenGroups (cs : List Char) : List (List Char) :=
  [cs.take 8, (cs.drop 8).take 4, (cs.drop 12).take 4, (cs.drop 16).take 4, cs.drop 20]

def hyphenated (id : Uuid) : String :=
  String.ofList (['-'].intercalate (hyphenGroups id.simple.toList))

theorem hexValue_digitChar {digit : Nat} (h : digit < 16) :
    hexValue digit.digitChar = some digit := by
  have hall : ∀ digit < 16, hexValue digit.digitChar = some digit := by decide
  exact hall digit h

theorem mapM_hexValue_digitChar {digits : List Nat} (h : ∀ digit ∈ digits, digit < 16) :
    (digits.map Nat.digitChar).mapM hexValue = some digits := by
  induction digits with
  | nil => rfl
  | cons digit digits ih =>
    rw [List.map_cons, List.mapM_cons, hexValue_digitChar (h digit List.mem_cons_self),
      ih fun other hother => h other (List.mem_cons_of_mem _ hother)]
    rfl

theorem foldl_lowDigits (count n : Nat) :
    (lowDigits 16 count n).foldl (fun value digit => 16 * value + digit) 0 = n % 16 ^ count := by
  induction count generalizing n with
  | zero => rw [Nat.pow_zero, Nat.mod_one]; rfl
  | succ count ih =>
    rw [lowDigits, List.foldl_append, ih, List.foldl_cons, List.foldl_nil, Nat.pow_succ',
      Nat.mod_mul]
    omega

theorem length_lowDigits (base count n : Nat) : (lowDigits base count n).length = count := by
  induction count generalizing n with
  | zero => rfl
  | succ count ih => rw [lowDigits, List.length_append, ih, List.length_singleton]

theorem lowDigits_add (base count more n : Nat) :
    lowDigits base (count + more) n =
      lowDigits base count (n / base ^ more) ++ lowDigits base more n := by
  induction more generalizing n with
  | zero => rw [Nat.add_zero, Nat.pow_zero, Nat.div_one, lowDigits, List.append_nil]
  | succ more ih =>
    rw [← Nat.add_assoc, lowDigits, ih, lowDigits, Nat.div_div_eq_div_mul, Nat.pow_succ',
      List.append_assoc]

theorem lowDigits_mul_pow_add {base : Nat} (hbase : 0 < base) (count m n : Nat) :
    lowDigits base count (base ^ count * m + n) = lowDigits base count n := by
  induction count generalizing n with
  | zero => rfl
  | succ count ih =>
    rw [lowDigits, lowDigits, Nat.pow_succ', Nat.mul_assoc, Nat.mul_add_div hbase, ih,
      Nat.mul_add_mod]

theorem parseSimple_simple (id : Uuid) : parseSimple id.simple.toList = some id := by
  have hdigits : ∀ digit ∈ lowDigits 16 32 id.toNat, digit < 16 :=
    fun digit hdigit => lt_of_mem_lowDigits (by decide) hdigit
  have hlt : id.toNat < 16 ^ 32 := id.isLt.trans_eq (by decide)
  rw [parseSimple, simple, String.toList_ofList, List.length_map, length_lowDigits, if_pos rfl,
    mapM_hexValue_digitChar hdigits, Option.map_some, foldl_lowDigits, Nat.mod_eq_of_lt hlt,
    BitVec.ofNat_toNat]
  simp

def IsHex (s : String) : Prop := s.toList.length = 32 ∧ ∀ c ∈ s.toList, (hexValue c).isSome = true

theorem isHex_ofList_digits {digits : List Nat} (hlength : digits.length = 32)
    (h : ∀ digit ∈ digits, digit < 16) : IsHex (String.ofList (digits.map Nat.digitChar)) := by
  refine ⟨by rw [String.toList_ofList, List.length_map, hlength], fun c hc => ?_⟩
  rw [String.toList_ofList] at hc
  obtain ⟨digit, hdigit, rfl⟩ := List.mem_map.mp hc
  rw [hexValue_digitChar (h digit hdigit)]
  rfl

theorem isHex_simple (id : Uuid) : IsHex id.simple :=
  isHex_ofList_digits (length_lowDigits _ _ _) fun _ h => lt_of_mem_lowDigits (by decide) h

theorem mapM_hexValue_isSome {cs : List Char} (h : ∀ c ∈ cs, (hexValue c).isSome = true) :
    (cs.mapM hexValue).isSome = true := by
  induction cs with
  | nil => rfl
  | cons c cs ih =>
    obtain ⟨digit, hdigit⟩ := Option.isSome_iff_exists.mp (h c List.mem_cons_self)
    obtain ⟨digits, hdigits⟩ := Option.isSome_iff_exists.mp
      (ih fun other hother => h other (List.mem_cons_of_mem _ hother))
    rw [List.mapM_cons, hdigit, hdigits]
    rfl

theorem parseStr_of_isHex {s : String} (h : IsHex s) :
    parseStr s = (parseSimple s.toList).or (parseHyphenated s.toList) := by
  rw [parseStr]
  split
  · rename_i heq
    have hu := h.2 'u' (by rw [heq]; exact List.mem_cons_self)
    exact absurd hu (by decide)
  · rename_i heq
    have hbrace := h.2 '\x7b' (by rw [heq]; exact List.mem_cons_self)
    exact absurd hbrace (by decide)
  · rfl

theorem mem_of_mem_hyphenGroups {cs group : List Char} (h : group ∈ hyphenGroups cs) {c : Char}
    (hc : c ∈ group) : c ∈ cs := by
  simp only [hyphenGroups, List.mem_cons, List.not_mem_nil, or_false] at h
  obtain rfl | rfl | rfl | rfl | rfl := h
  · exact List.mem_of_mem_take hc
  · exact List.mem_of_mem_drop (List.mem_of_mem_take hc)
  · exact List.mem_of_mem_drop (List.mem_of_mem_take hc)
  · exact List.mem_of_mem_drop (List.mem_of_mem_take hc)
  · exact List.mem_of_mem_drop hc

theorem flatten_hyphenGroups (cs : List Char) : (hyphenGroups cs).flatten = cs := by
  have htake : ∀ n, (cs.drop n).take 4 ++ cs.drop (n + 4) = cs.drop n := by
    intro n
    rw [← List.drop_drop, List.take_append_drop]
  simp only [hyphenGroups, List.flatten_cons, List.flatten_nil, List.append_nil, htake,
    List.take_append_drop]

theorem length_hyphenGroups {cs : List Char} (h : cs.length = 32) :
    (hyphenGroups cs).map List.length = [8, 4, 4, 4, 12] := by
  simp [hyphenGroups, h]

theorem parseHyphenated_intercalate {cs : List Char} (h : cs.length = 32) (hdash : '-' ∉ cs) :
    parseHyphenated (['-'].intercalate (hyphenGroups cs)) = parseSimple cs := by
  have hgroups : (['-'].intercalate (hyphenGroups cs)).splitOn '-' = hyphenGroups cs := by
    refine List.splitOn_intercalate '-' ?_ (by simp [hyphenGroups])
    exact fun group hgroup hmem => hdash (mem_of_mem_hyphenGroups hgroup hmem)
  rw [parseHyphenated, hgroups, if_pos (length_hyphenGroups h), flatten_hyphenGroups]

theorem toList_hyphenated (id : Uuid) :
    id.hyphenated.toList = ['-'].intercalate (hyphenGroups id.simple.toList) :=
  String.toList_ofList

theorem mem_hyphenated {id : Uuid} {c : Char} (hc : c ∈ id.hyphenated.toList) :
    c = '-' ∨ c ∈ id.simple.toList := by
  rw [toList_hyphenated] at hc
  simp only [hyphenGroups, List.intercalate, List.intersperse, List.flatten_cons, List.flatten_nil,
    List.append_nil, List.mem_append, List.mem_singleton] at hc
  obtain hc | hc | hc | hc | hc | hc | hc | hc | hc := hc
  · exact .inr (List.mem_of_mem_take hc)
  · exact .inl hc
  · exact .inr (List.mem_of_mem_drop (List.mem_of_mem_take hc))
  · exact .inl hc
  · exact .inr (List.mem_of_mem_drop (List.mem_of_mem_take hc))
  · exact .inl hc
  · exact .inr (List.mem_of_mem_drop (List.mem_of_mem_take hc))
  · exact .inl hc
  · exact .inr (List.mem_of_mem_drop hc)

theorem parseStr_hyphenated (id : Uuid) : parseStr id.hyphenated = some id := by
  have hhex := isHex_simple id
  have hdash : '-' ∉ id.simple.toList := fun hmem => absurd (hhex.2 '-' hmem) (by decide)
  have hparse : parseHyphenated id.hyphenated.toList = some id := by
    rw [toList_hyphenated, parseHyphenated_intercalate hhex.1 hdash, parseSimple_simple]
  have hlength : id.hyphenated.toList.length ≠ 32 := by
    rw [toList_hyphenated]
    simp [hyphenGroups, List.intercalate, hhex.1]
  have hhead : ∀ c rest, id.hyphenated.toList = c :: rest → c = '-' ∨ (hexValue c).isSome := by
    intro c rest hcons
    refine (@mem_hyphenated id c ?_).imp_right (hhex.2 c)
    rw [hcons]
    exact List.mem_cons_self
  rw [parseStr]
  split
  · rename_i heq
    exact absurd (hhead _ _ heq) (by decide)
  · rename_i heq
    exact absurd (hhead _ _ heq) (by decide)
  · rw [hparse, parseSimple, if_neg hlength, Option.none_or]

theorem IsHex.isSome_parseStr {s : String} (h : IsHex s) : (parseStr s).isSome = true := by
  have hsimple : (parseSimple s.toList).isSome = true := by
    rw [parseSimple, if_pos h.1, Option.isSome_map]
    exact mapM_hexValue_isSome h.2
  rw [parseStr_of_isHex h, Option.isSome_or, hsimple]
  rfl

@[simp] theorem parseStr_simple (id : Uuid) : parseStr id.simple = some id := by
  rw [parseStr_of_isHex (isHex_simple id), parseSimple_simple]
  rfl

theorem hexValue_isSome_iff {c : Char} : (hexValue c).isSome = true ↔
    (48 ≤ c.toNat ∧ c.toNat ≤ 57) ∨ (97 ≤ c.toNat ∧ c.toNat ≤ 102) ∨
      (65 ≤ c.toNat ∧ c.toNat ≤ 70) := by
  have hdigit : '0' ≤ c ∧ c ≤ '9' ↔ 48 ≤ c.toNat ∧ c.toNat ≤ 57 := Iff.rfl
  have hlower : 'a' ≤ c ∧ c ≤ 'f' ↔ 97 ≤ c.toNat ∧ c.toNat ≤ 102 := Iff.rfl
  have hupper : 'A' ≤ c ∧ c ≤ 'F' ↔ 65 ≤ c.toNat ∧ c.toNat ≤ 70 := Iff.rfl
  rw [hexValue, ← hdigit, ← hlower, ← hupper]
  split_ifs <;> simp_all

theorem hexValue_toLower (c : Char) : (hexValue c.toLower).isSome = (hexValue c).isSome := by
  by_cases h : 'A'.val ≤ c.val ∧ c.val ≤ 'Z'.val
  · have hc : 65 ≤ c.toNat ∧ c.toNat ≤ 90 := h
    rw [Bool.eq_iff_iff, hexValue_isSome_iff, hexValue_isSome_iff, toNat_toLower h]
    omega
  · rw [toLower_eq_self h]

theorem isWhitespace_of_hexValue {c : Char} (h : (hexValue c).isSome = true) :
    Json.isWhitespace c = false := by
  have hcode := hexValue_isSome_iff.mp h
  simp only [Json.isWhitespace, Bool.or_eq_false_iff, Bool.and_eq_false_iff, decide_eq_false_iff_not,
    beq_eq_false_iff_ne]
  omega

theorem IsHex.trim_eq {s : String} (h : IsHex s) : Json.trim s = s :=
  Json.trim_of_forall fun c hc => isWhitespace_of_hexValue (h.2 c hc)

theorem IsHex.ne_empty {s : String} (h : IsHex s) : s ≠ "" := by
  rintro rfl
  exact absurd h.1 (by decide)

theorem isHex_of_eqIgnoreAsciiCase {s t : String} (h : eqIgnoreAsciiCase s t = true)
    (hs : IsHex s) : IsHex t := by
  have hlists : s.toList.map Char.toLower = t.toList.map Char.toLower := of_decide_eq_true h
  have hlength := congrArg List.length hlists
  rw [List.length_map, List.length_map] at hlength
  refine ⟨hlength ▸ hs.1, fun c hc => ?_⟩
  have hlower : c.toLower ∈ s.toList.map Char.toLower := hlists ▸ List.mem_map_of_mem hc
  obtain ⟨d, hd, heq⟩ := List.mem_map.mp hlower
  rw [← hexValue_toLower, ← heq, hexValue_toLower]
  exact hs.2 d hd

/-- One identifier in two texts, or texts that differ in case only. -/
def agree (left right : String) : Bool :=
  match parseStr left, parseStr right with
  | some left, some right => left == right
  | _, _ => eqIgnoreAsciiCase left right

theorem agree_eq_false {left right : String} (hleft : IsHex left)
    (hright : parseStr right = none) : agree left right = false := by
  rw [agree, hright]
  split
  · rename_i heq
    cases heq
  · cases hmatch : eqIgnoreAsciiCase left right with
    | false => rfl
    | true =>
      have hparsed := (isHex_of_eqIgnoreAsciiCase hmatch hleft).isSome_parseStr
      rw [hright] at hparsed
      cases hparsed

theorem agree_simple_left (left : Uuid) (right : String) :
    agree left.simple right = decide (parseStr right = some left) := by
  cases hright : parseStr right with
  | none =>
    rw [agree_eq_false (isHex_simple left) hright]
    rfl
  | some right =>
    rw [agree, parseStr_simple, hright, Bool.eq_iff_iff]
    change (left == right) = true ↔ _
    rw [beq_iff_eq, decide_eq_true_iff, Option.some.injEq, eq_comm]

theorem agree_simple (left right : Uuid) :
    agree left.simple right.simple = decide (left.simple = right.simple) := by
  rw [agree_simple_left, parseStr_simple, Bool.eq_iff_iff, decide_eq_true_iff, decide_eq_true_iff,
    Option.some.injEq]
  exact ⟨fun h => h ▸ rfl, fun h => simple_injective h.symm⟩

end Uuid

def fnv1a64 (bytes : List UInt8) (seed : UInt64) : UInt64 :=
  bytes.foldl (fun hash byte => hash * 0x100000001b3 ^^^ byte.toUInt64) seed

def hex16 (hash : UInt64) : String :=
  String.ofList ((Uuid.lowDigits 16 16 hash.toNat).map Nat.digitChar)

def stableEntityId (itemType name : String) : String :=
  let key := (itemType ++ ":" ++ toAsciiLowercase (Json.trim name)).toList.flatMap
    String.utf8EncodeChar
  hex16 (fnv1a64 key 0xcbf29ce484222325) ++ hex16 (fnv1a64 key 0x84222325cbf29ce4)

theorem stableEntityId_congr (itemType : String) {name other : String}
    (h : toAsciiLowercase (Json.trim name) = toAsciiLowercase (Json.trim other)) :
    stableEntityId itemType name = stableEntityId itemType other := by
  simp only [stableEntityId, h]

def stableJellyfinUuid (kind value : String) : String :=
  ((Uuid.parseStr (stableEntityId kind value)).map Uuid.hyphenated).getD ""

theorem isHex_stableEntityId (itemType name : String) :
    Uuid.IsHex (stableEntityId itemType name) := by
  rw [stableEntityId, hex16, hex16, ← String.ofList_append, ← List.map_append]
  refine Uuid.isHex_ofList_digits ?_ fun digit hdigit => ?_
  · rw [List.length_append, Uuid.length_lowDigits, Uuid.length_lowDigits]
  · obtain hdigit | hdigit := List.mem_append.mp hdigit
    · exact Uuid.lt_of_mem_lowDigits (by decide) hdigit
    · exact Uuid.lt_of_mem_lowDigits (by decide) hdigit

theorem exists_simple_stableEntityId (itemType name : String) :
    ∃ id : Uuid, stableEntityId itemType name = id.simple := by
  have hhash : ∀ high low : UInt64, ∃ id : Uuid, hex16 high ++ hex16 low = id.simple := by
    intro high low
    have hlow : low.toNat < 16 ^ 16 := low.toNat_lt
    have hhigh : high.toNat < 16 ^ 16 := high.toNat_lt
    have hlt : 16 ^ 16 * high.toNat + low.toNat < 2 ^ 128 := by omega
    refine ⟨BitVec.ofNat 128 (16 ^ 16 * high.toNat + low.toNat), ?_⟩
    rw [Uuid.simple, BitVec.toNat_ofNat, Nat.mod_eq_of_lt hlt, Uuid.lowDigits_add 16 16 16,
      Nat.mul_add_div (by decide), Nat.div_eq_of_lt hlow, Nat.add_zero,
      Uuid.lowDigits_mul_pow_add (by decide), List.map_append, String.ofList_append]
    rfl
  exact hhash _ _

theorem toAsciiLowercase_simple (id : Uuid) : toAsciiLowercase id.simple = id.simple := by
  have hdigit : ∀ digit < 16, (Nat.digitChar digit).toLower = Nat.digitChar digit := by decide
  rw [Uuid.simple, toAsciiLowercase, String.toList_ofList, List.map_map]
  exact congrArg String.ofList (List.map_congr_left fun digit hmem =>
    hdigit digit (Uuid.lt_of_mem_lowDigits (by decide) hmem))

theorem toAsciiLowercase_stableEntityId (itemType name : String) :
    toAsciiLowercase (stableEntityId itemType name) = stableEntityId itemType name := by
  obtain ⟨id, hid⟩ := exists_simple_stableEntityId itemType name
  rw [hid, toAsciiLowercase_simple]

end Jellyrin
