import Jellyrin.Defs.Items.SeriesSeasons

/-! Season and episode in the name of a file, read from its bytes. -/

namespace Jellyrin.Core

open String Slices Items

/-! The search. -/

def isAsciiDigit (b : UInt8) : Bool := 48 ≤ b.toNat && b.toNat ≤ 57

def byteToAsciiLowercase (b : UInt8) : UInt8 := if 65 ≤ b.toNat ∧ b.toNat ≤ 90 then b + 32 else b

def byteIsLetter (letter : Char) (b : UInt8) : Bool :=
  byteToAsciiLowercase b == UInt8.ofNat letter.toNat

def skipDigits (bytes : List UInt8) (cursor : Nat) : Nat :=
  cursor + ((bytes.drop cursor).takeWhile isAsciiDigit).length

/-- One round of the loop: `none` for `continue`, and else what the function returns. -/
def sxeAtByte (value : String) (index : Nat) : Except Panic (Option (Option (Int × Int))) :=
  let bytes := asBytes value
  if !bytes[index]?.any (byteIsLetter 's') then .ok none
  else
    let seasonStart := index + 1
    let cursor := skipDigits bytes seasonStart
    if seasonStart = cursor ∨ bytes.length ≤ cursor ∨ !bytes[cursor]?.any (byteIsLetter 'e') then
      .ok none
    else
      let episodeStart := cursor + 1
      let cursor := skipDigits bytes episodeStart
      if episodeStart = cursor then .ok none
      else do
        let season ← sliceRange value.toList seasonStart (episodeStart - 1)
        match parseDigits season with
        | none => return some none
        | some season =>
          let episode ← sliceRange value.toList episodeStart cursor
          match parseDigits episode with
          | none => return some none
          | some episode => return some (some (season, episode))

def searchSxe (value : String) : List Nat → Except Panic (Option (Int × Int))
  | [] => .ok none
  | index :: indices => do
    match ← sxeAtByte value index with
    | none => searchSxe value indices
    | some numbers => return numbers

def parseSxeNumbers (value : String) : Except Panic (Option (Int × Int)) :=
  searchSxe value (List.range ((asBytes value).length - 3))

/-! The bytes are looked at as characters. -/

theorem readsAscii_digit : ReadsAscii isAsciiDigit Char.isDigit where
  small c hc := by
    rw [isAsciiDigit, UInt8.toNat_ofNat', Nat.mod_eq_of_lt (by omega)]
    simp only [Char.isDigit, ge_iff_le, UInt32.le_iff_toNat_le]
    rfl
  byte b hb := by
    rw [isAsciiDigit, Bool.and_eq_false_iff]
    exact .inr (decide_eq_false (by omega))
  char c hc := by
    simp only [Char.isDigit, ge_iff_le, UInt32.le_iff_toNat_le, Bool.and_eq_false_iff,
      decide_eq_false_iff_not]
    exact .inr fun hle => absurd (hc.trans hle) (by decide)

theorem byteToAsciiLowercase_ofNat {c : Char} (hc : c.toNat < 128) :
    byteToAsciiLowercase (UInt8.ofNat c.toNat) = UInt8.ofNat c.toLower.toNat := by
  have hbyte : (UInt8.ofNat c.toNat).toNat = c.toNat := by
    rw [UInt8.toNat_ofNat', Nat.mod_eq_of_lt (by omega)]
  rw [byteToAsciiLowercase, hbyte]
  by_cases h : 'A'.val ≤ c.val ∧ c.val ≤ 'Z'.val
  · have hrange : 65 ≤ c.toNat ∧ c.toNat ≤ 90 := h
    rw [if_pos hrange, Ascii.toNat_toLower h, UInt8.ofNat_add]
    rfl
  · have hrange : ¬(65 ≤ c.toNat ∧ c.toNat ≤ 90) := h
    rw [if_neg hrange, Ascii.toLower_eq_self h]

theorem toNat_toLower_lt {c : Char} (hc : c.toNat < 128) : c.toLower.toNat < 128 := by
  by_cases h : 'A'.val ≤ c.val ∧ c.val ≤ 'Z'.val
  · have hrange : 65 ≤ c.toNat ∧ c.toNat ≤ 90 := h
    rw [Ascii.toNat_toLower h]
    omega
  · rwa [Ascii.toLower_eq_self h]

theorem readsAscii_letter {letter : Char} (hletter : letter.toNat < 128) :
    ReadsAscii (byteIsLetter letter) (·.toLower == letter) where
  small c hc := by
    have hlower := toNat_toLower_lt hc
    rw [byteIsLetter, byteToAsciiLowercase_ofNat hc, Bool.eq_iff_iff, beq_iff_eq, beq_iff_eq,
      ← UInt8.toNat_inj, ← Char.toNat_inj, UInt8.toNat_ofNat', UInt8.toNat_ofNat',
      Nat.mod_eq_of_lt (by omega), Nat.mod_eq_of_lt (by omega)]
  byte b hb := by
    have hne : b ≠ UInt8.ofNat letter.toNat := by
      rintro rfl
      rw [UInt8.toNat_ofNat', Nat.mod_eq_of_lt (by omega)] at hb
      omega
    rw [byteIsLetter, byteToAsciiLowercase, if_neg (by omega)]
    exact beq_eq_false_iff_ne.mpr hne
  char c hc := by
    have hne : c ≠ letter := by
      rintro rfl
      omega
    have hrange : ¬(65 ≤ c.toNat ∧ c.toNat ≤ 90) := by omega
    rw [Ascii.toLower_eq_self hrange]
    exact beq_eq_false_iff_ne.mpr hne

variable {value : String} {before cs : List Char}

theorem skipDigits_eq (h : value.toList = before ++ cs) :
    skipDigits (asBytes value) (utf8Len before) =
      utf8Len (before ++ cs.takeWhile Char.isDigit) := by
  rw [skipDigits, drop_asBytes h, readsAscii_digit.takeWhile_eq, utf8Len_append, ← asBytes_ofList,
    length_asBytes, utf8ByteSize_ofList]

theorem any_getElem?_asBytes (letter : Char) (hletter : letter.toNat < 128)
    (h : value.toList = before ++ cs) :
    (asBytes value)[utf8Len before]?.any (byteIsLetter letter) =
      cs.head?.any (·.toLower == letter) := by
  rw [getElem?_asBytes h, (readsAscii_letter hletter).any_head?]


theorem utf8Size_of_toLower {c letter : Char} (hletter : letter.toNat < 128)
    (h : c.toLower = letter) : c.utf8Size = 1 := by
  rw [← utf8Size_toLower, h]
  exact Char.utf8Size_eq_one_iff.mpr (UInt32.le_iff_toNat_le.mpr (Nat.le_of_lt_succ hletter))

theorem eq_utf8Len_append_iff (before digits : List Char) :
    utf8Len before = utf8Len (before ++ digits) ↔ digits = [] := by
  rw [utf8Len_append, Nat.left_eq_add, utf8Len_eq_zero]

theorem sxeAtByte_boundary (h : value.toList = before ++ cs) :
    sxeAtByte value (utf8Len before) = .ok (sxeNumbersAt cs) := by
  rw [sxeAtByte]
  simp only [any_getElem?_asBytes 's' (by decide) h]
  cases cs with
  | nil => rfl
  | cons s rest =>
    rw [sxeNumbersAt]
    by_cases hs : s.toLower = 's'
    case neg =>
      have hfirst : (s.toLower == 's') = false := beq_eq_false_iff_ne.mpr hs
      rw [List.head?_cons, Option.any_some, hfirst]
      cases rest.dropWhile Char.isDigit with
      | nil => rfl
      | cons e rest => simp [hs]
    case pos =>
      have hstart : utf8Len before + 1 = utf8Len (before ++ [s]) := by
        rw [utf8Len_append, utf8Len_cons, utf8Size_of_toLower (by decide) hs, utf8Len_nil]
      have hrest : value.toList = (before ++ [s]) ++ rest := by
        rw [h, List.append_assoc, List.singleton_append]
      have hafter : value.toList = (before ++ [s] ++ rest.takeWhile Char.isDigit) ++
          rest.dropWhile Char.isDigit := by
        rw [hrest, List.append_assoc _ (rest.takeWhile Char.isDigit),
          List.takeWhile_append_dropWhile]
      have hfirst : (s.toLower == 's') = true := beq_iff_eq.mpr hs
      rw [List.head?_cons, Option.any_some, hfirst]
      simp only [Bool.not_true, Bool.false_eq_true, if_false, hstart, skipDigits_eq hrest,
        any_getElem?_asBytes 'e' (by decide) hafter, eq_utf8Len_append_iff]
      generalize rest.takeWhile Char.isDigit = season at *
      generalize rest.dropWhile Char.isDigit = rest at *
      cases rest with
      | nil => simp
      | cons e rest =>
        have hbytes : ¬(asBytes value).length ≤ utf8Len (before ++ [s] ++ season) := by
          have hpos := e.utf8Size_pos
          rw [length_asBytes, utf8ByteSize_eq_utf8Len, hafter, utf8Len_append _ (e :: rest),
            utf8Len_cons]
          omega
        simp only [hbytes, false_or, List.head?_cons, Option.any_some]
        by_cases hguard : season = [] ∨ e.toLower ≠ 'e'
        case pos =>
          have hstops : (s.toLower ≠ 's' || season.isEmpty || e.toLower ≠ 'e') = true := by
            simpa [hs] using hguard
          rw [if_pos (by simpa using hguard)]
          simp only [hstops, Bool.true_or, if_true]
        case neg =>
          obtain ⟨hseason, he⟩ := not_or.mp hguard
          have he := not_not.mp he
          have hmiddle : utf8Len (before ++ [s] ++ season) + 1 =
              utf8Len (before ++ [s] ++ season ++ [e]) := by
            rw [utf8Len_append _ [e], utf8Len_cons, utf8Size_of_toLower (by decide) he,
              utf8Len_nil]
          have htail : value.toList = (before ++ [s] ++ season ++ [e]) ++ rest := by
            rw [hafter, List.append_assoc _ [e], List.singleton_append]
          have hend : value.toList = (before ++ [s] ++ season ++ [e] ++
              rest.takeWhile Char.isDigit) ++ rest.dropWhile Char.isDigit := by
            rw [htail, List.append_assoc _ (rest.takeWhile Char.isDigit),
              List.takeWhile_append_dropWhile]
          have hslice : sliceRange value.toList (utf8Len (before ++ [s]))
              (utf8Len (before ++ [s] ++ season)) = .ok season := by
            rw [hafter]
            exact sliceRange_append _ _ _
          have hslice' : sliceRange value.toList (utf8Len (before ++ [s] ++ season ++ [e]))
              (utf8Len (before ++ [s] ++ season ++ [e] ++ rest.takeWhile Char.isDigit)) =
                .ok (rest.takeWhile Char.isDigit) := by
            conv => lhs; rw [hend]
            exact sliceRange_append _ _ _
          rw [if_neg (by simpa [he] using hseason)]
          have hback : utf8Len (before ++ [s] ++ season ++ [e]) - 1 =
              utf8Len (before ++ [s] ++ season) := by
            rw [← hmiddle, Nat.add_sub_cancel]
          simp only [hmiddle, skipDigits_eq htail, eq_utf8Len_append_iff, hback, hslice, hslice']
          by_cases hepisode : rest.takeWhile Char.isDigit = []
          · simp [hepisode]
          · have hgoes : (s.toLower ≠ 's' || season.isEmpty || e.toLower ≠ 'e' ||
                (rest.takeWhile Char.isDigit).isEmpty) = false := by
              simp [hs, he, hseason, hepisode]
            simp only [hepisode, hgoes, Bool.false_eq_true, if_false, bind, Except.bind]
            cases parseDigits season with
            | none => rfl
            | some season =>
              cases parseDigits (rest.takeWhile Char.isDigit) with
              | none => rfl
              | some episode => rfl

theorem sxeAtByte_inside {c : Char} (h : value.toList = before ++ c :: cs) {offset : Nat}
    (hpos : 0 < offset) (hlt : offset < c.utf8Size) :
    sxeAtByte value (utf8Len before + offset) = .ok none := by
  have hbig : 128 ≤ c.toNat := by
    by_contra hsmall
    have hone := length_utf8EncodeChar c
    rw [utf8EncodeChar_of_lt (Nat.not_le.mp hsmall)] at hone
    rw [← hone, List.length_singleton] at hlt
    omega
  obtain ⟨b, hb⟩ : ∃ b, (utf8EncodeChar c)[offset]? = some b :=
    ⟨_, List.getElem?_eq_getElem (by rwa [length_utf8EncodeChar])⟩
  have hbyte : (asBytes value)[utf8Len before + offset]? = some b := by
    rw [← List.getElem?_drop, drop_asBytes h, List.flatMap_cons,
      List.getElem?_append_left (by rwa [length_utf8EncodeChar]), hb]
  have hletter : byteIsLetter 's' b = false :=
    (readsAscii_letter (by decide)).byte b
      (le_of_mem_utf8EncodeChar (List.mem_of_getElem? hb) hbig)
  rw [sxeAtByte]
  simp only [hbyte, Option.any_some, hletter, Bool.not_false, if_true]

theorem searchSxe_append {indices others : List Nat}
    (h : ∀ index ∈ indices, sxeAtByte value index = .ok none) :
    searchSxe value (indices ++ others) = searchSxe value others := by
  induction indices with
  | nil => rfl
  | cons index indices ih =>
    obtain ⟨hindex, hindices⟩ := List.forall_mem_cons.mp h
    rw [List.cons_append, searchSxe, hindex]
    exact ih hindices

theorem sxeNumbersAt_short (h : utf8Len cs ≤ 3) : sxeNumbersAt cs = none := by
  have hlength := (length_le_utf8Len cs).trans h
  cases cs with
  | nil => rfl
  | cons s rest =>
    rw [sxeNumbersAt]
    have hsplit := List.takeWhile_append_dropWhile (p := Char.isDigit) (l := rest)
    cases hafter : rest.dropWhile Char.isDigit with
    | nil => rfl
    | cons e tail =>
      have hcount := congrArg List.length hsplit
      rw [hafter, List.length_append, List.length_cons] at hcount
      rw [List.length_cons] at hlength
      have hstops : (rest.takeWhile Char.isDigit).isEmpty = true ∨ tail = [] := by
        rw [List.isEmpty_iff, ← List.length_eq_zero_iff, ← List.length_eq_zero_iff]
        omega
      obtain hseason | rfl := hstops
      · simp [hseason]
      · simp

theorem findSome?_tails_short (h : utf8Len cs ≤ 3) : cs.tails.findSome? sxeNumbersAt = none := by
  rw [List.findSome?_eq_none_iff]
  intro tail htail
  have hsuffix := (List.mem_tails _ _).mp htail
  obtain ⟨before, rfl⟩ := hsuffix
  rw [utf8Len_append] at h
  exact sxeNumbersAt_short (by omega)

theorem searchSxe_suffix (h : value.toList = before ++ cs) :
    searchSxe value (List.range' (utf8Len before) (utf8Len cs - 3)) =
      .ok (cs.tails.findSome? sxeNumbersAt).join := by
  induction cs generalizing before with
  | nil => rfl
  | cons c cs ih =>
    have hpos := c.utf8Size_pos
    by_cases hshort : utf8Len (c :: cs) ≤ 3
    · rw [Nat.sub_eq_zero_of_le hshort, findSome?_tails_short hshort]
      rfl
    · rw [utf8Len_cons] at hshort ⊢
      -- The rounds inside of the character, as far as the loop goes.
      obtain ⟨inside, hinside⟩ : ∃ inside, inside = min (c.utf8Size - 1)
        (utf8Len cs + c.utf8Size - 4) := ⟨_, rfl⟩
      have hcount : utf8Len cs + c.utf8Size - 3 = inside + (utf8Len cs - 3) + 1 := by omega
      have hskip : ∀ index ∈ List.range' (utf8Len before + 1) inside,
          sxeAtByte value index = .ok none := by
        intro index hindex
        obtain ⟨hle, hlt⟩ := List.mem_range'_1.mp hindex
        have hpos : 0 < index - utf8Len before := by omega
        have hinner : index - utf8Len before < c.utf8Size := by omega
        have hoffset := sxeAtByte_inside h hpos hinner
        rwa [Nat.add_sub_cancel' (by omega)] at hoffset
      rw [hcount, List.range'_succ, searchSxe, sxeAtByte_boundary h, List.tails,
        List.findSome?_cons]
      cases sxeNumbersAt (c :: cs) with
      | some numbers => rfl
      | none =>
        change searchSxe value (List.range' (utf8Len before + 1) _) = _
        rw [← List.range'_append_1, searchSxe_append hskip]
        by_cases hrest : utf8Len cs ≤ 3
        · rw [Nat.sub_eq_zero_of_le hrest, findSome?_tails_short hrest]
          rfl
        · have hnext : utf8Len before + 1 + inside = utf8Len (before ++ [c]) := by
            rw [utf8Len_append, utf8Len_cons, utf8Len_nil]
            omega
          rw [hnext]
          exact ih (by rw [h, List.append_assoc, List.singleton_append])

theorem parseSxeNumbers_eq (value : String) :
    parseSxeNumbers value = .ok (Items.parseSxeNumbers value) := by
  have happend : value.toList = [] ++ value.toList := rfl
  have hsuffix := searchSxe_suffix happend
  rw [utf8Len_nil, ← List.range_eq_range'] at hsuffix
  rw [parseSxeNumbers, length_asBytes, utf8ByteSize_eq_utf8Len, hsuffix]
  rfl

/-! What the search is for. -/

def IsDigits (digits : List Char) : Prop := digits ≠ [] ∧ ∀ c ∈ digits, c.isDigit = true

theorem isDigits_singleton {c : Char} (h : c.isDigit = true) : IsDigits [c] :=
  ⟨List.cons_ne_nil c [], List.forall_mem_singleton.mpr h⟩

/-- `s<season>e<episode>` stands in a text after `before`, and no digit follows. -/
def IsSxe (text before season episode : List Char) : Prop :=
  ∃ s e after, text = before ++ s :: (season ++ e :: (episode ++ after)) ∧
    s.toLower = 's' ∧ IsDigits season ∧ e.toLower = 'e' ∧ IsDigits episode ∧
    ∀ c ∈ after.head?, c.isDigit = false

def FitsI32 (digits : List Char) : Prop := Nat.ofDigitChars 10 digits 0 < 2 ^ 31

instance (digits : List Char) : Decidable (FitsI32 digits) := inferInstanceAs (Decidable (_ < _))

def IsSxeInRange (text before season episode : List Char) : Prop :=
  IsSxe text before season episode ∧ FitsI32 season ∧ FitsI32 episode

def numbersOf (season episode : List Char) : Int × Int :=
  (Nat.ofDigitChars 10 season 0, Nat.ofDigitChars 10 episode 0)

def IsLeftmostInRange (text : List Char) (numbers : Int × Int) : Prop :=
  ∃ before season episode, IsSxeInRange text before season episode ∧
    numbers = numbersOf season episode ∧
    ∀ before' season' episode', IsSxeInRange text before' season' episode' →
      before.length ≤ before'.length

def IsLeftmost (text before season episode : List Char) : Prop :=
  IsSxe text before season episode ∧
    ∀ before' season' episode', IsSxe text before' season' episode' →
      before.length ≤ before'.length

theorem parseDigits_eq {digits : List Char} (h : IsDigits digits) :
    parseDigits digits = if Nat.ofDigitChars 10 digits 0 < 2 ^ 31 then
      some (Nat.ofDigitChars 10 digits 0 : Int) else none := by
  have hplus : Text.unsignedDigits digits = digits := by
    rw [Text.unsignedDigits]
    rintro rest rfl
    exact absurd (h.2 '+' List.mem_cons_self) (by decide)
  have hall : digits.all Char.isDigit = true := List.all_eq_true.mpr h.2
  have hle : Nat.ofDigitChars 10 digits 0 ≤ 2 ^ 31 - 1 ↔ Nat.ofDigitChars 10 digits 0 < 2 ^ 31 := by
    omega
  simp only [parseDigits, Text.parseUnsigned, String.toList_ofList, hplus, List.isEmpty_iff, h.1,
    hall, Bool.not_true, Bool.or_false, if_false, hle]
  split
  · rfl
  · rfl

theorem takeWhile_digits {digits after : List Char} (h : ∀ c ∈ digits, c.isDigit = true)
    (hafter : ∀ c ∈ after.head?, c.isDigit = false) :
    (digits ++ after).takeWhile Char.isDigit = digits ∧
      (digits ++ after).dropWhile Char.isDigit = after := by
  rw [List.takeWhile_append_of_pos h, List.dropWhile_append_of_pos h]
  cases after with
  | nil => simp
  | cons c after =>
    have hc := hafter c rfl
    simp [hc]

theorem not_isDigit_of_toLower {e : Char} (he : e.toLower = 'e') : e.isDigit = false := by
  cases hdigit : e.isDigit with
  | false => rfl
  | true =>
    have hrange : 48 ≤ e.toNat ∧ e.toNat ≤ 57 := by
      simpa [Char.isDigit, UInt32.le_iff_toNat_le] using hdigit
    have hsmall : ¬('A'.val ≤ e.val ∧ e.val ≤ 'Z'.val) := fun h => by
      have hle : 65 ≤ e.toNat := h.1
      omega
    rw [Ascii.toLower_eq_self hsmall] at he
    subst he
    exact absurd hdigit (by decide)

theorem IsSxe.digits {season episode : List Char} (h : IsSxe cs [] season episode) :
    ∃ s e rest, cs = s :: (season ++ e :: rest) ∧ s.toLower = 's' ∧ e.toLower = 'e' ∧
      (season ++ e :: rest).takeWhile Char.isDigit = season ∧
      (season ++ e :: rest).dropWhile Char.isDigit = e :: rest ∧
      rest.takeWhile Char.isDigit = episode := by
  obtain ⟨s, e, after, rfl, hs, hseason, he, hepisode, hafter⟩ := h
  have hnext : ∀ c ∈ (e :: (episode ++ after)).head?, c.isDigit = false := by
    rintro c ⟨⟩
    exact not_isDigit_of_toLower he
  exact ⟨s, e, _, rfl, hs, he, (takeWhile_digits hseason.2 hnext).1,
    (takeWhile_digits hseason.2 hnext).2, (takeWhile_digits hepisode.2 hafter).1⟩

theorem IsSxe.eq_of_length_eq {text season episode before' season' episode' : List Char}
    (h : IsSxe text before season episode) (h' : IsSxe text before' season' episode')
    (hlength : before.length = before'.length) : season = season' ∧ episode = episode' := by
  obtain ⟨s, e, after, htext, hparts⟩ := h
  obtain ⟨s', e', after', htext', hparts'⟩ := h'
  obtain ⟨-, htail⟩ := List.append_inj (htext.symm.trans htext') hlength
  obtain ⟨_, _, _, hsplit, -, -, hseason, hrest, hepisode⟩ :=
    IsSxe.digits ⟨s, e, after, rfl, hparts⟩
  obtain ⟨_, _, _, hsplit', -, -, hseason', hrest', hepisode'⟩ :=
    IsSxe.digits ⟨s', e', after', rfl, hparts'⟩
  obtain ⟨-, heq⟩ := List.cons.inj (hsplit.symm.trans (htail.trans hsplit'))
  rw [heq] at hseason hrest
  obtain ⟨-, rfl⟩ := List.cons.inj (hrest.symm.trans hrest')
  exact ⟨hseason.symm.trans hseason', hepisode.symm.trans hepisode'⟩

theorem isSxe_iff {text season episode : List Char} : IsSxe text before season episode ↔
    ∃ tail, text = before ++ tail ∧ IsSxe tail [] season episode := by
  constructor
  · rintro ⟨s, e, after, htext, hparts⟩
    exact ⟨_, htext, s, e, after, rfl, hparts⟩
  · rintro ⟨tail, rfl, s, e, after, rfl, hparts⟩
    exact ⟨s, e, after, rfl, hparts⟩

theorem sxeNumbersAt_eq_some {numbers : Option (Int × Int)} :
    sxeNumbersAt cs = some numbers ↔ ∃ season episode, IsSxe cs [] season episode ∧
      numbers = (parseDigits season).bind fun season =>
        (parseDigits episode).map fun episode => (season, episode) := by
  constructor
  case mp =>
    intro h
    cases cs with
    | nil => cases h
    | cons s rest =>
      rw [sxeNumbersAt] at h
      have hsplit := List.takeWhile_append_dropWhile (p := Char.isDigit) (l := rest)
      cases hafter : rest.dropWhile Char.isDigit with
      | nil =>
        rw [hafter] at h
        cases h
      | cons e tail =>
        rw [hafter] at h hsplit
        simp only [Option.ite_none_left_eq_some, Bool.or_eq_true, decide_eq_true_eq,
          List.isEmpty_iff, not_or, not_not, Option.some.injEq] at h
        obtain ⟨⟨⟨⟨hs, hseason⟩, he⟩, hepisode⟩, hnumbers⟩ := h
        refine ⟨rest.takeWhile Char.isDigit, tail.takeWhile Char.isDigit,
          ⟨s, e, tail.dropWhile Char.isDigit, ?_, hs,
            ⟨hseason, fun c hc => List.mem_takeWhile_imp hc⟩, he,
            ⟨hepisode, fun c hc => List.mem_takeWhile_imp hc⟩, fun c hc => ?_⟩, hnumbers.symm⟩
        · rw [List.takeWhile_append_dropWhile, hsplit, List.nil_append]
        · have hstop := List.head?_dropWhile_not Char.isDigit tail
          rw [Option.mem_def.mp hc] at hstop
          simpa using hstop
  case mpr =>
    rintro ⟨season, episode, hsxe, rfl⟩
    have hparts := hsxe
    obtain ⟨s, e, rest, rfl, hs, he, hseason, hrest, hepisode⟩ := hsxe.digits
    obtain ⟨_, _, _, -, -, hdigits, -, hdigits', -⟩ := hparts
    rw [sxeNumbersAt]
    have hgoes : (s.toLower ≠ 's' || season.isEmpty || e.toLower ≠ 'e' || episode.isEmpty) =
        false := by
      simp [hs, he, hdigits.1, hdigits'.1]
    simp only [hseason, hrest, hepisode, hgoes, Bool.false_eq_true, if_false]

theorem findSome?_tails {α β : Type} (f : List α → Option β) (cs : List α) :
    (cs.tails.findSome? f = none ∧ ∀ before tail, cs = before ++ tail → f tail = none) ∨
      ∃ before tail result, cs = before ++ tail ∧ f tail = some result ∧
        cs.tails.findSome? f = some result ∧
        ∀ before' tail', cs = before' ++ tail' → f tail' ≠ none →
          before.length ≤ before'.length := by
  induction cs with
  | nil =>
    cases h : f [] with
    | none =>
      refine .inl ⟨by simp [h], fun before tail heq => ?_⟩
      obtain ⟨rfl, rfl⟩ := List.nil_eq_append_iff.mp heq
      exact h
    | some result => exact .inr ⟨[], [], result, rfl, h, by simp [h], fun _ _ _ _ => Nat.zero_le _⟩
  | cons c cs ih =>
    rw [List.tails, List.findSome?_cons]
    cases h : f (c :: cs) with
    | some result =>
      exact .inr ⟨[], c :: cs, result, rfl, h, rfl, fun _ _ _ _ => Nat.zero_le _⟩
    | none =>
      obtain ⟨hnone, hall⟩ | ⟨before, tail, result, rfl, hresult, hsome, hleft⟩ := ih
      · refine .inl ⟨hnone, fun before tail heq => ?_⟩
        obtain ⟨rfl, rfl⟩ | ⟨before, rfl, hrest⟩ := List.cons_eq_append_iff.mp heq
        · exact h
        · exact hall before tail hrest
      · refine .inr ⟨c :: before, tail, result, rfl, hresult, hsome, fun before' tail' heq hne => ?_⟩
        obtain ⟨rfl, rfl⟩ | ⟨before', rfl, hrest⟩ := List.cons_eq_append_iff.mp heq
        · exact absurd h hne
        · exact Nat.succ_le_succ (hleft before' tail' hrest hne)

theorem parseSxeNumbers_cases (value : String) :
    (Items.parseSxeNumbers value = none ∧
      ∀ before season episode, ¬IsSxe value.toList before season episode) ∨
    ∃ before season episode, IsLeftmost value.toList before season episode ∧
      Items.parseSxeNumbers value = if Nat.ofDigitChars 10 season 0 < 2 ^ 31 ∧
        Nat.ofDigitChars 10 episode 0 < 2 ^ 31 then some (numbersOf season episode) else none := by
  have hfound {before tail season episode} (htext : value.toList = before ++ tail)
      (hsxe : IsSxe value.toList before season episode) : sxeNumbersAt tail ≠ none := by
    obtain ⟨tail', htext', htail⟩ := isSxe_iff.mp hsxe
    obtain rfl := List.append_cancel_left (htext.symm.trans htext')
    rw [sxeNumbersAt_eq_some.mpr ⟨season, episode, htail, rfl⟩]
    exact Option.some_ne_none _
  rw [Items.parseSxeNumbers]
  obtain ⟨hnone, hall⟩ | ⟨before, tail, result, htext, hresult, hsome, hleft⟩ :=
    findSome?_tails sxeNumbersAt value.toList
  · refine .inl ⟨by rw [hnone]; rfl, fun before season episode hsxe => ?_⟩
    obtain ⟨tail, htext, -⟩ := isSxe_iff.mp hsxe
    exact hfound htext hsxe (hall before tail htext)
  · obtain ⟨season, episode, hsxe, rfl⟩ := sxeNumbersAt_eq_some.mp hresult
    have hhere : IsSxe value.toList before season episode := isSxe_iff.mpr ⟨tail, htext, hsxe⟩
    refine .inr ⟨before, season, episode, ⟨hhere, fun before' season' episode' hother => ?_⟩, ?_⟩
    · obtain ⟨tail', htext', -⟩ := isSxe_iff.mp hother
      exact hleft before' tail' htext' (hfound htext' hother)
    · obtain ⟨_, _, _, -, -, hseason, -, hepisode, -⟩ := hsxe
      rw [hsome, Option.join_some, parseDigits_eq hseason, parseDigits_eq hepisode, numbersOf]
      by_cases hs : Nat.ofDigitChars 10 season 0 < 2 ^ 31
      · by_cases he : Nat.ofDigitChars 10 episode 0 < 2 ^ 31
        · rw [if_pos hs, if_pos he, if_pos ⟨hs, he⟩]
          rfl
        · have hboth : ¬(Nat.ofDigitChars 10 season 0 < 2 ^ 31 ∧
              Nat.ofDigitChars 10 episode 0 < 2 ^ 31) := fun h => he h.2
          rw [if_pos hs, if_neg he, if_neg hboth]
          rfl
      · have hboth : ¬(Nat.ofDigitChars 10 season 0 < 2 ^ 31 ∧
            Nat.ofDigitChars 10 episode 0 < 2 ^ 31) := fun h => hs h.1
        rw [if_neg hs, if_neg hboth]
        rfl

theorem exists_isLeftmostInRange {text season episode : List Char}
    (h : IsSxeInRange text before season episode) : ∃ numbers, IsLeftmostInRange text numbers := by
  have hexists : ∃ length before season episode, before.length = length ∧
      IsSxeInRange text before season episode := ⟨_, before, season, episode, rfl, h⟩
  classical
  obtain ⟨before, season, episode, hlength, hrange⟩ := Nat.find_spec hexists
  refine ⟨_, before, season, episode, hrange, rfl, fun before' season' episode' h' => ?_⟩
  rw [hlength]
  exact Nat.find_min' hexists ⟨before', season', episode', rfl, h'⟩

def SearchIsComplete (text : List Char) : Prop :=
  (∀ before season episode, IsLeftmost text before season episode →
    FitsI32 season ∧ FitsI32 episode) ∨
  ∀ before season episode, ¬IsSxeInRange text before season episode

/-- The search returns, and gives the leftmost numbers that fit if and only if no others are to
their left. -/
theorem parseSxeNumbers_eq_leftmost_iff (value : String) :
    ∃ result, parseSxeNumbers value = .ok result ∧
      ((∀ numbers, result = some numbers ↔ IsLeftmostInRange value.toList numbers) ↔
        SearchIsComplete value.toList) := by
  refine ⟨_, parseSxeNumbers_eq value, ?_⟩
  obtain ⟨hnone, hall⟩ | ⟨before, season, episode, hleft, hresult⟩ := parseSxeNumbers_cases value
  · rw [hnone]
    refine iff_of_true (fun numbers => iff_of_false (by simp) ?_)
      (.inr fun before season episode hrange => hall before season episode hrange.1)
    rintro ⟨before, season, episode, hrange, -⟩
    exact hall before season episode hrange.1
  · rw [hresult]
    by_cases hfits : Nat.ofDigitChars 10 season 0 < 2 ^ 31 ∧ Nat.ofDigitChars 10 episode 0 < 2 ^ 31
    · rw [if_pos hfits]
      refine iff_of_true (fun numbers => ⟨?_, ?_⟩) (.inl fun before' season' episode' hleft' => ?_)
      · rintro ⟨⟩
        exact ⟨before, season, episode, ⟨hleft.1, hfits⟩, rfl,
          fun before' season' episode' hrange => hleft.2 before' season' episode' hrange.1⟩
      · rintro ⟨before', season', episode', hrange', rfl, hfirst'⟩
        have hlength := Nat.le_antisymm (hleft.2 before' season' episode' hrange'.1)
          (hfirst' before season episode ⟨hleft.1, hfits⟩)
        obtain ⟨rfl, rfl⟩ := hleft.1.eq_of_length_eq hrange'.1 hlength
        rfl
      · have hlength := Nat.le_antisymm (hleft.2 before' season' episode' hleft'.1)
          (hleft'.2 before season episode hleft.1)
        obtain ⟨rfl, rfl⟩ := hleft.1.eq_of_length_eq hleft'.1 hlength
        exact hfits
    · rw [if_neg hfits]
      constructor
      · intro hnumbers
        refine .inr fun before' season' episode' hrange => ?_
        obtain ⟨numbers, hfirst⟩ := exists_isLeftmostInRange hrange
        cases (hnumbers numbers).mpr hfirst
      · rintro (hfirst | hall)
        · exact absurd (hfirst before season episode hleft) hfits
        · refine fun numbers => iff_of_false (by simp) ?_
          rintro ⟨before', season', episode', hrange, -⟩
          exact hall before' season' episode' hrange

theorem parseSxeNumbers_hides_numbers :
    parseSxeNumbers "s99999999999e1 s1e2" = .ok none ∧
      IsSxeInRange "s99999999999e1 s1e2".toList "s99999999999e1 ".toList ['1'] ['2'] := by
  refine ⟨?_, ⟨'s', 'e', [], ?_⟩, ?_⟩
  · rw [parseSxeNumbers_eq]
    decide
  · have hseason : IsDigits ['1'] := isDigits_singleton (by decide)
    have hepisode : IsDigits ['2'] := isDigits_singleton (by decide)
    refine ⟨by decide, by decide, hseason, by decide, hepisode, ?_⟩
    rintro c ⟨⟩
  · exact ⟨by decide, by decide⟩

end Jellyrin.Core
