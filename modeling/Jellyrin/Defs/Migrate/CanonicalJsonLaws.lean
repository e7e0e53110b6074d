import Jellyrin.Defs.Migrate.CanonicalJson

/-! Two documents have the same bytes exactly when they say the same. -/

namespace Jellyrin.Migrate

open Decimal

theorem Exponent.stripSign_text (exponent : Exponent) :
    stripSign exponent.text = (exponent.sign.getD false, exponent.digits) := by
  obtain ⟨upper, sign, digits, hdigits, hne⟩ := exponent
  cases sign with
  | none =>
    cases digits with
    | nil => exact absurd rfl hne
    | cons c cs => exact stripSign_of_isDigit (hdigits c List.mem_cons_self)
  | some minus => cases minus <;> rfl

theorem Exponent.parseI64_text (exponent : Exponent) (h : exponent.value.natAbs < 2 ^ 63) :
    parseI64 exponent.text = some exponent.value :=
  parseI64_eq_some exponent.stripSign_text exponent.isDigit exponent.ne_nil h

namespace PrintedNumber

variable {number : PrintedNumber}

def allDigits (number : PrintedNumber) : List Char := number.integer ++ number.fraction.getD []

def power (number : PrintedNumber) : Int :=
  number.exponent.elim 0 Exponent.value - (number.fraction.getD []).length

theorem allDigits_isDigit {c : Char} (hc : c ∈ number.allDigits) : c.isDigit = true := by
  rw [allDigits, List.mem_append] at hc
  cases hc with
  | inl hinteger => exact number.integer_isDigit c hinteger
  | inr hfraction =>
    cases hsome : number.fraction with
    | none => simp [hsome] at hfraction
    | some digits =>
      rw [hsome] at hfraction
      exact number.fraction_isDigit digits hsome c hfraction

theorem mem_mantissa {c : Char} (hc : c ∈ number.mantissa) : c.isDigit = true ∨ c = '.' := by
  rw [mantissa, List.mem_append] at hc
  cases hc with
  | inl hinteger => exact .inl (number.integer_isDigit c hinteger)
  | inr hfraction =>
    cases hsome : number.fraction with
    | none => simp [hsome] at hfraction
    | some digits =>
      simp only [hsome, Option.elim_some, List.mem_cons] at hfraction
      exact hfraction.symm.imp_left (number.fraction_isDigit digits hsome c)

def unsigned (number : PrintedNumber) : List Char :=
  number.mantissa ++ number.exponent.elim [] fun exponent =>
    (if exponent.upper then 'E' else 'e') :: exponent.text

theorem stripMinus_of_ne {cs : List Char} (h : ∀ c ∈ cs.head?, c ≠ '-') :
    stripMinus cs = (false, cs) := by
  rw [stripMinus]
  rintro unsigned rfl
  exact h '-' rfl rfl

theorem stripMinus_toString (number : PrintedNumber) :
    stripMinus number.toString.toList = (number.negative, number.unsigned) := by
  rw [toString, String.toList_ofList, List.append_assoc]
  cases number.negative with
  | true => rfl
  | false =>
    refine stripMinus_of_ne fun c hc => ?_
    rintro rfl
    cases hmantissa : number.mantissa with
    | nil =>
      cases hexponent : number.exponent with
      | none => simp [hmantissa, hexponent] at hc
      | some exponent =>
        cases hupper : exponent.upper <;> simp [hmantissa, hexponent, hupper] at hc
    | cons d ds =>
      obtain rfl : d = '-' := by simpa [hmantissa] using hc
      have hd : ('-').isDigit = true ∨ '-' = '.' := number.mem_mantissa (by simp [hmantissa])
      exact absurd hd (by decide)

theorem splitOnce_unsigned (number : PrintedNumber) :
    splitOnce (fun c => c == 'e' || c == 'E') number.unsigned =
      number.exponent.map fun exponent => (number.mantissa, exponent.text) := by
  have hmantissa : ∀ c ∈ number.mantissa, (c == 'e' || c == 'E') = false := by
    intro c hc
    cases mem_mantissa hc with
    | inl hdigit =>
      simp only [Bool.or_eq_false_iff, beq_eq_false_iff_ne]
      constructor <;> rintro rfl <;> exact absurd hdigit (by decide)
    | inr hpoint =>
      subst hpoint
      decide
  cases hexponent : number.exponent with
  | none =>
    rw [unsigned, hexponent, Option.elim_none, List.append_nil]
    exact splitOnce_eq_none hmantissa
  | some exponent =>
    rw [unsigned, hexponent, Option.elim_some]
    refine splitOnce_append hmantissa ?_
    cases exponent.upper <;> rfl

theorem splitOnce_mantissa (number : PrintedNumber) :
    (splitOnce (· == '.') number.mantissa).getD (number.mantissa, []) =
      (number.integer, number.fraction.getD []) := by
  have hinteger : ∀ c ∈ number.integer, (c == '.') = false := by
    intro c hc
    rw [beq_eq_false_iff_ne]
    rintro rfl
    exact absurd (number.integer_isDigit _ hc) (by decide)
  cases hfraction : number.fraction with
  | none =>
    rw [mantissa, hfraction, Option.elim_none, List.append_nil, splitOnce_eq_none hinteger]
    rfl
  | some digits =>
    rw [mantissa, hfraction, Option.elim_some, splitOnce_append hinteger (by rfl)]
    rfl

end PrintedNumber

theorem exists_isNormal {digits : List Char} (hdigits : ∀ c ∈ digits, c.isDigit = true)
    (hhead : ∀ c ∈ digits.head?, c ≠ '0') (hne : digits ≠ []) :
    ∃ core, IsNormal core ∧ digits = core ++ List.replicate (trailingZeros digits) '0' := by
  let core := (digits.reverse.dropWhile (· == '0')).reverse
  have hsplit : digits = core ++ List.replicate (trailingZeros digits) '0' := by
    have hzeros : (digits.reverse.takeWhile (· == '0')).reverse =
        List.replicate (trailingZeros digits) '0' := by
      rw [List.eq_replicate_iff]
      refine ⟨by simp [trailingZeros], fun c hc => ?_⟩
      simpa using List.mem_takeWhile_imp (List.mem_reverse.mp hc)
    rw [← hzeros, ← List.reverse_append, List.takeWhile_append_dropWhile, List.reverse_reverse]
  have hcore : core ≠ [] := by
    intro hempty
    rw [hempty, List.nil_append] at hsplit
    obtain ⟨c, cs, rfl⟩ := List.exists_cons_of_ne_nil hne
    have hmem : c ∈ List.replicate (trailingZeros (c :: cs)) '0' := hsplit ▸ List.mem_cons_self
    exact hhead c rfl (List.eq_of_mem_replicate hmem)
  refine ⟨core, ⟨?_, ?_, ?_, hcore⟩, hsplit⟩
  · intro c hc
    exact hdigits c (hsplit ▸ List.mem_append_left _ hc)
  · intro c hc
    refine hhead c ?_
    rw [hsplit, List.head?_append_of_ne_nil _ hcore]
    exact hc
  · intro c hc
    have hlast : c ∈ (digits.reverse.dropWhile (· == '0')).head? := by
      simpa [core, List.getLast?_reverse] using hc
    have hnot := List.head?_dropWhile_not (· == '0') digits.reverse
    rw [Option.mem_def.mp hlast] at hnot
    simpa using hnot

def decimalText (negative : Bool) (core : List Char) (power : Int) : String :=
  (if negative then "-" else "") ++ String.ofList core ++ "e" ++ ToString.toString power

inductive Canonical (number : PrintedNumber) : String → Prop
  | zero (h : number.value = 0) : Canonical number "0"
  | normal {core : List Char} {power : Int} (h : IsNormal core)
    (hvalue : number.value = Decimal.value number.negative core power)
    (hlength : core.length < 2 ^ 60) (hpower : power.natAbs < 2 ^ 60) :
    Canonical number (decimalText number.negative core power)

theorem canonicalDecimal_spec (number : PrintedNumber) :
    ∃ text, canonicalDecimal number.toString = some text ∧ Canonical number text := by
  have hsmall := number.small
  have hpower : number.power.natAbs < 2 ^ 63 := by
    rw [PrintedNumber.power]
    omega
  have hexponent : splitExponent number.unsigned =
      some (number.mantissa, number.exponent.elim 0 Exponent.value) := by
    rw [splitExponent, PrintedNumber.splitOnce_unsigned]
    cases hsome : number.exponent with
    | none => simp [PrintedNumber.unsigned, hsome]
    | some exponent =>
      have hvalue : exponent.value.natAbs < 2 ^ 63 := by
        rw [hsome] at hsmall
        simp only [Option.elim_some] at hsmall
        omega
      simp [exponent.parseI64_text hvalue]
  let digits := number.allDigits.dropWhile (· == '0')
  have hvalue : number.value = Decimal.value number.negative digits number.power :=
    (value_dropWhile _ _ _).symm
  have hunfold : canonicalDecimal number.toString =
      if digits = [] then some "0"
      else (checkedI64 (number.power + trailingZeros digits)).bind fun power =>
        some (decimalText number.negative (digits.take (digits.length - trailingZeros digits))
          power) := by
    simp only [canonicalDecimal, PrintedNumber.stripMinus_toString, hexponent,
      PrintedNumber.splitOnce_mantissa, Option.bind_eq_bind, Option.bind_some]
    rw [show checkedI64 (number.exponent.elim 0 Exponent.value - (number.fraction.getD []).length) =
      some number.power from checkedI64_eq_some hpower]
    rfl
  rw [hunfold]
  by_cases hempty : digits = []
  · refine ⟨"0", if_pos hempty, .zero ?_⟩
    rw [hvalue, hempty, Decimal.value]
    simp
  · have hdigits : ∀ c ∈ digits, c.isDigit = true := fun c hc =>
      PrintedNumber.allDigits_isDigit ((List.dropWhile_sublist _).subset hc)
    have hhead : ∀ c ∈ digits.head?, c ≠ '0' := by
      intro c hc
      have hnot := List.head?_dropWhile_not (· == '0') number.allDigits
      rw [show (number.allDigits.dropWhile (· == '0')).head? = some c from hc] at hnot
      simpa using hnot
    obtain ⟨core, hcore, hsplit⟩ := exists_isNormal hdigits hhead hempty
    have hlength : core.length + trailingZeros digits = digits.length := by
      conv_rhs => rw [hsplit]
      simp
    have hall : digits.length ≤ number.integer.length + (number.fraction.getD []).length := by
      have hdrop := (List.dropWhile_sublist (· == '0') (l := number.allDigits)).length_le
      rwa [PrintedNumber.allDigits, List.length_append] at hdrop
    have hbound : (number.power + trailingZeros digits).natAbs < 2 ^ 60 := by
      rw [PrintedNumber.power]
      omega
    have htake : digits.take (digits.length - trailingZeros digits) = core := by
      conv_lhs => rw [hsplit]
      exact List.take_left' (by rw [← hsplit]; omega)
    refine ⟨decimalText number.negative core (number.power + trailingZeros digits), ?_, ?_⟩
    · rw [if_neg hempty, checkedI64_eq_some (by omega), htake]
      rfl
    · refine .normal hcore ?_ (by omega) hbound
      rw [hvalue, ← value_append_zeros]
      conv_lhs => rw [hsplit]

theorem toList_decimalText (negative : Bool) (core : List Char) (power : Int) :
    (decimalText negative core power).toList =
      ((if negative then ['-'] else []) ++ core) ++ 'e' :: (ToString.toString power).toList := by
  cases negative <;> simp [decimalText]

theorem decimalText_inj {negative negative' : Bool} {core core' : List Char} {power power' : Int}
    (h : IsNormal core) (h' : IsNormal core')
    (heq : decimalText negative core power = decimalText negative' core' power') :
    negative = negative' ∧ core = core' ∧ power = power' := by
  have hlists := congrArg String.toList heq
  rw [toList_decimalText, toList_decimalText] at hlists
  have hfree : ∀ (negative : Bool) {core : List Char}, IsNormal core →
      'e' ∉ (if negative then ['-'] else []) ++ core := by
    intro negative core hcore hmem
    cases List.mem_append.mp hmem with
    | inl hsign => cases negative <;> simp at hsign
    | inr hdigit => exact absurd (hcore.isDigit _ hdigit) (by decide)
  have hfirst := Text.eq_of_append_cons (hfree negative h) (hfree negative' h') hlists
  rw [hfirst] at hlists
  have hpower := (List.cons.inj (List.append_cancel_left hlists)).2
  have hsign : ∀ {core : List Char} {rest : List Char}, IsNormal core → core ≠ '-' :: rest := by
    rintro core rest hcore rfl
    exact absurd (hcore.isDigit '-' List.mem_cons_self) (by decide)
  refine ⟨?_, ?_, Text.toString_int_injective (String.toList_inj.mp hpower)⟩
  · cases negative <;> cases negative' <;> simp at hfirst ⊢
    · exact hsign h hfirst
    · exact hsign h' hfirst.symm
  · cases negative <;> cases negative' <;> simp at hfirst
    · exact hfirst
    · exact absurd hfirst (hsign h)
    · exact absurd hfirst.symm (hsign h')
    · exact hfirst

theorem decimalText_ne_zero (negative : Bool) (core : List Char) (power : Int) :
    decimalText negative core power ≠ "0" := by
  intro h
  have hmem : 'e' ∈ (decimalText negative core power).toList := by
    simp [toList_decimalText]
  rw [h] at hmem
  exact absurd hmem (by decide)

namespace Canonical

variable {m n : PrintedNumber} {s t : String}

theorem eq_iff (hm : Canonical m s) (hn : Canonical n t) : s = t ↔ m.value = n.value := by
  cases hm with
  | zero hm =>
    cases hn with
    | zero hn => simp [hm, hn]
    | normal h hvalue _ _ =>
      rw [hm, hvalue]
      exact iff_of_false (decimalText_ne_zero _ _ _).symm (h.value_ne_zero _ _).symm
  | normal h hvalue _ _ =>
    cases hn with
    | zero hn =>
      rw [hn, hvalue]
      exact iff_of_false (decimalText_ne_zero _ _ _) (h.value_ne_zero _ _)
    | normal h' hvalue' _ _ =>
      rw [hvalue, hvalue', h.value_inj h']
      constructor
      · exact decimalText_inj h h'
      · rintro ⟨hnegative, rfl, rfl⟩
        rw [hnegative]

theorem utf8ByteSize_lt (hm : Canonical m s) : s.utf8ByteSize < 2 ^ 64 := by
  have hchars : ∀ cs : List Char, String.utf8Len cs ≤ 4 * cs.length := by
    intro cs
    induction cs with
    | nil => simp
    | cons c cs ih =>
      have hc := c.utf8Size_le_four
      rw [String.utf8Len_cons, List.length_cons]
      omega
  cases hm with
  | zero => decide
  | @normal core power h hvalue hlength hpower =>
    have hnumeral : (ToString.toString power).toList.length ≤ 21 := by
      have hdigits : ∀ k : Nat, k < 10 ^ 20 → (ToString.toString k).toList.length ≤ 20 := by
        intro k hk
        rw [Text.toList_toString]
        exact (Nat.length_toDigits_le_iff (by decide) (by decide)).mpr hk
      cases power with
      | ofNat k =>
        have hk : k < 2 ^ 60 := hpower
        exact (hdigits k (by omega)).trans (by decide)
      | negSucc k =>
        have hk : k + 1 < 2 ^ 60 := hpower
        have hk := hdigits (k + 1) (by omega)
        rw [Text.toString_negSucc, String.toList_append, List.length_append]
        exact Nat.add_comm _ _ ▸ Nat.add_le_add hk (by decide : "-".toList.length ≤ 1)
    have hsize := hchars (decimalText m.negative core power).toList
    rw [← utf8ByteSize_eq_utf8Len] at hsize
    have htotal : (decimalText m.negative core power).toList.length ≤ core.length + 23 := by
      rw [toList_decimalText, List.length_append, List.length_append, List.length_cons]
      cases m.negative <;> simp only [if_true, if_false, List.length_singleton, List.length_nil,
        Bool.false_eq_true] <;> omega
    omega

end Canonical

theorem byteOrder_inj {s t : String} : byteOrder s = byteOrder t ↔ s = t := by
  rw [byteOrder, byteOrder, ← asBytes_inj]
  exact List.map_inj_right fun _ _ => UInt8.toNat.inj

theorem canonical_getD (number : PrintedNumber) :
    Canonical number ((canonicalDecimal number.toString).getD "") := by
  obtain ⟨text, htext, hcanonical⟩ := canonicalDecimal_spec number
  rw [htext]
  exact hcanonical

theorem lengthPrefixed_text_append_inj {s t : String} {rest rest' : List UInt8}
    (hs : s.utf8ByteSize < 2 ^ 64) (ht : t.utf8ByteSize < 2 ^ 64)
    (h : lengthPrefixed (asBytes s) ++ rest = lengthPrefixed (asBytes t) ++ rest') :
    s = t ∧ rest = rest' := by
  obtain ⟨hbytes, hrest⟩ := lengthPrefixed_append_inj (by simpa using hs) (by simpa using ht) h
  exact ⟨asBytes_inj.mp hbytes, hrest⟩

def Value.tag : Value → UInt8
  | .null => 110
  | .bool _ => 98
  | .number _ => 100
  | .string _ => 115
  | .array _ => 91
  | .object _ => 123

def Value.body : Value → List UInt8
  | .null => []
  | .bool value => [if value then 49 else 48]
  | .number value => lengthPrefixed (asBytes ((canonicalDecimal value.toString).getD ""))
  | .string value => lengthPrefixed (asBytes value)
  | .array values => bigEndian64 values.length ++ canonicalItems values ++ [93]
  | .object values =>
    bigEndian64 values.length ++ encodeEntries (canonicalEntries values) ++ [125]

theorem canonicalJson_eq_cons (value : Value) : canonicalJson value = value.tag :: value.body := by
  cases value with
  | null => rfl
  | bool value => cases value <;> rfl
  | number value => rfl
  | string value => rfl
  | array values =>
    rw [canonicalJson, show asBytes "[" = [91] from rfl, show asBytes "]" = [93] from rfl]
    rfl
  | object values =>
    rw [canonicalJson, show asBytes "\x7b" = [123] from rfl, show asBytes "\x7d" = [125] from rfl]
    rfl

/-- Whatever follows it, a value can be told from the others up to what it says. -/
def Recoverable (a : Value) : Prop :=
  ∀ b : Value, b.Valid → ∀ rest rest', canonicalJson a ++ rest = canonicalJson b ++ rest' →
    Same a b ∧ rest = rest'

theorem recoverable_of_body {a : Value} (h : ∀ b : Value, b.Valid → a.tag = b.tag →
    ∀ rest rest', a.body ++ rest = b.body ++ rest' → Same a b ∧ rest = rest') : Recoverable a := by
  intro b hb rest rest' heq
  rw [canonicalJson_eq_cons, canonicalJson_eq_cons, List.cons_append, List.cons_append] at heq
  obtain ⟨htag, hbody⟩ := List.cons.inj heq
  exact h b hb htag rest rest' hbody

theorem validEntries_iff {values : List (String × Value)} :
    ValidEntries values ↔ ∀ entry ∈ values, entry.1.utf8ByteSize < 2 ^ 64 ∧ entry.2.Valid := by
  induction values with
  | nil => simp [ValidEntries]
  | cons entry values ih => simp [ValidEntries, ih, and_assoc]

theorem canonicalEntries_eq_map (values : List (String × Value)) :
    canonicalEntries values = values.map fun entry => (entry.1, canonicalJson entry.2) := by
  induction values with
  | nil => rfl
  | cons entry values ih =>
    obtain ⟨key, value⟩ := entry
    rw [canonicalEntries, ih, List.map_cons]

section Entries

variable {entries entries' : List (String × List UInt8)}

theorem sortEntries_perm (entries : List (String × List UInt8)) :
    (sortEntries entries).Perm entries := sortOn_perm _ entries

theorem sortEntries_eq (h : entries.Perm entries') (hnodup : (entries.map Prod.fst).Nodup) :
    sortEntries entries = sortEntries entries' := by
  have hkeys : (entries.map fun entry => byteOrder entry.1).Nodup := by
    have hmap := hnodup.map (f := byteOrder) fun _ _ => byteOrder_inj.mp
    rwa [List.map_map] at hmap
  exact (sortOn_eq (h.symm.trans (sortEntries_perm entries).symm).symm
    (pairwise_lt_sortOn hkeys)).symm

theorem flatMap_append_inj
    (h : ∀ entry ∈ entries, entry.1.utf8ByteSize < 2 ^ 64 ∧
      ∃ a, Recoverable a ∧ entry.2 = canonicalJson a)
    (h' : ∀ entry ∈ entries', entry.1.utf8ByteSize < 2 ^ 64 ∧
      ∃ b : Value, b.Valid ∧ entry.2 = canonicalJson b)
    (hlength : entries.length = entries'.length) {rest rest' : List UInt8}
    (heq : entries.flatMap (fun entry => lengthPrefixed (asBytes entry.1) ++ entry.2) ++ rest =
      entries'.flatMap (fun entry => lengthPrefixed (asBytes entry.1) ++ entry.2) ++ rest') :
    entries = entries' ∧ rest = rest' := by
  induction entries generalizing entries' with
  | nil =>
    obtain rfl : entries' = [] := List.length_eq_zero_iff.mp hlength.symm
    exact ⟨rfl, heq⟩
  | cons entry entries ih =>
    cases entries' with
    | nil => simp at hlength
    | cons entry' entries' =>
      obtain ⟨⟨hkey, a, ha, hbytes⟩, htail⟩ := List.forall_mem_cons.mp h
      obtain ⟨⟨hkey', b, hb, hbytes'⟩, htail'⟩ := List.forall_mem_cons.mp h'
      simp only [List.flatMap_cons, List.append_assoc] at heq
      obtain ⟨hname, heq⟩ := lengthPrefixed_text_append_inj hkey hkey' heq
      have hafter := heq
      rw [hbytes, hbytes'] at hafter
      obtain ⟨_, hrest⟩ := ha b hb _ _ hafter
      rw [hrest] at heq
      have hvalue := List.append_cancel_right heq
      obtain ⟨htails, hlast⟩ := ih htail htail' (by simpa using hlength) hrest
      exact ⟨by rw [Prod.ext hname hvalue, htails], hlast⟩

end Entries

theorem sameEntries_of_map_eq {as bs : List (String × Value)}
    (h : ∀ entry ∈ as, Recoverable entry.2) (h' : ∀ entry ∈ bs, entry.2.Valid)
    (heq : List.Forall₂ (fun encoded entry => encoded = (entry.1, canonicalJson entry.2))
      (canonicalEntries bs) as) : SameEntries as bs := by
  induction bs generalizing as with
  | nil =>
    cases heq
    exact .nil
  | cons b bs ih =>
    obtain ⟨key, value⟩ := b
    rw [canonicalEntries] at heq
    cases heq with
    | @cons _ a _ as hhead htail =>
      obtain ⟨name, other⟩ := a
      obtain ⟨rfl, hvalue⟩ := Prod.mk.inj hhead
      obtain ⟨ha, has⟩ := List.forall_mem_cons.mp h
      obtain ⟨hb, hbs⟩ := List.forall_mem_cons.mp h'
      have hsame := (ha value hb [] [] (by rw [hvalue])).1
      exact .cons hsame (ih has hbs htail)

theorem recoverable_object {as : List (String × Value)} (hvalid : (Value.object as).Valid)
    (h : ∀ entry ∈ as, Recoverable entry.2) : Recoverable (.object as) := by
  refine recoverable_of_body fun b hb htag rest rest' heq => ?_
  cases b with
  | object bs =>
    obtain ⟨hlength, _, has⟩ := hvalid
    obtain ⟨hlength', _, hbs⟩ := hb
    simp only [Value.body, List.append_assoc] at heq
    obtain ⟨hcount, heq⟩ := bigEndian64_append_inj hlength hlength' heq
    have hentries : ∀ entry ∈ sortEntries (canonicalEntries as), entry.1.utf8ByteSize < 2 ^ 64 ∧
        ∃ a, Recoverable a ∧ entry.2 = canonicalJson a := by
      intro entry hentry
      rw [(sortEntries_perm _).mem_iff, canonicalEntries_eq_map, List.mem_map] at hentry
      obtain ⟨member, hmember, rfl⟩ := hentry
      exact ⟨(validEntries_iff.mp has member hmember).1, member.2, h member hmember, rfl⟩
    have hentries' : ∀ entry ∈ sortEntries (canonicalEntries bs), entry.1.utf8ByteSize < 2 ^ 64 ∧
        ∃ b : Value, b.Valid ∧ entry.2 = canonicalJson b := by
      intro entry hentry
      rw [(sortEntries_perm _).mem_iff, canonicalEntries_eq_map, List.mem_map] at hentry
      obtain ⟨member, hmember, rfl⟩ := hentry
      have hvalid := validEntries_iff.mp hbs member hmember
      exact ⟨hvalid.1, member.2, hvalid.2, rfl⟩
    have hlengths : (sortEntries (canonicalEntries as)).length =
        (sortEntries (canonicalEntries bs)).length := by
      rw [(sortEntries_perm _).length_eq, (sortEntries_perm _).length_eq, canonicalEntries_eq_map,
        canonicalEntries_eq_map, List.length_map, List.length_map, hcount]
    obtain ⟨hsorted, hrest⟩ := flatMap_append_inj hentries hentries' hlengths heq
    have hperm : (canonicalEntries bs).Perm (canonicalEntries as) :=
      (sortEntries_perm _).symm.trans (hsorted ▸ sortEntries_perm _)
    have hencoded : List.Forall₂ (fun encoded entry => encoded = (entry.1, canonicalJson entry.2))
        (canonicalEntries as) as := by
      rw [canonicalEntries_eq_map, List.forall₂_map_left_iff]
      exact List.forall₂_same.mpr fun _ _ => rfl
    obtain ⟨mid, hmid, hperm⟩ := List.perm_comp_forall₂ hperm hencoded
    refine ⟨.object hperm.symm (sameEntries_of_map_eq ?_ ?_ hmid), (List.cons.inj hrest).2⟩
    · intro entry hentry
      exact h entry (hperm.mem_iff.mp hentry)
    · intro entry hentry
      exact (validEntries_iff.mp hbs entry hentry).2
  | _ => cases htag

mutual

theorem recoverable : (a : Value) → a.Valid → Recoverable a
  | .null, _ => recoverable_of_body fun b _ htag rest rest' heq => by
    cases b with
    | null => exact ⟨.null, heq⟩
    | _ => cases htag
  | .bool value, _ => recoverable_of_body fun b _ htag rest rest' heq => by
    cases b with
    | bool other =>
      obtain ⟨hbyte, hrest⟩ := List.cons.inj heq
      obtain rfl : value = other := by
        cases value <;> cases other <;> first | rfl | cases hbyte
      exact ⟨.bool value, hrest⟩
    | _ => cases htag
  | .number value, _ => recoverable_of_body fun b _ htag rest rest' heq => by
    cases b with
    | number other =>
      have hcanonical := canonical_getD value
      have hcanonical' := canonical_getD other
      obtain ⟨htext, hrest⟩ := lengthPrefixed_text_append_inj hcanonical.utf8ByteSize_lt
        hcanonical'.utf8ByteSize_lt heq
      exact ⟨.number ((hcanonical.eq_iff hcanonical').mp htext), hrest⟩
    | _ => cases htag
  | .string value, hvalid => recoverable_of_body fun b hb htag rest rest' heq => by
    cases b with
    | string other =>
      obtain ⟨rfl, hrest⟩ := lengthPrefixed_text_append_inj hvalid hb heq
      exact ⟨.string value, hrest⟩
    | _ => cases htag
  | .array values, hvalid => recoverable_of_body fun b hb htag rest rest' heq => by
    cases b with
    | array others =>
      simp only [Value.body, List.append_assoc] at heq
      obtain ⟨hlength, heq⟩ := bigEndian64_append_inj hvalid.1 hb.1 heq
      obtain ⟨hitems, hrest⟩ := recoverable_items values hvalid.2 others hb.2 hlength heq
      exact ⟨.array hitems, (List.cons.inj hrest).2⟩
    | _ => cases htag
  | .object values, hvalid =>
    recoverable_object hvalid (recoverable_entries values hvalid.2.2)

theorem recoverable_items : (as : List Value) → ValidItems as → ∀ bs, ValidItems bs →
    as.length = bs.length → ∀ {rest rest' : List UInt8},
    canonicalItems as ++ rest = canonicalItems bs ++ rest' → SameItems as bs ∧ rest = rest'
  | [], _, bs, _, hlength, rest, rest', heq => by
    obtain rfl : bs = [] := List.length_eq_zero_iff.mp hlength.symm
    exact ⟨.nil, heq⟩
  | a :: as, hvalid, [], _, hlength, _, _, _ => by simp at hlength
  | a :: as, hvalid, b :: bs, hvalid', hlength, rest, rest', heq => by
    rw [canonicalItems, canonicalItems, List.append_assoc, List.append_assoc] at heq
    obtain ⟨hsame, heq⟩ := recoverable a hvalid.1 b hvalid'.1 _ _ heq
    obtain ⟨hitems, hrest⟩ := recoverable_items as hvalid.2 bs hvalid'.2 (by simpa using hlength) heq
    exact ⟨.cons hsame hitems, hrest⟩

theorem recoverable_entries : (as : List (String × Value)) → ValidEntries as →
    ∀ entry ∈ as, Recoverable entry.2
  | [], _, entry, hentry => by simp at hentry
  | (key, value) :: as, hvalid, entry, hentry => by
    cases hentry with
    | head => exact recoverable value hvalid.2.1
    | tail _ hmem => exact recoverable_entries as hvalid.2.2 entry hmem

end

mutual

theorem Same.canonicalJson_eq : {a b : Value} → Same a b → a.Valid →
    canonicalJson a = canonicalJson b
  | _, _, .null, _ => rfl
  | _, _, .bool _, _ => rfl
  | _, _, .number h, _ => by
    rw [canonicalJson, canonicalJson, ((canonical_getD _).eq_iff (canonical_getD _)).mpr h]
  | _, _, .string _, _ => rfl
  | _, _, .array h, hvalid => by
    obtain ⟨hitems, hlength⟩ := h.canonicalItems_eq hvalid.2
    rw [canonicalJson, canonicalJson, hitems, hlength]
  | _, _, @Same.object as mid bs hperm h, hvalid => by
    have hmid : ValidEntries mid := validEntries_iff.mpr fun entry hentry =>
      validEntries_iff.mp hvalid.2.2 entry (hperm.mem_iff.mpr hentry)
    have hentries := h.canonicalEntries_eq hmid
    have hpermed : (canonicalEntries as).Perm (canonicalEntries bs) := by
      rw [← hentries, canonicalEntries_eq_map, canonicalEntries_eq_map]
      exact hperm.map _
    have hnodup : ((canonicalEntries as).map Prod.fst).Nodup := by
      rw [canonicalEntries_eq_map, List.map_map]
      exact hvalid.2.1
    have hlength : as.length = bs.length := by
      have hlengths := hpermed.length_eq
      rwa [canonicalEntries_eq_map, canonicalEntries_eq_map, List.length_map,
        List.length_map] at hlengths
    rw [canonicalJson, canonicalJson, encodeEntries, encodeEntries, sortEntries_eq hpermed hnodup,
      hlength]

theorem SameItems.canonicalItems_eq : {as bs : List Value} → SameItems as bs → ValidItems as →
    canonicalItems as = canonicalItems bs ∧ as.length = bs.length
  | _, _, .nil, _ => ⟨rfl, rfl⟩
  | _, _, .cons h hs, hvalid => by
    obtain ⟨hitems, hlength⟩ := hs.canonicalItems_eq hvalid.2
    exact ⟨by rw [canonicalItems, canonicalItems, h.canonicalJson_eq hvalid.1, hitems],
      congrArg Nat.succ hlength⟩

theorem SameEntries.canonicalEntries_eq : {as bs : List (String × Value)} → SameEntries as bs →
    ValidEntries as → canonicalEntries as = canonicalEntries bs
  | _, _, .nil, _ => rfl
  | _, _, .cons h hs, hvalid => by
    rw [canonicalEntries, canonicalEntries, h.canonicalJson_eq hvalid.2.1,
      hs.canonicalEntries_eq hvalid.2.2]

end

/-- The digest of a document is taken of what it says, and of nothing else. -/
theorem canonicalJson_eq_iff (a b : Document) :
    canonicalJson a.value = canonicalJson b.value ↔ Same a.value b.value := by
  constructor
  · intro h
    exact (recoverable a.value a.valid b.value b.valid [] [] (by rw [h])).1
  · intro h
    exact h.canonicalJson_eq a.valid

def fifteenHundred : PrintedNumber where
  negative := false
  integer := ['1', '5', '0', '0']
  fraction := none
  exponent := none
  integer_isDigit := by simp
  fraction_isDigit := by simp
  small := by decide

def onePointFiveE3 : PrintedNumber where
  negative := false
  integer := ['1']
  fraction := some ['5']
  exponent := some ⟨false, some false, ['3'], by simp, by decide⟩
  integer_isDigit := by simp
  fraction_isDigit := by simp
  small := by decide

def bitrateAndTags : Document where
  value := .object [("Bitrate", .number fifteenHundred), ("Tags", .array [])]
  valid := ⟨by decide, by decide, by decide, trivial, by decide, ⟨by decide, trivial⟩, trivial⟩

def tagsAndBitrate : Document where
  value := .object [("Tags", .array []), ("Bitrate", .number onePointFiveE3)]
  valid := ⟨by decide, by decide, by decide, ⟨by decide, trivial⟩, by decide, trivial, trivial⟩

theorem same_of_spellings :
    Same bitrateAndTags.value tagsAndBitrate.value :=
  (canonicalJson_eq_iff _ _).mp (by decide +kernel)
end Jellyrin.Migrate
