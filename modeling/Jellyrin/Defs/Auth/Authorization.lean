import Jellyrin.Defs.Data.JsonObject
import Jellyrin.Defs.Data.Separated
import Jellyrin.Defs.Data.Utf8

/-! The pairs of an authorization header. -/

namespace Jellyrin.Auth

open Ascii Json Text

/-! Reading. -/

def hexValue (value : UInt8) : Option UInt8 :=
  if 48 ≤ value ∧ value ≤ 57 then some (value - 48)
  else if 97 ≤ value ∧ value ≤ 102 then some (value - 97 + 10)
  else if 65 ≤ value ∧ value ≤ 70 then some (value - 65 + 10)
  else none

def hexPair (high low : UInt8) : Option UInt8 :=
  match hexValue high, hexValue low with
  | some high, some low => some ((high <<< 4) ||| low)
  | _, _ => none

/-- The loop of `decode_media_browser_value`: `+` is a blank, and `%` stands before two digits
that follow it. -/
def decodeBytes : List UInt8 → List UInt8
  | 37 :: high :: low :: bytes =>
    match hexPair high low with
    | some byte => byte :: decodeBytes bytes
    | none => 37 :: decodeBytes (high :: low :: bytes)
  | byte :: bytes => (if byte = 43 then 32 else byte) :: decodeBytes bytes
  | [] => []

def decodeMediaBrowserValue (value : String) : String :=
  (String.fromUTF8? ⟨(decodeBytes (asBytes value)).toArray⟩).getD value

def parseMediaBrowserPair (part : String) : Option (String × String) :=
  (splitOnce (· == '=') (trim part).toList).map fun (key, value) =>
    (toAsciiLowercase (trim (String.ofList key)),
      decodeMediaBrowserValue (trimMatches '"' (trim (String.ofList value))))

def parseMediaBrowserPairs (header : String) : List (String × String) :=
  let payload := ((stripPrefix header "MediaBrowser ").or (stripPrefix header "Emby ")).getD header
  (split ',' payload).filterMap parseMediaBrowserPair

def parseAuthorizationToken (header : String) : Option String :=
  (parseMediaBrowserPairs header).findSome? fun (key, value) =>
    if key = "token" then some value else none

/-! Writing. -/

def IsIdentifier (key : String) : Prop :=
  key ≠ "" ∧ ∀ c ∈ key.toList, c.isAlphanum = true ∨ c = '_'

def IsPlain (value : String) : Prop := ∀ c ∈ ['"', '%', '+'], c ∉ value.toList

structure AuthorizationPair where
  key : String
  value : String
  isIdentifier : IsIdentifier key
  isPlain : IsPlain value

def AuthorizationPair.render (pair : AuthorizationPair) : String :=
  pair.key ++ "=" ++ "\"" ++ pair.value ++ "\""

def mediaBrowserHeader (pairs : List AuthorizationPair) : String :=
  "MediaBrowser " ++ ", ".intercalate (pairs.map AuthorizationPair.render)

/-! Decoding changes nothing in a plain value. -/

theorem decodeBytes_of_notMem {bytes : List UInt8} (hpercent : 37 ∉ bytes) (hplus : 43 ∉ bytes) :
    decodeBytes bytes = bytes := by
  induction bytes with
  | nil => rfl
  | cons byte bytes ih =>
    rw [List.mem_cons, not_or] at hpercent hplus
    have hpass : decodeBytes (byte :: bytes) =
        (if byte = 43 then 32 else byte) :: decodeBytes bytes := by
      rw [decodeBytes]
      rintro high low rest rfl -
      exact absurd rfl hpercent.1
    rw [hpass, if_neg (Ne.symm hplus.1), ih hpercent.2 hplus.2]

theorem notMem_asBytes {s : String} {c : Char} (hc : c.toNat < 128) (h : c ∉ s.toList) :
    UInt8.ofNat c.toNat ∉ asBytes s := by
  have hbyte : (UInt8.ofNat c.toNat).toNat = c.toNat := by
    rw [UInt8.toNat_ofNat']
    omega
  intro hmem
  obtain ⟨d, hd, hcode⟩ := exists_of_mem_asBytes hmem (by omega)
  rw [hbyte] at hcode
  exact h (Char.toNat_inj.mp hcode ▸ hd)

theorem decodeMediaBrowserValue_of_isPlain {value : String} (hpercent : '%' ∉ value.toList)
    (hplus : '+' ∉ value.toList) : decodeMediaBrowserValue value = value := by
  have hbytes : decodeBytes (asBytes value) = asBytes value :=
    decodeBytes_of_notMem (notMem_asBytes (c := '%') (by decide) hpercent)
      (notMem_asBytes (c := '+') (by decide) hplus)
  rw [decodeMediaBrowserValue, hbytes, fromUTF8?_asBytes, Option.getD_some]

/-! One pair. -/

theorem IsIdentifier.notMem {key : String} (h : IsIdentifier key) {c : Char}
    (hc : c.isAlphanum = false) (hne : c ≠ '_') : c ∉ key.toList := by
  intro hmem
  cases h.2 c hmem with
  | inl halnum => exact absurd halnum (by simp [hc])
  | inr heq => exact hne heq

theorem isWhitespace_of_isAlphanum {c : Char} (h : c.isAlphanum = true) :
    isWhitespace c = false := by
  have hrange : 48 ≤ c.toNat ∧ c.toNat ≤ 57 ∨ 65 ≤ c.toNat ∧ c.toNat ≤ 90 ∨
      97 ≤ c.toNat ∧ c.toNat ≤ 122 := by
    have hforms : ((decide ('A'.val ≤ c.val ∧ c.val ≤ 'Z'.val) ||
        decide ('a'.val ≤ c.val) && decide (c.val ≤ 'z'.val)) ||
          decide ('0'.val ≤ c.val) && decide (c.val ≤ '9'.val)) = true := h
    simp only [Bool.or_eq_true, Bool.and_eq_true, decide_eq_true_eq,
      UInt32.le_iff_toNat_le] at hforms
    exact hforms.elim (fun hletter => .inr hletter) .inl
  simp only [isWhitespace, Bool.or_eq_false_iff, Bool.and_eq_false_iff, decide_eq_false_iff_not,
    beq_eq_false_iff_ne]
  omega

theorem IsIdentifier.filled {key : String} (h : IsIdentifier key) : Filled key := by
  refine ⟨trim_of_forall fun c hc => ?_, h.1⟩
  cases h.2 c hc with
  | inl halnum => exact isWhitespace_of_isAlphanum halnum
  | inr heq =>
    rw [heq]
    decide

namespace AuthorizationPair

variable (pair : AuthorizationPair)

theorem filled_render : Filled pair.render := by
  have hend : EndsFilled "\"" := by decide
  have hrest : EndsFilled ("=" ++ ("\"" ++ (pair.value ++ "\""))) :=
    ((hend.append _).append _).append _
  simp only [render, String.append_assoc]
  exact pair.isIdentifier.filled.append hrest

theorem toList_render :
    pair.render.toList = pair.key.toList ++ '=' :: '"' :: (pair.value.toList ++ ['"']) := by
  simp [render]

theorem trim_value : trim (String.ofList ('"' :: pair.value.toList ++ ['"'])) =
    String.ofList ('"' :: pair.value.toList ++ ['"']) := by
  have hquotes : String.ofList ('"' :: pair.value.toList ++ ['"']) =
      "\"" ++ (pair.value ++ "\"") := by
    rw [String.ext_iff]
    simp
  rw [hquotes]
  have hfilled : Filled "\"" := by decide
  exact (hfilled.append (EndsFilled.append (by decide) _)).1

theorem parseMediaBrowserPair_render :
    parseMediaBrowserPair pair.render = some (toAsciiLowercase pair.key, pair.value) := by
  have hkey : ∀ c ∈ pair.key.toList, (c == '=') = false := by
    intro c hc
    rw [beq_eq_false_iff_ne]
    rintro rfl
    exact pair.isIdentifier.notMem (by decide) (by decide) hc
  have hplain : ∀ c ∈ ['"', '%', '+'], c ∉ pair.value.toList := pair.isPlain
  have hvalue : decodeMediaBrowserValue (trimMatches '"'
      (String.ofList ('"' :: pair.value.toList ++ ['"']))) = pair.value := by
    rw [trimMatches_enclosed (hplain '"' (by simp)),
      decodeMediaBrowserValue_of_isPlain (hplain '%' (by simp)) (hplain '+' (by simp))]
  rw [parseMediaBrowserPair, pair.filled_render.1, toList_render,
    splitOnce_append hkey (by simp), Option.map_some]
  simp only
  rw [String.ofList_toList, pair.isIdentifier.filled.1, ← List.cons_append, trim_value, hvalue]

end AuthorizationPair

theorem parseMediaBrowserPair_blank (part : String) :
    parseMediaBrowserPair (" " ++ part) = parseMediaBrowserPair part := by
  have htrim : trim (" " ++ part) = trim part := by
    rw [trim, String.toList_append, show " ".toList = [' '] from rfl, List.singleton_append,
      List.dropWhile_cons_of_pos (by decide)]
    rfl
  rw [parseMediaBrowserPair, htrim, parseMediaBrowserPair]

/-! The pairs of a header. -/

theorem intercalate_blank (part : String) (parts : List String) :
    ", ".intercalate (part :: parts) = ",".intercalate (part :: parts.map (" " ++ ·)) := by
  induction parts generalizing part with
  | nil => simp
  | cons next parts ih =>
    have hlater : ",".intercalate ((" " ++ next) :: parts.map (" " ++ ·)) =
        " " ++ ",".intercalate (next :: parts.map (" " ++ ·)) := by
      rw [← String.intercalate_cons_append]
    have hsep : (", " : String) = "," ++ " " := by decide
    rw [String.intercalate_cons_cons, ih, List.map_cons, String.intercalate_cons_cons, hlater, hsep]
    simp only [String.append_assoc]

theorem parseMediaBrowserPairs_header (pairs : List AuthorizationPair) :
    parseMediaBrowserPairs (mediaBrowserHeader pairs) =
      (split ',' (", ".intercalate (pairs.map AuthorizationPair.render))).filterMap
        parseMediaBrowserPair := by
  rw [parseMediaBrowserPairs, mediaBrowserHeader, stripPrefix_append, Option.some_or,
    Option.getD_some]

theorem comma_notMem_render {pair : AuthorizationPair} (h : ',' ∉ pair.value.toList) :
    ',' ∉ pair.render.toList := by
  have hkey : ',' ∉ pair.key.toList := pair.isIdentifier.notMem (by decide) (by decide)
  rw [pair.toList_render]
  simp [h, hkey]

theorem parseMediaBrowserPairs_of_forall {pairs : List AuthorizationPair}
    (h : ∀ pair ∈ pairs, ',' ∉ pair.value.toList) :
    parseMediaBrowserPairs (mediaBrowserHeader pairs) =
      pairs.map fun pair => (toAsciiLowercase pair.key, pair.value) := by
  rw [parseMediaBrowserPairs_header]
  cases pairs with
  | nil => decide
  | cons pair pairs =>
    have hparts : ∀ part ∈ pair.render :: (pairs.map AuthorizationPair.render).map (" " ++ ·),
        ',' ∉ part.toList := by
      intro part hpart
      obtain rfl | hpart := List.mem_cons.mp hpart
      · exact comma_notMem_render (h pair List.mem_cons_self)
      · rw [List.map_map, List.mem_map] at hpart
        obtain ⟨later, hlater, rfl⟩ := hpart
        have hcomma := comma_notMem_render (h later (List.mem_cons_of_mem _ hlater))
        simpa using hcomma
    have hsep : (",") = String.singleton ',' := by decide
    have hlater : ∀ later : AuthorizationPair, parseMediaBrowserPair (" " ++ later.render) =
        some (toAsciiLowercase later.key, later.value) := fun later =>
      (parseMediaBrowserPair_blank _).trans later.parseMediaBrowserPair_render
    have hsplit := split_intercalate ',' hparts (by simp)
    rw [List.map_cons, intercalate_blank, hsep, hsplit,
      List.filterMap_cons_some pair.parseMediaBrowserPair_render, List.map_map,
      List.filterMap_map, List.map_cons]
    simp only [Function.comp_def, hlater, List.filterMap_eq_map']

theorem mem_of_mem_payload {header start other : String} {c : Char}
    (hc : c ∈ (((stripPrefix header start).or (stripPrefix header other)).getD header).toList) :
    c ∈ header.toList := by
  cases hstart : stripPrefix header start with
  | some rest =>
    rw [hstart] at hc
    exact mem_of_stripPrefix hstart hc
  | none =>
    rw [hstart, Option.none_or] at hc
    cases hother : stripPrefix header other with
    | some rest =>
      rw [hother] at hc
      exact mem_of_stripPrefix hother hc
    | none =>
      rw [hother] at hc
      exact hc

theorem comma_notMem_of_mem {header key value : String} (hpercent : '%' ∉ header.toList)
    (hplus : '+' ∉ header.toList) (h : (key, value) ∈ parseMediaBrowserPairs header) :
    ',' ∉ value.toList := by
  simp only [parseMediaBrowserPairs, List.mem_filterMap] at h
  obtain ⟨part, hpart, hpair⟩ := h
  obtain ⟨⟨before, after⟩, hsplit, hpair⟩ := Option.map_eq_some_iff.mp hpair
  obtain ⟨sep, -, heq, -⟩ := splitOnce_eq_some hsplit
  have hmem : ∀ c ∈ (trimMatches '"' (trim (String.ofList after))).toList, c ∈ part.toList := by
    intro c hc
    have hafter := mem_of_mem_trim (mem_of_mem_trimMatches hc)
    rw [String.toList_ofList] at hafter
    refine mem_of_mem_trim (s := part) ?_
    rw [heq]
    exact List.mem_append_right _ (List.mem_cons_of_mem _ hafter)
  have hdecoded := decodeMediaBrowserValue_of_isPlain
    (fun hc => hpercent (mem_of_mem_payload (mem_of_mem_split hpart (hmem _ hc))))
    (fun hc => hplus (mem_of_mem_payload (mem_of_mem_split hpart (hmem _ hc))))
  obtain ⟨-, hvalue⟩ := Prod.mk.inj hpair
  rw [← hvalue, hdecoded]
  exact fun hc => notMem_of_mem_split hpart (hmem _ hc)

theorem notMem_header (pairs : List AuthorizationPair) {c : Char} (hc : c ∈ ['%', '+']) :
    c ∉ (mediaBrowserHeader pairs).toList := by
  have hplain : c ∈ ['"', '%', '+'] := List.mem_cons_of_mem _ hc
  have hother : c.isAlphanum = false ∧ c ≠ '_' ∧ c ≠ '=' ∧ c ≠ '"' ∧
      c ∉ ", ".toList ∧ c ∉ "MediaBrowser ".toList := by
    simp only [List.mem_cons, List.not_mem_nil, or_false] at hc
    obtain rfl | rfl := hc <;> decide
  obtain ⟨halnum, hunder, hequals, hquote, hsep, hscheme⟩ := hother
  intro hmem
  rw [mediaBrowserHeader, String.toList_append, List.mem_append] at hmem
  obtain hmem | hmem := hmem
  · exact hscheme hmem
  · obtain hmem | ⟨part, hpart, hmem⟩ := mem_intercalate hmem
    · exact hsep hmem
    · obtain ⟨pair, -, rfl⟩ := List.mem_map.mp hpart
      have hkey := pair.isIdentifier.notMem halnum hunder
      have hvalue : c ∉ pair.value.toList := pair.isPlain c hplain
      rw [pair.toList_render] at hmem
      simp [hkey, hvalue, hequals, hquote] at hmem

/-- A header gives its pairs back if and only if no value has a comma. -/
theorem parseMediaBrowserPairs_header_iff (pairs : List AuthorizationPair) :
    parseMediaBrowserPairs (mediaBrowserHeader pairs) =
        pairs.map (fun pair => (toAsciiLowercase pair.key, pair.value)) ↔
      ∀ pair ∈ pairs, ',' ∉ pair.value.toList := by
  constructor
  · intro h pair hpair
    have hread : (toAsciiLowercase pair.key, pair.value) ∈
        parseMediaBrowserPairs (mediaBrowserHeader pairs) := by
      rw [h]
      exact List.mem_map_of_mem hpair
    exact comma_notMem_of_mem (notMem_header pairs (by simp)) (notMem_header pairs (by simp)) hread
  · exact parseMediaBrowserPairs_of_forall

def tokenPair : AuthorizationPair where
  key := "Token"
  value := "a,b"
  isIdentifier := ⟨by decide, forall_mem_of_all (by decide)⟩
  isPlain := by
    intro c hc
    simp only [List.mem_cons, List.not_mem_nil, or_false] at hc
    obtain rfl | rfl | rfl := hc <;> decide

theorem token_cut : parseAuthorizationToken (mediaBrowserHeader [tokenPair]) = some "a" ∧
    parseMediaBrowserPairs (mediaBrowserHeader [tokenPair]) ≠
      [tokenPair].map fun pair => (toAsciiLowercase pair.key, pair.value) := by
  constructor
  · decide
  · decide

end Jellyrin.Auth
