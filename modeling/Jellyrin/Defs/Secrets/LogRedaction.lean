import Jellyrin.Defs.Data.MarkedValues
import Jellyrin.Defs.Data.Rows
import Mathlib.Data.List.Infix

/-! The secrets that are left out of a log that a client sends.  A text is its characters. -/

namespace Jellyrin.Secrets

open Marker

def valueStops : List Char := ['&', ' ', '\n', '\r', '\t', '"', '\'', ',', ';', '}']

def isStop (marker : String) (character : Char) : Bool :=
  if marker = "Authorization:" ∨ marker = "X-Emby-Token:" then
    character == '\n' || character == '\r'
  else valueStops.contains character

def logMarker (marker : String) (filled : marker.toList ≠ []) : Marker Char :=
  ⟨marker.toList, isStop marker, filled⟩

def sensitiveMarkers : List (Marker Char) :=
  [logMarker "api_key=" (by decide), logMarker "apiKey=" (by decide),
    logMarker "ApiKey=" (by decide), logMarker "AccessToken=" (by decide),
    logMarker "access_token=" (by decide), logMarker "Token=\"" (by decide),
    logMarker "token=" (by decide), logMarker "X-Emby-Token:" (by decide),
    logMarker "Authorization:" (by decide), logMarker "\"AccessToken\":\"" (by decide),
    logMarker "\"Token\":\"" (by decide)]

def redacted : List Char := "[REDACTED]".toList

def redactMarkerValue (input : List Char) (marker : Marker Char) : List Char :=
  marker.redact redacted input

def redactSensitiveLogText (input : List Char) : List Char :=
  sensitiveMarkers.foldl redactMarkerValue input

/-! The markers. -/

theorem stops_eq {k : Marker Char} (hk : k ∈ sensitiveMarkers) :
    k.stops = isStop (String.ofList k.text) := by
  have hname : ∀ k ∈ sensitiveMarkers, k.stops = isStop (String.ofList k.text) := by
    simp only [sensitiveMarkers, List.forall_mem_cons, logMarker, String.ofList_toList, true_and]
    exact fun _ h => absurd h List.not_mem_nil
  exact hname k hk

theorem clear_sensitiveMarkers : ∀ k ∈ sensitiveMarkers, k.Clear redacted := by
  have hbegins : ∀ k ∈ sensitiveMarkers, ∀ part ∈ redacted.tails, part ≠ [] →
      ¬ (k.text <+: part ∨ part <+: k.text) := by decide
  have hends : ∀ k ∈ sensitiveMarkers, ∀ part ∈ k.text.tails, part ≠ [] →
      ¬ (part <+: redacted ∨ redacted <+: part) := by decide
  have hreads : ∀ k ∈ sensitiveMarkers, (redacted.all fun c => k.stops c == false) = true := by
    decide
  exact fun k hk => ⟨fun part hne hpart => hbegins k hk part (List.mem_tails _ _ |>.mpr hpart) hne,
    fun part hne hpart => hends k hk part (List.mem_tails _ _ |>.mpr hpart) hne,
    fun c hc => beq_iff_eq.mp (List.all_eq_true.mp (hreads k hk) c hc)⟩

theorem agree_sensitiveMarkers : Agree redacted sensitiveMarkers := by
  refine ⟨clear_sensitiveMarkers, fun j hj k hk hsuffix => ?_⟩
  have hlines : ∀ j ∈ sensitiveMarkers, ∀ k ∈ sensitiveMarkers, k.text <:+ j.text →
      ((String.ofList k.text = "Authorization:" ∨ String.ofList k.text = "X-Emby-Token:") ↔
        (String.ofList j.text = "Authorization:" ∨ String.ofList j.text = "X-Emby-Token:")) := by
    decide
  rw [stops_eq hk, stops_eq hj]
  funext c
  rw [isStop, isStop, if_congr (hlines j hj k hk hsuffix) rfl rfl]

theorem mem_valueStops {k : Marker Char} (hk : k ∈ sensitiveMarkers) {c : Char}
    (h : k.stops c = true) : c ∈ valueStops := by
  rw [stops_eq hk, isStop] at h
  split at h
  · rw [Bool.or_eq_true, beq_iff_eq, beq_iff_eq] at h
    rcases h with rfl | rfl <;> decide
  · simpa using h

theorem not_isAlphanum_of_mem {c : Char} (h : c ∈ valueStops) : c.isAlphanum = false :=
  @forall_mem_of_all _ (fun c => c.isAlphanum = false) _ valueStops (by decide) c h

theorem not_stops_of_isAlphanum {k : Marker Char} (hk : k ∈ sensitiveMarkers) {c : Char}
    (h : c.isAlphanum = true) : k.stops c = false := by
  rw [Bool.eq_false_iff]
  intro hstops
  rw [not_isAlphanum_of_mem (mem_valueStops hk hstops)] at h
  cases h

theorem not_isAlphanum_getLast {k : Marker Char} (hk : k ∈ sensitiveMarkers) {c : Char}
    (h : c ∈ k.text.getLast?) : c.isAlphanum = false := by
  have hall : ∀ k ∈ sensitiveMarkers,
      (k.text.getLast?.all fun c => c.isAlphanum == false) = true := by decide
  have hlast := hall k hk
  rw [Option.mem_def.mp h] at hlast
  exact beq_iff_eq.mp hlast

theorem eq_of_split {k : Marker Char} (hk : k ∈ sensitiveMarkers) (first : List Char)
    {word last : List Char} {e : Char} (h : k.text = first ++ (word ++ e :: last))
    (hfirst : ∀ c ∈ first.getLast?,
      c.isAlphanum = false) (hne : word ≠ []) (hword : ∀ c ∈ word, c.isAlphanum = true)
    (he : e ∈ valueStops) :
    first = ['"'] ∧ e :: last = ['"', ':', '"'] := by
  have hall : ∀ k ∈ sensitiveMarkers, ∀ i ∈ List.range 17, ∀ n ∈ List.range 17,
      ((k.text.take i).getLast?.all fun c => c.isAlphanum == false) = true →
      (k.text.drop i).take n ≠ [] → ((k.text.drop i).take n).all Char.isAlphanum = true →
      ((k.text.drop i).drop n).head?.any valueStops.contains = true →
      k.text.take i = ['"'] ∧ (k.text.drop i).drop n = ['"', ':', '"'] := by decide
  have hlengths : ∀ k ∈ sensitiveMarkers, k.text.length < 17 := by decide
  have hlength := hlengths k hk
  rw [h, List.length_append, List.length_append] at hlength
  have hsplit := hall k hk first.length (List.mem_range.mpr (by omega)) word.length
    (List.mem_range.mpr (by omega))
  rw [h, List.take_left, List.drop_left, List.take_left, List.drop_left] at hsplit
  refine hsplit ?_ hne (List.all_eq_true.mpr hword) (by simpa using he)
  cases hend : first.getLast? with
  | none => rfl
  | some c => exact beq_iff_eq.mpr (hfirst c hend)

/-! One marker, and a secret after a text. -/

def EndsPlain (text : List Char) : Prop := ∃ c ∈ text.getLast?, c.isAlphanum = false

variable {k : Marker Char} {text secret rest : List Char} {e : Char}

structure IsSecret (secret : List Char) : Prop where
  filled : secret ≠ []
  alphanumeric : ∀ c ∈ secret, c.isAlphanum = true

theorem EndsPlain.getLast? (h : EndsPlain text) {c : Char} (hc : c ∈ text.getLast?) :
    c.isAlphanum = false := by
  obtain ⟨d, hd, hplain⟩ := h
  rwa [Option.mem_unique hc hd]

theorem EndsPlain.exists_concat (h : EndsPlain text) :
    ∃ front c, text = front ++ [c] ∧ c.isAlphanum = false := by
  obtain ⟨c, hc, hplain⟩ := h
  obtain ⟨front, rfl⟩ := List.getLast?_eq_some_iff.mp hc
  exact ⟨front, c, rfl, hplain⟩

theorem exists_of_prefix_secret (first : List Char) {last : List Char} (hk : k ∈ sensitiveMarkers)
    (hsecret : IsSecret secret) (hlast : last ≠ []) (htext : k.text = first ++ last)
    (hbegins : last <+: secret ++ e :: rest) : ∃ more, last = secret ++ e :: more := by
  have hplain : ¬ ∀ c ∈ last, c.isAlphanum = true := by
    intro hall
    have hend : last.getLast hlast ∈ k.text.getLast? := by
      rw [htext, List.getLast?_append, List.getLast?_eq_some_getLast hlast]
      rfl
    have halnum := hall _ (List.getLast_mem hlast)
    rw [not_isAlphanum_getLast hk hend] at halnum
    cases halnum
  obtain ⟨after, hafter⟩ := hbegins
  obtain ⟨left, hleft, -⟩ | ⟨beyond, hbeyond, hrest⟩ := List.append_eq_append_iff.mp hafter
  · exact absurd (fun c hc => hsecret.alphanumeric c (hleft ▸ List.mem_append_left left hc)) hplain
  · cases beyond with
    | nil =>
      rw [List.append_nil] at hbeyond
      exact absurd (hbeyond ▸ hsecret.alphanumeric) hplain
    | cons d beyond =>
      rw [List.cons_append, List.cons.injEq] at hrest
      exact ⟨beyond, by rw [hbeyond, hrest.1]⟩

theorem apart_secret (rest : List Char) (hk : k ∈ sensitiveMarkers) (htext : EndsPlain text)
    (hsecret : IsSecret secret) (he : e ∈ valueStops) : k.Apart text (secret ++ e :: rest) := by
  intro first last hfirst hlength hne hlast hmarker
  obtain ⟨more, rfl⟩ := exists_of_prefix_secret first hk hsecret hne hmarker.symm hlast
  have hends : ∀ c ∈ first.getLast?, c.isAlphanum = false := by
    intro c hc
    obtain ⟨front, rfl⟩ := hfirst
    refine htext.getLast? ?_
    rw [List.getLast?_append, Option.mem_def.mp hc]
    rfl
  have hquote := (eq_of_split hk first hmarker.symm hends hsecret.filled hsecret.alphanumeric he).1
  rw [hquote] at hlength
  exact absurd hlength (by decide)

theorem redact_secret (hk : k ∈ sensitiveMarkers) (hsecret : IsSecret secret)
    (he : e ∈ valueStops) : k.redact redacted (secret ++ e :: rest) =
      secret ++ k.redact redacted (e :: rest) := by
  refine redact_passes fun part hne hpart hprefix => ?_
  have hword : IsSecret part :=
    ⟨hne, fun c hc => hsecret.alphanumeric c (hpart.subset hc)⟩
  obtain ⟨more, hmore⟩ := exists_of_prefix_secret [] hk hword k.filled rfl hprefix
  cases (eq_of_split hk [] hmore (by simp) hne hword.alphanumeric he).1

theorem redact_append_secret_of_opens (hk : k ∈ sensitiveMarkers) (htext : EndsPlain text)
    (hsecret : IsSecret secret) (he : e ∈ valueStops) (h : k.Opens text) :
    k.redact redacted (text ++ (secret ++ e :: rest)) =
      k.redact redacted text ++ k.redact redacted (k.afterValue (e :: rest)) := by
  rw [redact_append_of_opens h (apart_secret rest hk htext hsecret he),
    k.afterValue_append fun c hc => not_stops_of_isAlphanum hk (hsecret.alphanumeric c hc)]

theorem EndsPlain.redact (htext : EndsPlain text) (h : ¬ k.Opens text) :
    EndsPlain (k.redact redacted text) := by
  rw [EndsPlain, getLast?_redact h]
  exact htext

theorem eq_of_completes {c : Char} (hk : k ∈ sensitiveMarkers) (hsecret : IsSecret secret)
    (he : e ∈ valueStops) (hc : c.isAlphanum = false)
    (h : k.text <+: c :: (secret ++ e :: rest)) :
    c = '"' ∧ e = '"' ∧ k.text = '"' :: (secret ++ ['"', ':', '"']) ∧
      ∃ value, rest = ':' :: '"' :: value := by
  obtain ⟨d, last, hmarker⟩ := List.exists_cons_of_ne_nil k.filled
  rw [hmarker] at h
  obtain ⟨rfl, hlast⟩ := List.cons_prefix_cons.mp h
  rcases eq_or_ne last [] with rfl | hne
  · have hlengths : ∀ k ∈ sensitiveMarkers, k.text.length ≠ 1 := by decide
    exact absurd (hmarker ▸ rfl) (hlengths k hk)
  · obtain ⟨more, hmore⟩ := exists_of_prefix_secret [d] hk hsecret hne hmarker hlast
    rw [hmore] at hmarker hlast
    obtain ⟨hquote, hstop⟩ := eq_of_split hk [d] hmarker (by simpa using hc)
      hsecret.filled hsecret.alphanumeric he
    cases hquote
    cases hstop
    obtain ⟨value, hvalue⟩ := (List.prefix_append_right_inj secret).mp hlast
    cases hvalue
    exact ⟨rfl, rfl, hmarker, value, rfl⟩

theorem exists_redact_secret {front : List Char} {c : Char} (h : ¬ k.Opens (front ++ [c]))
    (hapart : k.Apart (front ++ [c]) rest) :
    ∃ kept, k.redact redacted (front ++ [c]) = kept ++ [c] ∧
      k.redact redacted (front ++ c :: rest) = kept ++ k.redact redacted (c :: rest) :=
  redact_append_of_not_opens h hapart

theorem redact_append_secret (rest : List Char) (hk : k ∈ sensitiveMarkers) (htext : EndsPlain text)
    (hsecret : IsSecret secret) (he : e ∈ valueStops) (hopens : ¬ k.Opens text)
    (h : '"' ∈ text.getLast? → ¬ k.text <+: '"' :: (secret ++ e :: rest)) :
    k.redact redacted (text ++ (secret ++ e :: rest)) =
      k.redact redacted text ++ (secret ++ k.redact redacted (e :: rest)) := by
  have hapart := apart_secret rest hk htext hsecret he
  obtain ⟨front, c, rfl, hc⟩ := htext.exists_concat
  obtain ⟨kept, hkept, hlater⟩ := exists_redact_secret hopens hapart
  have hnot : ¬ k.text <+: c :: (secret ++ e :: rest) := by
    intro hprefix
    obtain ⟨rfl, -⟩ := eq_of_completes hk hsecret he hc hprefix
    exact h List.getLast?_concat hprefix
  rw [List.append_assoc, List.singleton_append, hlater, hkept, k.redact_cons redacted hnot,
    redact_secret hk hsecret he, List.append_assoc, List.singleton_append]

theorem redact_append_completed {value : List Char} (hk : k ∈ sensitiveMarkers)
    (htext : EndsPlain text) (hsecret : IsSecret secret) (hopens : ¬ k.Opens text)
    (hquote : '"' ∈ text.getLast?) (h : k.text = '"' :: (secret ++ ['"', ':', '"'])) :
    k.redact redacted (text ++ (secret ++ '"' :: ':' :: '"' :: value)) =
      k.redact redacted text ++
        (secret ++ '"' :: ':' :: '"' :: (redacted ++ k.redact redacted (k.afterValue value))) := by
  have hapart := apart_secret (':' :: '"' :: value) hk htext hsecret
    (by decide : '"' ∈ valueStops)
  obtain ⟨front, c, rfl, hc⟩ := htext.exists_concat
  rw [List.getLast?_concat] at hquote
  cases hquote
  obtain ⟨kept, hkept, hlater⟩ := exists_redact_secret hopens hapart
  have hmarker : '"' :: (secret ++ '"' :: ':' :: '"' :: value) = k.text ++ value := by
    rw [h]
    simp
  rw [List.append_assoc, List.singleton_append, hlater, hkept, hmarker, k.redact_append, h]
  simp

/-! The first nine markers do not begin with a quote, so that no secret completes one. -/

def Unquoted (markers : List (Marker Char)) : Prop :=
  ∀ k ∈ markers, k ∈ sensitiveMarkers ∧ k.text.head? ≠ some '"'

variable {markers : List (Marker Char)}

theorem not_completes (h : k.text.head? ≠ some '"') (after : List Char) :
    ¬ k.text <+: '"' :: after := by
  rintro ⟨last, hlast⟩
  obtain ⟨d, ds, hd⟩ := List.exists_cons_of_ne_nil k.filled
  rw [hd, List.cons_append, List.cons.injEq] at hlast
  exact h (by rw [hd, hlast.1, List.head?_cons])

theorem exists_redact_cons (k : Marker Char) (e : Char) (rest : List Char) :
    ∃ last, k.redact redacted (e :: rest) = e :: last := by
  have hhead := k.head?_redact redacted (e :: rest)
  exact ⟨_, List.eq_cons_of_mem_head? (hhead.trans (List.head?_cons ..))⟩

theorem exists_redactAll_cons (markers : List (Marker Char)) (e : Char) (rest : List Char) :
    ∃ last, redactAll redacted markers (e :: rest) = e :: last := by
  induction markers generalizing rest with
  | nil => exact ⟨rest, rfl⟩
  | cons k markers ih =>
    obtain ⟨last, hlast⟩ := exists_redact_cons k e rest
    rw [redactAll, List.foldl_cons, hlast]
    exact ih last

theorem redactAll_append_secret (rest : List Char) (hmarkers : Unquoted markers) (htext : EndsPlain text)
    (hsecret : IsSecret secret) (he : e ∈ valueStops) (h : ¬ ReadsValue redacted markers text) :
    redactAll redacted markers (text ++ (secret ++ e :: rest)) =
        redactAll redacted markers text ++ (secret ++ redactAll redacted markers (e :: rest)) ∧
      EndsPlain (redactAll redacted markers text) := by
  induction markers generalizing text rest with
  | nil => exact ⟨rfl, htext⟩
  | cons k markers ih =>
    obtain ⟨⟨hk, hquote⟩, hrest⟩ := List.forall_mem_cons.mp hmarkers
    rw [ReadsValue, not_or] at h
    obtain ⟨last, hlast⟩ := exists_redact_cons k e rest
    have hstep := redact_append_secret rest hk htext hsecret he h.1
      fun _ => not_completes hquote _
    rw [hlast] at hstep
    have hrun := ih last hrest (htext.redact h.1) h.2
    rw [← hstep, ← hlast] at hrun
    exact hrun

theorem redactAll_eq_of_readsValue {other : List Char} (rest : List Char) (hmarkers : Unquoted markers)
    (htext : EndsPlain text) (hsecret : IsSecret secret) (hother : IsSecret other)
    (he : e ∈ valueStops) (h : ReadsValue redacted markers text) :
    redactAll redacted markers (text ++ (secret ++ e :: rest)) =
      redactAll redacted markers (text ++ (other ++ e :: rest)) := by
  induction markers generalizing text rest with
  | nil => exact h.elim
  | cons k markers ih =>
    obtain ⟨⟨hk, hquote⟩, hrest⟩ := List.forall_mem_cons.mp hmarkers
    by_cases hopens : k.Opens text
    · have hstep : k.redact redacted (text ++ (secret ++ e :: rest)) =
          k.redact redacted (text ++ (other ++ e :: rest)) := by
        rw [redact_append_secret_of_opens hk htext hsecret he hopens,
          redact_append_secret_of_opens hk htext hother he hopens]
      exact congrArg (redactAll redacted markers) hstep
    · obtain ⟨last, hlast⟩ := exists_redact_cons k e rest
      have hrun := ih last hrest (htext.redact hopens) (h.resolve_left hopens)
      rw [← hlast, ← redact_append_secret _ hk htext hsecret he hopens fun _ => not_completes hquote _,
        ← redact_append_secret _ hk htext hother he hopens fun _ => not_completes hquote _] at hrun
      exact hrun

/-! The last two markers. -/

def accessTokenField : Marker Char := logMarker "\"AccessToken\":\"" (by decide)

def tokenField : Marker Char := logMarker "\"Token\":\"" (by decide)

theorem sensitiveMarkers_eq :
    sensitiveMarkers = sensitiveMarkers.take 9 ++ [accessTokenField, tokenField] := rfl

theorem unquoted_take : Unquoted (sensitiveMarkers.take 9) := by
  have hheads : ∀ k ∈ sensitiveMarkers.take 9, k.text.head? ≠ some '"' := by decide
  exact fun k hk => ⟨List.mem_of_mem_take hk, hheads k hk⟩

def accessTokenName : List Char := "AccessToken".toList

/-- The secret is the name of a field, and a value that is not masked yet follows it. -/
def LeadsOn (secret : List Char) (e : Char) (rest : List Char) : Prop :=
  secret = accessTokenName ∧ e = '"' ∧
    ∃ value, rest = ':' :: '"' :: value ∧ ¬ tokenField.Masked redacted value

theorem accessTokenField_mem : accessTokenField ∈ sensitiveMarkers := by
  rw [sensitiveMarkers_eq]
  simp

theorem tokenField_mem : tokenField ∈ sensitiveMarkers := by
  rw [sensitiveMarkers_eq]
  simp

structure IsField (k : Marker Char) : Prop where
  clear : k.Clear redacted
  named : k.text.tail ≠ []
  colon : k.text.tail.head? ≠ some ':'
  bracket : k.text.tail.head? ≠ some '['
  quoted : k.text.head? = some '"'

theorem isField_accessTokenField : IsField accessTokenField :=
  ⟨clear_sensitiveMarkers _ accessTokenField_mem, by decide, by decide, by decide, by decide⟩

theorem isField_tokenField : IsField tokenField :=
  ⟨clear_sensitiveMarkers _ tokenField_mem, by decide, by decide, by decide, by decide⟩

theorem IsField.redact_colon (h : IsField k) (after : List Char) :
    k.redact redacted ('"' :: ':' :: after) = '"' :: ':' :: k.redact redacted after := by
  rw [k.redact_cons_cons redacted h.named h.colon, k.redact_cons_of_head? redacted]
  rw [h.quoted]
  decide

theorem IsField.redact_masked (h : IsField k) (after : List Char) :
    k.redact redacted ('"' :: (redacted ++ after)) =
      '"' :: (redacted ++ k.redact redacted after) := by
  rw [← redact_mask_append h.clear]
  exact k.redact_cons_cons redacted h.named h.bracket _

theorem IsField.exists_of_redact_eq (h : IsField k) {after : List Char}
    (heq : k.redact redacted text = '"' :: (redacted ++ after)) :
    ∃ last, text = '"' :: (redacted ++ last) ∧ k.redact redacted last = after := by
  obtain ⟨cs, rfl⟩ := k.exists_of_redact_eq_cons redacted heq
  have hprefix : ¬ k.text <+: '"' :: cs := by
    rintro ⟨value, hvalue⟩
    obtain ⟨d, ds, hd⟩ := List.exists_cons_of_ne_nil k.filled
    have hnamed := h.named
    have hbracket := h.bracket
    rw [hd, List.tail_cons] at hnamed hbracket
    obtain ⟨c, name, rfl⟩ := List.exists_cons_of_ne_nil hnamed
    rw [← hvalue, k.redact_append, hd] at heq
    exact hbracket (congrArg some (List.cons.inj (List.cons.inj heq).2).1)
  rw [k.redact_cons redacted hprefix, List.cons.injEq] at heq
  obtain ⟨last, rfl, hlast⟩ := exists_of_redact_eq_append h.clear (List.suffix_refl _) heq.2
  exact ⟨last, rfl, hlast⟩

theorem redact_tokenField_eq_iff (value : List Char) :
    tokenField.redact redacted ('"' :: ':' :: '"' ::
        (redacted ++ accessTokenField.redact redacted (accessTokenField.afterValue value))) =
      tokenField.redact redacted (accessTokenField.redact redacted ('"' :: ':' :: '"' :: value)) ↔
    tokenField.Masked redacted value := by
  rw [isField_tokenField.redact_colon, isField_tokenField.redact_masked,
    isField_accessTokenField.redact_colon, isField_tokenField.redact_colon, List.cons.injEq,
    List.cons.injEq]
  constructor
  · rintro ⟨-, -, h⟩
    obtain ⟨later, hlater, hsame⟩ := isField_tokenField.exists_of_redact_eq h.symm
    obtain ⟨last, hlast, rfl⟩ := isField_accessTokenField.exists_of_redact_eq hlater
    cases hlast
    refine ⟨last, rfl, fun c hc => ?_⟩
    have hheads := congrArg List.head? hsame
    simp only [head?_redact] at hheads
    exact stops_of_head?_afterValue (k := accessTokenField) (hheads ▸ hc)
  · rintro ⟨last, rfl, hstops⟩
    have hafter : accessTokenField.afterValue (redacted ++ last) = last := by
      rw [accessTokenField.afterValue_append isField_accessTokenField.clear.reads]
      exact afterValue_of_head? hstops
    rw [hafter, isField_accessTokenField.redact_masked, isField_tokenField.redact_masked]
    exact ⟨rfl, rfl, rfl⟩

/-! A secret after any of the markers. -/

theorem redactSensitiveLogText_eq (input : List Char) :
    redactSensitiveLogText input = tokenField.redact redacted
      (accessTokenField.redact redacted (redactAll redacted (sensitiveMarkers.take 9) input)) :=
  rfl

theorem eq_of_append_secret {other last more : List Char} (hsecret : IsSecret secret)
    (hother : IsSecret other) (he : e ∈ valueStops)
    (h : secret ++ e :: last = other ++ e :: more) : secret = other := by
  have hword : ∀ {word : List Char} (rest : List Char), IsSecret word →
      (word ++ e :: rest).takeWhile (fun c => c.isAlphanum) = word := by
    intro word rest hword
    rw [List.takeWhile_append_of_pos hword.alphanumeric, List.takeWhile_cons_of_neg,
      List.append_nil]
    rw [not_isAlphanum_of_mem he]
    decide
  rw [← hword last hsecret, h, hword more hother]

theorem endsPlain_append {m : Marker Char} (hm : m ∈ sensitiveMarkers) (before : List Char) :
    EndsPlain (before ++ m.text) := by
  have hlast := List.getLast?_eq_some_getLast m.filled
  refine ⟨m.text.getLast m.filled, ?_, not_isAlphanum_getLast hm hlast⟩
  rw [List.getLast?_append, hlast]
  rfl

theorem quote_of_not_readsValue {m : Marker Char} (hm : m ∈ sensitiveMarkers)
    {before : List Char}
    (h : ¬ ReadsValue redacted (sensitiveMarkers.take 9) (before ++ m.text)) :
    '"' ∈ (before ++ m.text).getLast? := by
  have hnine : ∀ m ∈ sensitiveMarkers.take 9, m.text.getLast? = some '"' ∨
      ∀ j ∈ sensitiveMarkers.take 9, (m.text.all fun c => j.stops c == false) = true := by
    decide
  have hquote : '"' ∈ m.text.getLast? := by
    rw [sensitiveMarkers_eq, List.mem_append] at hm
    rcases hm with hm | hm
    · rcases hnine m hm with hquote | hstops
      · exact hquote
      · exact absurd (readsValue_of_mem (fun j hj c hc =>
          beq_iff_eq.mp (List.all_eq_true.mp (hstops j hj) c hc)) hm before) h
    · rcases List.mem_pair.mp hm with rfl | rfl <;> decide
  rw [List.getLast?_append, Option.mem_def.mp hquote]
  rfl

theorem exists_redact_accessTokenField (rest : List Char) (htext : EndsPlain text)
    (hsecret : IsSecret secret)
    (he : e ∈ valueStops) (hquote : '"' ∈ text.getLast?) (hopens : ¬ accessTokenField.Opens text) :
    ∃ last, accessTokenField.redact redacted (text ++ (secret ++ e :: rest)) =
        accessTokenField.redact redacted text ++ (secret ++ e :: last) ∧
      (¬ (secret = accessTokenName ∧ e = '"' ∧ ∃ value, rest = ':' :: '"' :: value) →
        accessTokenField.redact redacted (e :: rest) = e :: last) ∧
      ∀ value, secret = accessTokenName → e = '"' → rest = ':' :: '"' :: value →
        last = ':' :: '"' :: (redacted ++
          accessTokenField.redact redacted (accessTokenField.afterValue value)) := by
  by_cases hname : secret = accessTokenName ∧ e = '"' ∧ ∃ value, rest = ':' :: '"' :: value
  · obtain ⟨rfl, rfl, value, rfl⟩ := hname
    refine ⟨_, redact_append_completed accessTokenField_mem htext hsecret hopens hquote rfl,
      fun h => absurd ⟨rfl, rfl, value, rfl⟩ h, fun other _ _ hother => ?_⟩
    cases hother
    rfl
  · have hnot : ¬ accessTokenField.text <+: '"' :: (secret ++ e :: rest) := by
      intro hprefix
      obtain ⟨-, rfl, hmarker, hvalue⟩ :=
        eq_of_completes accessTokenField_mem hsecret he (by decide) hprefix
      have hword : accessTokenName ++ ['"', ':', '"'] = secret ++ ['"', ':', '"'] :=
        (List.cons.inj hmarker).2
      exact hname ⟨(List.append_cancel_right hword).symm, rfl, hvalue⟩
    obtain ⟨last, hlast⟩ := exists_redact_cons accessTokenField e rest
    refine ⟨last, ?_, fun _ => hlast, fun value h h' h'' => absurd ⟨h, h', value, h''⟩ hname⟩
    rw [redact_append_secret _ accessTokenField_mem htext hsecret he hopens fun _ => hnot, hlast]

theorem exists_redact_tokenField (rest : List Char) (htext : EndsPlain text) (hsecret : IsSecret secret)
    (he : e ∈ valueStops) (hopens : ¬ tokenField.Opens text) :
    ∃ last, tokenField.redact redacted (text ++ (secret ++ e :: rest)) =
      tokenField.redact redacted text ++ (secret ++ e :: last) := by
  by_cases hquote : '"' ∈ text.getLast? ∧ tokenField.text <+: '"' :: (secret ++ e :: rest)
  · obtain ⟨-, rfl, hmarker, value, rfl⟩ :=
      eq_of_completes tokenField_mem hsecret he (by decide) hquote.2
    exact ⟨_, redact_append_completed tokenField_mem htext hsecret hopens hquote.1 hmarker⟩
  · obtain ⟨last, hlast⟩ := exists_redact_cons tokenField e rest
    refine ⟨last, ?_⟩
    rw [redact_append_secret _ tokenField_mem htext hsecret he hopens
      fun h hprefix => hquote ⟨h, hprefix⟩, hlast]

theorem redactAll_quote_eq {value rest last : List Char}
    (h : redactAll redacted (sensitiveMarkers.take 9) ('"' :: rest) = '"' :: last) :
    last = ':' :: '"' :: value ↔ ∃ first, rest = ':' :: '"' :: first ∧
      value = redactAll redacted (sensitiveMarkers.take 9) first := by
  have hquotes : ∀ k ∈ sensitiveMarkers.take 9, k.text.head? ≠ some '"' :=
    fun k hk => (unquoted_take k hk).2
  have hcolons : ∀ k ∈ sensitiveMarkers.take 9, k.text.head? ≠ some ':' := by decide
  obtain ⟨after, hafter, rfl⟩ := (redactAll_eq_cons_iff hquotes).mp h
  cases hafter
  rw [redactAll_eq_cons_iff hcolons]
  constructor
  · rintro ⟨second, rfl, hsecond⟩
    obtain ⟨first, rfl, rfl⟩ := (redactAll_eq_cons_iff hquotes).mp hsecond.symm
    exact ⟨first, rfl, rfl⟩
  · rintro ⟨first, rfl, rfl⟩
    exact ⟨'"' :: first, rfl, ((redactAll_eq_cons_iff hquotes).mpr ⟨first, rfl, rfl⟩).symm⟩

theorem leadsOn_iff {last : List Char}
    (h : redactAll redacted (sensitiveMarkers.take 9) (e :: rest) = e :: last) :
    LeadsOn secret e rest ↔ secret = accessTokenName ∧ e = '"' ∧
      ∃ value, last = ':' :: '"' :: value ∧ ¬ tokenField.Masked redacted value := by
  have hclear : ∀ k ∈ sensitiveMarkers.take 9, k.Clear redacted :=
    fun k hk => clear_sensitiveMarkers k (List.mem_of_mem_take hk)
  refine and_congr_right fun _ => and_congr_right fun hquote => ?_
  subst hquote
  constructor
  · rintro ⟨value, hvalue, hmasked⟩
    exact ⟨_, (redactAll_quote_eq h).mpr ⟨value, hvalue, rfl⟩,
      fun hnow => hmasked ((masked_redactAll_iff hclear).mp hnow)⟩
  · rintro ⟨value, hvalue, hmasked⟩
    obtain ⟨first, hfirst, rfl⟩ := (redactAll_quote_eq h).mp hvalue
    exact ⟨first, hfirst, fun hbefore => hmasked ((masked_redactAll_iff hclear).mpr hbefore)⟩

theorem redact_tokenField_secret_eq_iff {other : List Char} (htext : EndsPlain text)
    (hsecret : IsSecret secret) (hother : IsSecret other) (he : e ∈ valueStops)
    (hne : secret ≠ other) (hquote : '"' ∈ text.getLast?)
    (haccess : ¬ accessTokenField.Opens text)
    (htoken : tokenField.Opens (accessTokenField.redact redacted text)) {last : List Char}
    (hlast : redactAll redacted (sensitiveMarkers.take 9) (e :: rest) = e :: last) :
    tokenField.redact redacted
        (accessTokenField.redact redacted (text ++ (secret ++ e :: last))) =
      tokenField.redact redacted
        (accessTokenField.redact redacted (text ++ (other ++ e :: last))) ↔
    ¬ LeadsOn secret e rest ∧ ¬ LeadsOn other e rest := by
  have hread : ∀ {word : List Char} (more : List Char), IsSecret word →
      tokenField.redact redacted
          (accessTokenField.redact redacted text ++ (word ++ e :: more)) =
        tokenField.redact redacted (accessTokenField.redact redacted text) ++
          tokenField.redact redacted (e :: more) := by
    intro word more hword
    rw [redact_append_secret_of_opens tokenField_mem (htext.redact haccess) hword he htoken,
      tokenField.afterValue_cons]
    simpa [tokenField, logMarker, isStop] using he
  obtain ⟨mine, hmine, hplain, hnamed⟩ :=
    exists_redact_accessTokenField last htext hsecret he hquote haccess
  obtain ⟨theirs, htheirs, hplain', hnamed'⟩ :=
    exists_redact_accessTokenField last htext hother he hquote haccess
  rw [hmine, htheirs, hread mine hsecret, hread theirs hother, List.append_cancel_left_eq,
    leadsOn_iff hlast, leadsOn_iff hlast]
  by_cases hfield : e = '"' ∧ ∃ value, last = ':' :: '"' :: value
  · obtain ⟨rfl, value, rfl⟩ := hfield
    by_cases hname : secret = accessTokenName
    · have hother : other ≠ accessTokenName := fun h => hne (hname.trans h.symm)
      rw [hnamed value hname rfl rfl, ← hplain' fun h => hother h.1, redact_tokenField_eq_iff]
      simp [hname, hother]
    · by_cases hname' : other = accessTokenName
      · rw [hnamed' value hname' rfl rfl, ← hplain fun h => hname h.1, eq_comm,
          redact_tokenField_eq_iff]
        simp [hname, hname']
      · rw [← hplain fun h => hname h.1, ← hplain' fun h => hname' h.1]
        simp [hname, hname']
  · rw [← hplain fun h => hfield h.2, ← hplain' fun h => hfield h.2]
    exact iff_of_true rfl ⟨fun ⟨_, h, value, hvalue, _⟩ => hfield ⟨h, value, hvalue⟩,
      fun ⟨_, h, value, hvalue, _⟩ => hfield ⟨h, value, hvalue⟩⟩

theorem redactSensitiveLogText_twice (input : List Char) :
    redactSensitiveLogText (redactSensitiveLogText input) = redactSensitiveLogText input :=
  redactAll_redactAll agree_sensitiveMarkers input

/-- The redaction of a log hides a secret exactly where a marker still stands before it when its
turn comes, and the secret is not the name of another field.  Twice is as good as once. -/
theorem redactSensitiveLogText_eq_iff {m : Marker Char} (hm : m ∈ sensitiveMarkers)
    {other : List Char} (hsecret : IsSecret secret) (hother : IsSecret other)
    (he : m.stops e = true) (before : List Char) :
    (redactSensitiveLogText (before ++ m.text ++ (secret ++ e :: rest)) =
        redactSensitiveLogText (before ++ m.text ++ (other ++ e :: rest)) ∧
      ∀ input, redactSensitiveLogText (redactSensitiveLogText input) =
        redactSensitiveLogText input) ↔
    secret = other ∨ ReadsValue redacted (sensitiveMarkers.take 10) (before ++ m.text) ∨
      ReadsValue redacted sensitiveMarkers (before ++ m.text) ∧
        ¬ LeadsOn secret e rest ∧ ¬ LeadsOn other e rest := by
  have hstop := mem_valueStops hm he
  have htext := endsPlain_append hm before
  have hten : sensitiveMarkers.take 10 = sensitiveMarkers.take 9 ++ [accessTokenField] := rfl
  have hall : ReadsValue redacted sensitiveMarkers (before ++ m.text) ↔ _ :=
    readsValue_append (sensitiveMarkers.take 9) [accessTokenField, tokenField] _
  rw [and_iff_left redactSensitiveLogText_twice, hten, readsValue_append, hall]
  simp only [redactSensitiveLogText_eq, ReadsValue, or_false]
  by_cases hnine : ReadsValue redacted (sensitiveMarkers.take 9) (before ++ m.text)
  · rw [redactAll_eq_of_readsValue _ unquoted_take htext hsecret hother hstop hnine]
    exact iff_of_true rfl (Or.inr (Or.inl (Or.inl hnine)))
  have hquote := quote_of_not_readsValue hm hnine
  rw [← getLast?_redactAll hnine] at hquote
  obtain ⟨hsecrets, hkept⟩ :=
    redactAll_append_secret rest unquoted_take htext hsecret hstop hnine
  have hothers :=
    (redactAll_append_secret rest unquoted_take htext hother hstop hnine).1
  obtain ⟨last, hlast⟩ : ∃ last,
      redactAll redacted (sensitiveMarkers.take 9) (e :: rest) = e :: last :=
    exists_redactAll_cons _ e rest
  rw [hsecrets, hothers, hlast, or_iff_right hnine, or_iff_right hnine]
  generalize redactAll redacted (sensitiveMarkers.take 9) (before ++ m.text) = text at *
  by_cases haccess : accessTokenField.Opens text
  · rw [redact_append_secret_of_opens accessTokenField_mem hkept hsecret hstop haccess,
      redact_append_secret_of_opens accessTokenField_mem hkept hother hstop haccess]
    exact iff_of_true rfl (Or.inr (Or.inl haccess))
  rw [or_iff_right haccess, or_iff_right haccess]
  rcases eq_or_ne secret other with rfl | hne
  · exact iff_of_true rfl (Or.inl rfl)
  rw [or_iff_right hne]
  by_cases htoken : tokenField.Opens (accessTokenField.redact redacted text)
  · rw [redact_tokenField_secret_eq_iff hkept hsecret hother hstop hne hquote haccess htoken
      hlast, and_iff_right htoken]
  · obtain ⟨mine, hmine, -⟩ :=
      exists_redact_accessTokenField last hkept hsecret hstop hquote haccess
    obtain ⟨theirs, htheirs, -⟩ :=
      exists_redact_accessTokenField last hkept hother hstop hquote haccess
    obtain ⟨first, hfirst⟩ := exists_redact_tokenField mine (hkept.redact haccess)
      hsecret hstop htoken
    obtain ⟨second, hsecond⟩ := exists_redact_tokenField theirs (hkept.redact haccess)
      hother hstop htoken
    rw [hmine, htheirs, hfirst, hsecond, List.append_cancel_left_eq]
    exact iff_of_false (fun h => hne (eq_of_append_secret hsecret hother hstop h))
      fun h => htoken h.1

theorem redactSensitiveLogText_eq_iff_query :
    (redactSensitiveLogText ("GET /?".toList ++ "api_key=".toList ++ ("a1".toList ++ '&' :: [])) =
        redactSensitiveLogText
          ("GET /?".toList ++ "api_key=".toList ++ ("b2".toList ++ '&' :: [])) ∧
      ∀ input, redactSensitiveLogText (redactSensitiveLogText input) =
        redactSensitiveLogText input) ↔
    "a1".toList = "b2".toList ∨
      ReadsValue redacted (sensitiveMarkers.take 10) ("GET /?".toList ++ "api_key=".toList) ∨
      ReadsValue redacted sensitiveMarkers ("GET /?".toList ++ "api_key=".toList) ∧
        ¬ LeadsOn "a1".toList '&' [] ∧ ¬ LeadsOn "b2".toList '&' [] :=
  redactSensitiveLogText_eq_iff (m := logMarker "api_key=" (by decide)) (by simp [sensitiveMarkers])
    ⟨by decide, forall_mem_of_all (by decide)⟩
    ⟨by decide, forall_mem_of_all (by decide)⟩ (by decide) _

/-- `AccessToken=` takes the name of the marker `Token="` for its own value, which ends before the
secret. -/
theorem not_redactSensitiveLogText_eq : ¬ ∀ m ∈ sensitiveMarkers, ∀ before rest secret other e,
    IsSecret secret → IsSecret other → m.stops e = true →
      redactSensitiveLogText (before ++ m.text ++ (secret ++ e :: rest)) =
        redactSensitiveLogText (before ++ m.text ++ (other ++ e :: rest)) := by
  intro h
  have hsame := h (logMarker "Token=\"" (by decide)) (by simp [sensitiveMarkers]) "Access".toList []
    "abc".toList "xyz".toList '"'
    ⟨by decide, forall_mem_of_all (by decide)⟩
    ⟨by decide, forall_mem_of_all (by decide)⟩ (by decide)
  exact absurd hsame (by decide +kernel)

end Jellyrin.Secrets
