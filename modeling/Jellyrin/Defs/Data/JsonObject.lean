import Jellyrin.Defs.Data.JsonFields
import Jellyrin.Defs.Data.Rows

/-! Objects that are written field by field are read back by the names of their fields. -/

namespace Jellyrin.Json

open Ascii

theorem insertField_perm {field : String} (new : Json) {fields : List (String × Json)}
    (h : ∀ entry ∈ fields, entry.1 ≠ field) :
    (insertField field new fields).Perm ((field, new) :: fields) := by
  induction fields with
  | nil => exact List.Perm.refl _
  | cons entry rest ih =>
    obtain ⟨name, old⟩ := entry
    obtain ⟨hname, hrest⟩ := List.forall_mem_cons.mp h
    rw [insertField, if_neg hname]
    split
    · exact List.Perm.refl _
    · exact ((ih hrest).cons (name, old)).trans (List.Perm.swap _ _ _)

theorem exists_ofFields_eq {fields : List (String × Json)}
    (h : (fields.map Prod.fst).Nodup) : ∃ entries, ofFields fields = .object entries ∧
      entries.Perm fields := by
  have hfold : ∀ (fields old : List (String × Json)),
      ((old ++ fields).map Prod.fst).Nodup →
        ∃ entries : List (String × Json),
          fields.foldl (fun (value : Json) entry => value.set entry.1 entry.2) (.object old) =
            .object entries ∧ entries.Perm (old ++ fields) := by
    intro fields
    induction fields with
    | nil => exact fun old _ => ⟨old, rfl, by simp⟩
    | cons entry fields ih =>
      intro old hnodup
      have hmoved : (old ++ entry :: fields).Perm (entry :: old ++ fields) := List.perm_middle
      have hnew : ∀ other ∈ old, other.1 ≠ entry.1 := by
        intro other hother heq
        rw [(hmoved.map Prod.fst).nodup_iff] at hnodup
        refine (List.nodup_cons.mp hnodup).1 ?_
        rw [← heq]
        exact List.mem_map_of_mem (List.mem_append_left _ hother)
      have hperm := insertField_perm entry.2 hnew
      obtain ⟨entries, heq, hentries⟩ := ih (insertField entry.1 entry.2 old) (by
        refine (((hperm.append_right fields).map Prod.fst).nodup_iff).mpr ?_
        exact (hmoved.map Prod.fst).nodup_iff.mp hnodup)
      exact ⟨entries, heq, (hentries.trans (hperm.append_right fields)).trans hmoved.symm⟩
  exact hfold fields [] h

theorem get_ofFields {fields : List (String × Json)} {field : String} {value : Json}
    (h : (fields.map Prod.fst).Nodup) (hmem : (field, value) ∈ fields) :
    (ofFields fields).get field = some value := by
  obtain ⟨entries, heq, hperm⟩ := exists_ofFields_eq h
  have hfind : entries.find? (fun entry => entry.1 == field) = some (field, value) := by
    refine find?_eq_some_of_unique (hperm.mem_iff.mpr hmem) (by simp) ?_
    intro other hother hname
    exact List.inj_on_of_nodup_map h (hperm.mem_iff.mp hother) hmem (by simpa using hname)
  rw [get, heq, asObject, Option.bind_some, hfind, Option.map_some]

theorem fieldCaseInsensitive_ofFields {fields : List (String × Json)} {field : String}
    {value : Json} (h : (fields.map fun entry => toAsciiLowercase entry.1).Nodup)
    (hmem : (field, value) ∈ fields) :
    (ofFields fields).fieldCaseInsensitive field = some value := by
  have hnames : (fields.map Prod.fst).Nodup := by
    have hlower : ((fields.map Prod.fst).map toAsciiLowercase).Nodup := by
      rw [List.map_map]
      exact h
    exact hlower.of_map
  obtain ⟨entries, heq, hperm⟩ := exists_ofFields_eq hnames
  have hfind : entries.find? (fun entry => eqIgnoreAsciiCase entry.1 field) =
      some (field, value) := by
    refine find?_eq_some_of_unique (hperm.mem_iff.mpr hmem) (by simp) ?_
    intro other hother hname
    exact List.inj_on_of_nodup_map h (hperm.mem_iff.mp hother) hmem
      (eqIgnoreAsciiCase_iff.mp hname)
  rw [fieldCaseInsensitive, heq, asObject, Option.bind_some, hfind, Option.map_some]

theorem mem_of_get {fields : List (String × Json)} {field : String} {value : Json}
    (h : (Json.object fields).get field = some value) : (field, value) ∈ fields := by
  obtain ⟨entry, hfind, rfl⟩ := Option.map_eq_some_iff.mp h
  have hname : entry.1 = field := by simpa using List.find?_some hfind
  rw [← hname]
  exact List.mem_of_find?_eq_some hfind

/-! Texts that a reader which trims leaves as they are. -/

def Trimmed (text : String) : Prop := trim text = text

def Filled (text : String) : Prop := Trimmed text ∧ text ≠ ""

instance (text : String) : Decidable (Trimmed text) := inferInstanceAs (Decidable (_ = _))

instance (text : String) : Decidable (Filled text) := inferInstanceAs (Decidable (_ ∧ _))

theorem trimmed_empty : Trimmed "" := rfl

theorem trimmed_trim (text : String) : Trimmed (trim text) := trim_trim text

theorem filled_stringField {value : Json} {field text : String}
    (h : value.stringField field = some text) : Filled text := trim_stringField h

theorem toList_trim (s : String) :
    (trim s).toList = (s.toList.dropWhile isWhitespace).rdropWhile isWhitespace := by
  rw [trim, String.toList_ofList]
  rfl

theorem trim_append_of_blank (text : List Char) {blank : List Char}
    (h : ∀ c ∈ blank, isWhitespace c = true) :
    trim (String.ofList (text ++ blank)) = trim (String.ofList text) := by
  apply String.toList_injective
  rw [toList_trim, toList_trim, String.toList_ofList, String.toList_ofList, List.dropWhile_append]
  split
  · rename_i hempty
    rw [List.isEmpty_iff.mp hempty, List.dropWhile_eq_nil_iff.mpr h]
  · rw [List.rdropWhile, List.rdropWhile, List.reverse_append,
      List.dropWhile_append_of_pos fun c hc => h c (List.mem_reverse.mp hc)]

theorem trim_rdropWhile (text : List Char) :
    trim (String.ofList (text.rdropWhile isWhitespace)) = trim (String.ofList text) := by
  have hall : ∀ c ∈ text.rtakeWhile isWhitespace, isWhitespace c = true := fun c hc =>
    List.mem_takeWhile_imp (List.mem_reverse.mp hc)
  have hsplit : text.rdropWhile isWhitespace ++ text.rtakeWhile isWhitespace = text := by
    rw [List.rdropWhile, List.rtakeWhile, ← List.reverse_append, List.takeWhile_append_dropWhile,
      List.reverse_reverse]
  rw [← trim_append_of_blank _ hall, hsplit]

theorem trimmed_iff {text : String} : Trimmed text ↔
    text.toList.dropWhile isWhitespace = text.toList ∧
      text.toList.rdropWhile isWhitespace = text.toList := by
  rw [Trimmed, show trim text = String.ofList
    ((text.toList.dropWhile isWhitespace).rdropWhile isWhitespace) from rfl]
  constructor
  · intro h
    have hlist : (text.toList.dropWhile isWhitespace).rdropWhile isWhitespace = text.toList := by
      simpa using congrArg String.toList h
    have hfirst : text.toList.dropWhile isWhitespace = text.toList := by
      refine (List.dropWhile_suffix _).eq_of_length_le ?_
      have hlength := (List.rdropWhile_prefix (p := isWhitespace)
        (l := text.toList.dropWhile isWhitespace)).length_le
      rwa [hlist] at hlength
    rw [hfirst] at hlist
    exact ⟨hfirst, hlist⟩
  · rintro ⟨hfirst, hlast⟩
    rw [hfirst, hlast, String.ofList_toList]

def EndsFilled (text : String) : Prop :=
  text ≠ "" ∧ text.toList.rdropWhile isWhitespace = text.toList

instance (text : String) : Decidable (EndsFilled text) := inferInstanceAs (Decidable (_ ∧ _))

theorem EndsFilled.append {last : String} (h : EndsFilled last) (first : String) :
    EndsFilled (first ++ last) := by
  obtain ⟨hne, hlast⟩ := h
  have hnil : last.toList ≠ [] := by simpa using hne
  refine ⟨by simp [hne], ?_⟩
  have hend := List.rdropWhile_eq_self_iff.mp hlast
  rw [List.rdropWhile_eq_self_iff, String.toList_append]
  intro hl
  rw [List.getLast_append_of_ne_nil hl hnil]
  exact hend hnil

theorem Filled.append {first last : String} (hfirst : Filled first) (hlast : EndsFilled last) :
    Filled (first ++ last) := by
  obtain ⟨hfirst, hne⟩ := hfirst
  have hnil : first.toList ≠ [] := by simpa using hne
  refine ⟨trimmed_iff.mpr ⟨?_, (hlast.append first).2⟩, by simp [hne]⟩
  have hhead := List.dropWhile_eq_self_iff.mp (trimmed_iff.mp hfirst).1
  rw [List.dropWhile_eq_self_iff, String.toList_append]
  intro hlen
  rw [List.getElem_append_left (List.length_pos_of_ne_nil hnil)]
  exact hhead _

section Fields

variable {fields : List (String × Json)} {field text : String}

theorem stringField_ofFields (h : (fields.map fun entry => toAsciiLowercase entry.1).Nodup)
    (hmem : (field, .string text) ∈ fields) (htext : Filled text) :
    (ofFields fields).stringField field = some text := by
  rw [stringField, fieldCaseInsensitive_ofFields h hmem]
  simp only [show trim text = text from htext.1, if_neg htext.2]

theorem getD_stringField_ofFields (h : (fields.map fun entry => toAsciiLowercase entry.1).Nodup)
    (hmem : (field, .string text) ∈ fields) (htext : Trimmed text) :
    ((ofFields fields).stringField field).getD "" = text := by
  rw [stringField, fieldCaseInsensitive_ofFields h hmem]
  simp only [show trim text = text from htext]
  split
  · rename_i hempty
    exact hempty.symm
  · rfl

theorem stringField_ofFields_null (h : (fields.map fun entry => toAsciiLowercase entry.1).Nodup)
    (hmem : (field, .null) ∈ fields) : (ofFields fields).stringField field = none := by
  rw [stringField, fieldCaseInsensitive_ofFields h hmem]

theorem stringField_ofFields_of_notMem
    (h : (fields.map fun entry => toAsciiLowercase entry.1).Nodup)
    (hnot : toAsciiLowercase field ∉ fields.map fun entry => toAsciiLowercase entry.1) :
    (ofFields fields).stringField field = none := by
  have hnames : (fields.map Prod.fst).Nodup := by
    have hlower : ((fields.map Prod.fst).map toAsciiLowercase).Nodup := by
      rw [List.map_map]
      exact h
    exact hlower.of_map
  obtain ⟨entries, heq, hperm⟩ := exists_ofFields_eq hnames
  have hfind : entries.find? (fun entry => eqIgnoreAsciiCase entry.1 field) = none := by
    rw [List.find?_eq_none]
    intro entry hentry hname
    exact hnot (List.mem_map.mpr ⟨entry, hperm.mem_iff.mp hentry,
      eqIgnoreAsciiCase_iff.mp hname⟩)
  rw [stringField, fieldCaseInsensitive, heq, asObject, Option.bind_some, hfind]
  rfl

end Fields

end Jellyrin.Json
