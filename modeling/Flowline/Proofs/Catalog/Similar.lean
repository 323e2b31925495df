import Flowline.Proofs.Catalog.Index
import Flowline.Proofs.Text.Casing
import Flowline.Proofs.Text.Spelling

/-!
Names that are like a given one. They are the first of the names in the catalog that contain it or
are part of it in lower case, blanks around it aside. A name that contains it letter by letter is
among them unless a capital sigma takes another form at its new place.
-/
namespace Flowline.Catalog
open Text

theorem overlaps_iff {name piece : String} :
    overlaps (lowerCase (trim name)) piece = true ↔ Overlaps (trim name) piece :=
  contains_or_contains_iff

section
variable {c : Catalog} {name piece : String}

theorem similar_of_blank (h : isBlankText name = true) : c.similar name = [] := by
  simp [similar, isEmpty_lowerCase, isEmpty_trim, h]

theorem similar_of_not_blank (h : isBlankText name = false) :
    c.similar name =
      (c.names.filter (overlaps (lowerCase (trim name)))).take maxSuggestions := by
  simp [similar, isEmpty_lowerCase, isEmpty_trim, h]

theorem similar_sublist (c : Catalog) (name : String) : (c.similar name).Sublist c.names := by
  cases h : isBlankText name with
  | true => simp [similar_of_blank h]
  | false =>
    rw [similar_of_not_blank h]
    exact (List.take_sublist _ _).trans List.filter_sublist

theorem length_similar_le (c : Catalog) (name : String) : (c.similar name).length ≤ 5 := by
  cases h : isBlankText name with
  | true => simp [similar_of_blank h]
  | false => simp [similar_of_not_blank h, maxSuggestions]

theorem overlaps_of_mem_similar (h : piece ∈ c.similar name) : Overlaps (trim name) piece := by
  cases hblank : isBlankText name with
  | true => simp [similar_of_blank hblank] at h
  | false =>
    rw [similar_of_not_blank hblank] at h
    exact overlaps_iff.1 (List.mem_filter.1 (List.mem_of_mem_take h)).2

/-- Where there is room for more, every name of the catalog that is like the given one is there. -/
theorem mem_similar_of_overlaps (hblank : isBlankText name = false)
    (hroom : (c.similar name).length < 5) (hpiece : piece ∈ c.names)
    (h : Overlaps (trim name) piece) : piece ∈ c.similar name := by
  rw [similar_of_not_blank hblank, maxSuggestions] at hroom ⊢
  have hall : (c.names.filter (overlaps (lowerCase (trim name)))).length ≤ 5 := by
    rw [List.length_take] at hroom
    omega
  rw [List.take_of_length_le hall]
  exact List.mem_filter.2 ⟨hpiece, overlaps_iff.2 h⟩

end

/-- At most five names are found, all different, in ascending byte order, each that of a piece in
the catalog and like the given name; for a blank name none. If there are fewer than five, then all names
that are like the given one are among them, and so is each name that contains it letter by letter at
a place where its capital sigmas keep their forms. Elsewhere, the lower case of the two differs at
that place. -/
theorem similar_sound_complete (c : Catalog) (name : String) :
    (c.similar name).length ≤ 5 ∧ (c.similar name).Nodup ∧
    ((c.similar name).map bytes).Pairwise (· < ·) ∧
    (∀ piece ∈ c.similar name, (c.lookup piece).isSome = true ∧ Overlaps (trim name) piece) ∧
    (isBlankText name = true → c.similar name = []) ∧
    (isBlankText name = false → (c.similar name).length < 5 →
      (∀ piece, (c.lookup piece).isSome = true → Overlaps (trim name) piece → piece ∈ c.similar name) ∧
      ∀ before after, (c.lookup (before ++ trim name ++ after)).isSome = true →
        Case.KeepsSigmas before.toList (trim name).toList after.toList →
        before ++ trim name ++ after ∈ c.similar name) ∧
    ∀ before after, (lowerCase (trim name)).toList <+:
        (lowerCase (before ++ trim name ++ after)).toList.drop (lowerCase before).length ↔
      Case.KeepsSigmas before.toList (trim name).toList after.toList := by
  have hnames := similar_sublist c name
  refine ⟨length_similar_le c name, c.pieces.nodup_keys.sublist hnames,
    pairwise_bytes (c.pieces.pairwise_keys.sublist hnames), fun piece hpiece => ?found,
    similar_of_blank, fun hblank hroom => ⟨fun piece hpiece hlike => ?alike,
      fun before after hpiece hkeeps => ?verbatim⟩, fun before after => ?place⟩
  case found =>
    exact ⟨Dict.isSome_find?_iff.2 (hnames.subset hpiece), overlaps_of_mem_similar hpiece⟩
  case alike =>
    exact mem_similar_of_overlaps hblank hroom (Dict.isSome_find?_iff.1 hpiece) hlike
  case verbatim =>
    exact mem_similar_of_overlaps hblank hroom (Dict.isSome_find?_iff.1 hpiece)
      (overlaps_of_keepsSigmas hkeeps)
  case place => exact lowerCase_prefix_drop_iff before (trim name) after

/-- A catalog of one piece. -/
def single (name : String) : Catalog := live [⟨name, "", "", "", [], .empty, .empty⟩]

/-- A sigma inside a word stays inside it. -/
theorem similar_sigma_inside :
    isBlankText " ΔΟΣΑ\t" = false ∧ ((single "ΟΔΟΣΑ").similar " ΔΟΣΑ\t").length < 5 ∧
      Case.KeepsSigmas "Ο".toList (trim " ΔΟΣΑ\t").toList "".toList ∧
      "Ο" ++ trim " ΔΟΣΑ\t" ++ "" ∈ (single "ΟΔΟΣΑ").similar " ΔΟΣΑ\t" := by
  have hblank : isBlankText " ΔΟΣΑ\t" = false := by decide +kernel
  have hroom : ((single "ΟΔΟΣΑ").similar " ΔΟΣΑ\t").length < 5 := by decide +kernel
  have hkeeps : Case.KeepsSigmas "Ο".toList (trim " ΔΟΣΑ\t").toList "".toList := by decide +kernel
  have hpiece : ((single "ΟΔΟΣΑ").lookup ("Ο" ++ trim " ΔΟΣΑ\t" ++ "")).isSome = true := by
    decide +kernel
  obtain ⟨-, -, -, -, -, hcomplete, -⟩ := similar_sound_complete (single "ΟΔΟΣΑ") " ΔΟΣΑ\t"
  exact ⟨hblank, hroom, hkeeps, (hcomplete hblank hroom).2 "Ο" "" hpiece hkeeps⟩

/-- At the end of a word the sigma is a final one, and the name of the piece has none. -/
theorem similar_sigma_missed :
    (single "ΑΣΑ").names = ["ΑΣΑ"] ∧ "ΑΣΑ" = "" ++ trim "ΑΣ" ++ "Α" ∧
      isBlankText "ΑΣ" = false ∧ (single "ΑΣΑ").similar "ΑΣ" = [] := by
  decide +kernel

end Flowline.Catalog
