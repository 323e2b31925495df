import Flowline.Draft.Candidate
import Flowline.Proofs.Draft.Reading

/-!
What a candidate is read from. The comma filter runs on text that is not known to be JSON, yet what
is accepted has a plain description: a JSON text with commas put in before closing braces and
brackets, between the first opening and the last closing brace.
-/
namespace Flowline.Draft
open Commas Json

/-- The span from the first opening to the last closing brace of a text. -/
def IsSpan (raw span : List Char) : Prop :=
  ∃ front inner back, raw = front ++ (span ++ back) ∧ span = '{' :: (inner ++ ['}']) ∧
    '{' ∉ front ∧ '}' ∉ back

theorem dropWhile_ne_append {c : Char} {front : List Char} (h : c ∉ front) (cs : List Char) :
    (front ++ c :: cs).dropWhile (· != c) = c :: cs := by
  induction front with
  | nil => simp
  | cons d front ih =>
    have hd : d ≠ c := fun heq => h (by simp [heq])
    rw [List.cons_append, List.dropWhile_cons_of_pos (by simpa using hd)]
    exact ih fun hmem => h (by simp [hmem])

theorem exists_of_dropWhile_ne {c : Char} {cs : List Char} (h : cs.dropWhile (· != c) ≠ []) :
    ∃ front rest, cs = front ++ c :: rest ∧ c ∉ front := by
  induction cs with
  | nil => exact absurd rfl h
  | cons d cs ih =>
    by_cases hd : d = c
    · exact ⟨[], cs, by rw [hd]; rfl, by simp⟩
    · rw [List.dropWhile_cons_of_pos (by simpa using hd)] at h
      obtain ⟨front, rest, rfl, hfront⟩ := ih h
      exact ⟨d :: front, rest, rfl, by simp [hfront, Ne.symm hd]⟩

theorem objectSpan_of_isSpan {raw span : List Char} (h : IsSpan raw span) :
    objectSpan raw = some span := by
  obtain ⟨front, inner, back, rfl, rfl, hfront, hback⟩ := h
  have hopening : (front ++ ('{' :: (inner ++ ['}']) ++ back)).dropWhile (· != '{') =
      '{' :: (inner ++ ['}']) ++ back := dropWhile_ne_append hfront _
  have hreverse : ('{' :: (inner ++ ['}']) ++ back).reverse =
      back.reverse ++ '}' :: ('{' :: inner).reverse := by simp
  have hclosing : (back.reverse ++ '}' :: ('{' :: inner).reverse).dropWhile (· != '}') =
      '}' :: ('{' :: inner).reverse := dropWhile_ne_append (by simpa using hback) _
  simp only [objectSpan, hopening, hreverse, hclosing]
  simp

theorem isSpan_of_objectSpan {raw span : List Char} (h : objectSpan raw = some span) :
    IsSpan raw span := by
  simp only [objectSpan] at h
  split at h
  · cases h
  next hnonempty =>
  have hclosing : (raw.dropWhile (· != '{')).reverse.dropWhile (· != '}') ≠ [] := by
    simpa using hnonempty
  obtain ⟨back, inner, hreverse, hback⟩ := exists_of_dropWhile_ne hclosing
  rw [hreverse, dropWhile_ne_append hback] at h
  have htail : raw.dropWhile (· != '{') = inner.reverse ++ '}' :: back.reverse := by
    rw [← List.reverse_reverse (raw.dropWhile _), hreverse]
    simp
  obtain ⟨front, rest, rfl, hfront⟩ : ∃ front rest, raw = front ++ '{' :: rest ∧ '{' ∉ front :=
    exists_of_dropWhile_ne (by simp [htail])
  rw [dropWhile_ne_append hfront] at htail
  obtain ⟨-, hbrace⟩ | ⟨inner', hinner, hrest⟩ := List.cons_eq_append_iff.1 htail
  · cases hbrace
  · have hspan : span = '{' :: (inner' ++ ['}']) := by
      rw [← Option.some.inj h]
      simp [hinner]
    refine ⟨front, inner', back.reverse, ?_, hspan, hfront, by simpa using hback⟩
    rw [hspan, hrest]
    simp

theorem objectSpan_eq_some_iff {raw span : List Char} :
    objectSpan raw = some span ↔ IsSpan raw span :=
  ⟨isSpan_of_objectSpan, objectSpan_of_isSpan⟩

/-- Both readings of a span, the strict one and the one without trailing commas, read a text that
has at most one comma less before each of its closing braces and brackets. -/
theorem exists_added_of_candidate {raw : String} {v : Json} (h : candidate raw = .ok v) :
    ∃ span text, IsSpan raw.toList span ∧ Added text span ∧
      parse (String.ofList text) = .ok v := by
  unfold candidate at h
  split at h
  · cases h
  next span hspan =>
  have hisSpan := objectSpan_eq_some_iff.1 hspan
  split at h
  · next hread =>
    cases h
    have hadded := added_strip span (after_of_parse hread)
    rw [strip_of_parse hread] at hadded
    exact ⟨span, span, hisSpan, hadded, hread⟩
  · split at h
    · next hread =>
      cases h
      have hafter : Mode.outside.after span = .outside := by
        rw [← after_stripFrom]
        exact after_of_parse hread
      exact ⟨span, strip span, hisSpan, added_strip span hafter, hread⟩
    · cases h

theorem candidate_of_added {raw : String} {v : Json} {span text : List Char}
    (hspan : IsSpan raw.toList span) (hadded : Added text span)
    (hread : parse (String.ofList text) = .ok v) : candidate raw = .ok v := by
  have hstrip : strip span = text := hadded.strip_eq (strip_of_parse hread)
  simp only [candidate, objectSpan_eq_some_iff.2 hspan, readSpan, hstrip, hread]
  split
  · next v' hfirst =>
    rw [← strip_of_parse hfirst, hstrip, hread] at hfirst
    cases hfirst
    rfl
  · rfl

theorem candidate_eq_noObject_iff {raw shown : String} :
    candidate raw = .error (.noObject shown) ↔
      shown = raw ∧ ¬ ∃ span, IsSpan raw.toList span := by
  simp only [← objectSpan_eq_some_iff]
  unfold candidate
  split
  · next hnone => simp [hnone, eq_comm]
  · next span hspan =>
    have hexists : ∃ s, objectSpan raw.toList = some s := ⟨span, hspan⟩
    simp only [hexists, not_true_eq_false, and_false, iff_false]
    split
    · simp
    · split <;> simp

/-- A candidate is the object in a JSON text into which commas have been put before closing braces
and brackets, at most one before each. Only a text without a span is said to hold no object. -/
theorem candidate_grammar (raw : String) :
    (∀ v, candidate raw = .ok v ↔ ∃ span text, IsSpan raw.toList span ∧ Added text span ∧
      parse (String.ofList text) = .ok v) ∧
    (∀ v, candidate raw = .ok v → ∃ members, v = .obj members) ∧
    ∀ shown, candidate raw = .error (.noObject shown) ↔
      shown = raw ∧ ¬ ∃ span, IsSpan raw.toList span := by
  refine ⟨fun v => ⟨exists_added_of_candidate, ?_⟩, fun v h => ?_, fun shown =>
    candidate_eq_noObject_iff⟩
  · rintro ⟨span, text, hspan, hadded, hread⟩
    exact candidate_of_added hspan hadded hread
  · obtain ⟨span, text, hspan, hadded, hread⟩ := exists_added_of_candidate h
    obtain ⟨front, inner, back, -, rfl, -⟩ := hspan
    obtain ⟨tail, rfl⟩ := hadded.exists_cons
    exact exists_obj_of_parse hread

/-- The literal looks as if a comma could be taken out of it; the object does end in one. -/
theorem candidate_trailing :
    candidate "so \x7b\"a\":\",\x7d\",\x7d." = .ok (.obj [("a", .str ",\x7d")]) := by
  have hraw : "so \x7b\"a\":\",\x7d\",\x7d." = String.ofList (['s', 'o', ' '] ++
      ('{' :: (['"', 'a', '"', ':', '"', ',', '}', '"', ','] ++ ['}']) ++ ['.'])) := rfl
  rw [hraw]
  refine ((candidate_grammar _).1 _).2
    ⟨'{' :: (['"', 'a', '"', ':', '"', ',', '}', '"', ','] ++ ['}']), _,
      ⟨['s', 'o', ' '], _, ['.'], String.toList_ofList, rfl, by decide, by decide⟩,
      added_strip _ (by decide), ?_⟩
  rw [parse, parseDeep, String.toList_ofList]
  rfl

end Flowline.Draft
