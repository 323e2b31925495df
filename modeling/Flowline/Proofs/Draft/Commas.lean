import Flowline.Draft.Commas

/-!
Trailing commas put into a text and taken out again. A text without any comes back from every text
that has at most one more comma before each of its closing braces and brackets, and where all string
literals end nothing else is taken out.
-/
namespace Flowline.Commas

/-- What may stand between the quotes of a string literal: a quote or a backslash only behind a
backslash. -/
inductive IsLiteral : List Char → Prop where
  | nil : IsLiteral []
  | plain {c : Char} {body : List Char} : c ≠ '"' → c ≠ '\\' → IsLiteral body →
    IsLiteral (c :: body)
  | escape {c : Char} {body : List Char} : IsLiteral body → IsLiteral ('\\' :: c :: body)

/-- The second text is the first with at most one comma put before each closing brace or bracket
outside string literals; blanks may stand between the two. -/
inductive Added : List Char → List Char → Prop where
  | nil : Added [] []
  | literal {body cs ds : List Char} : IsLiteral body → Added cs ds →
    Added ('"' :: (body ++ '"' :: cs)) ('"' :: (body ++ '"' :: ds))
  | other {c : Char} {cs ds : List Char} : c ≠ '"' → Added cs ds → Added (c :: cs) (c :: ds)
  | comma {blanks cs ds : List Char} {c : Char} : (∀ b ∈ blanks, Text.isBlank b = true) →
    c = '}' ∨ c = ']' → Added cs ds → Added (blanks ++ c :: cs) (',' :: (blanks ++ c :: ds))

def Mode.after (m : Mode) (cs : List Char) : Mode := cs.foldl Mode.next m

theorem Mode.after_cons (m : Mode) (c : Char) (cs : List Char) :
    m.after (c :: cs) = (m.next c).after cs := rfl

theorem Mode.after_append (m : Mode) (cs ds : List Char) :
    m.after (cs ++ ds) = (m.after cs).after ds := List.foldl_append

theorem Mode.next_outside {c : Char} (h : c ≠ '"') : Mode.outside.next c = .outside := by
  unfold next
  split <;> simp_all

theorem Mode.next_inside {c : Char} (h : c ≠ '"') (h' : c ≠ '\\') :
    Mode.inside.next c = .inside := by
  unfold next
  split <;> simp_all

theorem Mode.next_escaped (c : Char) : Mode.escaped.next c = .inside := by
  unfold next
  split <;> simp_all

theorem stripFrom_cons {m : Mode} {c : Char} {cs : List Char} (h : isTrailing m c cs = false) :
    stripFrom m (c :: cs) = c :: stripFrom (m.next c) cs := by
  rw [stripFrom, h]
  rfl

theorem isTrailing_of_ne_outside {m : Mode} (h : m ≠ .outside) (c : Char) (cs : List Char) :
    isTrailing m c cs = false := by
  cases m with
  | outside => exact absurd rfl h
  | inside => rfl
  | escaped => rfl

theorem isTrailing_of_ne_comma {c : Char} (h : c ≠ ',') (m : Mode) (cs : List Char) :
    isTrailing m c cs = false := by
  simp [isTrailing, h]

theorem isTrailing_iff {m : Mode} {c : Char} {cs : List Char} :
    isTrailing m c cs = true ↔ m = .outside ∧ c = ',' ∧ closes cs = true := by
  simp [isTrailing, and_assoc]

theorem isTrailing_comma (cs : List Char) : isTrailing .outside ',' cs = closes cs := by
  simp [isTrailing]

theorem length_stripFrom_le (m : Mode) (cs : List Char) :
    (stripFrom m cs).length ≤ cs.length := by
  induction cs generalizing m with
  | nil => simp [stripFrom]
  | cons c cs ih =>
    rw [stripFrom]
    split
    · have := ih m
      simp only [List.length_cons]
      omega
    · have := ih (m.next c)
      simp only [List.length_cons]
      omega

/-- A text that keeps its first character has no trailing comma there. -/
theorem isTrailing_of_stripFrom_eq {m : Mode} {c : Char} {cs : List Char}
    (h : stripFrom m (c :: cs) = c :: cs) : isTrailing m c cs = false := by
  cases htrailing : isTrailing m c cs with
  | false => rfl
  | true =>
    rw [stripFrom, htrailing, if_pos rfl] at h
    have hlength := length_stripFrom_le m cs
    rw [h, List.length_cons] at hlength
    omega

theorem stripFrom_literal {body : List Char} (h : IsLiteral body) (cs : List Char) :
    stripFrom .inside (body ++ '"' :: cs) = body ++ '"' :: strip cs := by
  induction h with
  | nil => rw [List.nil_append, stripFrom_cons rfl]; rfl
  | plain hquote hslash _ ih =>
    rw [List.cons_append, stripFrom_cons (isTrailing_of_ne_outside (by simp) _ _),
      Mode.next_inside hquote hslash, ih, List.cons_append]
  | escape _ ih =>
    rw [List.cons_append, List.cons_append, stripFrom_cons rfl,
      stripFrom_cons (isTrailing_of_ne_outside (by simp [Mode.next]) _ _)]
    change _ :: _ :: stripFrom (Mode.escaped.next _) _ = _
    rw [Mode.next_escaped, ih]
    rfl

theorem strip_literal {body : List Char} (h : IsLiteral body) (cs : List Char) :
    strip ('"' :: (body ++ '"' :: cs)) = '"' :: (body ++ '"' :: strip cs) := by
  rw [strip, stripFrom_cons rfl, ← stripFrom_literal h]
  rfl

theorem ne_quote_of_isBlank {c : Char} (h : Text.isBlank c = true) : c ≠ '"' := by
  rintro rfl
  exact absurd h (by decide)

theorem ne_comma_of_isBlank {c : Char} (h : Text.isBlank c = true) : c ≠ ',' := by
  rintro rfl
  exact absurd h (by decide)

theorem ne_quote_of_closing {c : Char} (h : c = '}' ∨ c = ']') : c ≠ '"' := by
  rcases h with rfl | rfl <;> decide

theorem Mode.after_blanks {blanks : List Char} (h : ∀ b ∈ blanks, Text.isBlank b = true) :
    Mode.outside.after blanks = .outside := by
  induction blanks with
  | nil => rfl
  | cons b blanks ih =>
    rw [Mode.after_cons, Mode.next_outside (ne_quote_of_isBlank (h b (by simp)))]
    exact ih fun d hd => h d (by simp [hd])

theorem strip_cons {c : Char} {cs : List Char} (hquote : c ≠ '"')
    (h : isTrailing .outside c cs = false) : strip (c :: cs) = c :: strip cs := by
  rw [strip, stripFrom_cons h, Mode.next_outside hquote]
  rfl

theorem strip_blanks {blanks : List Char} (h : ∀ b ∈ blanks, Text.isBlank b = true)
    (cs : List Char) : strip (blanks ++ cs) = blanks ++ strip cs := by
  induction blanks with
  | nil => rfl
  | cons b blanks ih =>
    have hb := h b (by simp)
    rw [List.cons_append, strip_cons (ne_quote_of_isBlank hb)
      (isTrailing_of_ne_comma (ne_comma_of_isBlank hb) _ _), ih fun d hd => h d (by simp [hd]),
      List.cons_append]

theorem strip_closing {c : Char} (h : c = '}' ∨ c = ']') (cs : List Char) :
    strip (c :: cs) = c :: strip cs := by
  rcases h with rfl | rfl
  · exact strip_cons (by decide) (isTrailing_of_ne_comma (by decide) _ _)
  · exact strip_cons (by decide) (isTrailing_of_ne_comma (by decide) _ _)

theorem strip_comma {cs : List Char} (h : closes cs = true) : strip (',' :: cs) = strip cs := by
  rw [strip, stripFrom, isTrailing_comma, h]
  rfl

theorem closes_cons_of_isBlank {b : Char} (h : Text.isBlank b = true) (cs : List Char) :
    closes (b :: cs) = closes cs := by
  rw [closes, List.dropWhile_cons_of_pos h, closes]

theorem closes_cons {c : Char} (h : Text.isBlank c = false) (cs : List Char) :
    closes (c :: cs) = (c == '}' || c == ']') := by
  rw [closes, List.dropWhile_cons_of_neg (by simp [h])]
  split
  · next heq =>
    obtain ⟨rfl, -⟩ := List.cons.inj heq
    rfl
  · next heq =>
    obtain ⟨rfl, -⟩ := List.cons.inj heq
    rfl
  · next hbrace hbracket =>
    have hb : c ≠ '}' := fun hc => hbrace cs (by rw [hc])
    have hk : c ≠ ']' := fun hc => hbracket cs (by rw [hc])
    simp [hb, hk]

theorem closes_iff {cs : List Char} :
    closes cs = true ↔ ∃ blanks c rest, cs = blanks ++ c :: rest ∧
      (∀ b ∈ blanks, Text.isBlank b = true) ∧ (c = '}' ∨ c = ']') := by
  constructor
  · intro h
    induction cs with
    | nil => cases h
    | cons c cs ih =>
      cases hc : Text.isBlank c with
      | true =>
        rw [closes_cons_of_isBlank hc] at h
        obtain ⟨blanks, d, rest, rfl, hblanks, hd⟩ := ih h
        exact ⟨c :: blanks, d, rest, rfl, by simpa [hc] using hblanks, hd⟩
      | false =>
        rw [closes_cons hc] at h
        exact ⟨[], c, cs, rfl, by simp, by simpa using h⟩
  · rintro ⟨blanks, c, rest, rfl, hblanks, hc⟩
    induction blanks with
    | nil => rcases hc with rfl | rfl <;> rfl
    | cons b blanks ih =>
      rw [List.cons_append, closes_cons_of_isBlank (hblanks b (by simp))]
      exact ih fun d hd => hblanks d (by simp [hd])

/-- Commas that are put in do not close anything. -/
theorem Added.closes_eq_false {cs ds : List Char} (h : Added cs ds) (hcs : closes cs = false) :
    closes ds = false := by
  induction h with
  | nil => rfl
  | literal => exact closes_cons (by decide) _
  | @other c cs ds _ _ ih =>
    cases hc : Text.isBlank c with
    | true =>
      rw [closes_cons_of_isBlank hc] at hcs ⊢
      exact ih hcs
    | false =>
      rw [closes_cons hc] at hcs ⊢
      exact hcs
  | comma => exact closes_cons (by decide) _

/-- Commas do not change the mode, so taking them out does not change it either. -/
theorem after_stripFrom (m : Mode) (cs : List Char) : m.after (stripFrom m cs) = m.after cs := by
  induction cs generalizing m with
  | nil => rfl
  | cons c cs ih =>
    cases htrailing : isTrailing m c cs with
    | true =>
      obtain ⟨rfl, rfl, -⟩ := isTrailing_iff.1 htrailing
      rw [stripFrom, htrailing, if_pos rfl, ih]
      rfl
    | false => rw [stripFrom_cons htrailing, Mode.after_cons, ih, Mode.after_cons]

/-- A text that begins with an opening brace after commas are put in does so before. -/
theorem Added.exists_cons {cs ds : List Char} (h : Added cs ('{' :: ds)) :
    ∃ tail, cs = '{' :: tail := by
  cases h with
  | other => exact ⟨_, rfl⟩

/-- Trailing commas put into a text that has none are taken out, and nothing else. -/
theorem Added.strip_eq {cs ds : List Char} (h : Added cs ds) (hcs : strip cs = cs) :
    strip ds = cs := by
  induction h with
  | nil => rfl
  | @literal body cs ds hbody hadded ih =>
    rw [strip_literal hbody] at hcs ⊢
    rw [ih (by simpa using hcs)]
  | @other c cs ds hquote hadded ih =>
    have hkept : isTrailing .outside c cs = false := isTrailing_of_stripFrom_eq hcs
    rw [strip_cons hquote hkept] at hcs
    have hkept' : isTrailing .outside c ds = false := by
      by_cases hc : c = ','
      · subst hc
        rw [isTrailing_comma] at hkept ⊢
        exact hadded.closes_eq_false hkept
      · exact isTrailing_of_ne_comma hc _ _
    rw [strip_cons hquote hkept', ih (by simpa using hcs)]
  | @comma blanks cs ds c hblanks hc hadded ih =>
    rw [strip_comma (closes_iff.2 ⟨blanks, c, ds, rfl, hblanks, hc⟩), strip_blanks hblanks,
      strip_closing hc]
    rw [strip_blanks hblanks, strip_closing hc] at hcs
    rw [ih (by simpa using hcs)]

theorem exists_literal_of_after (cs : List Char) (h : Mode.inside.after cs = .outside) :
    ∃ body rest, cs = body ++ '"' :: rest ∧ IsLiteral body ∧ Mode.outside.after rest = .outside := by
  match cs with
  | [] => cases h
  | [c] =>
    by_cases hquote : c = '"'
    · subst hquote
      exact ⟨[], [], rfl, .nil, h⟩
    · by_cases hslash : c = '\\'
      · subst hslash
        cases h
      · rw [Mode.after_cons, Mode.next_inside hquote hslash] at h
        cases h
  | c :: d :: rest =>
    by_cases hquote : c = '"'
    · subst hquote
      exact ⟨[], d :: rest, rfl, .nil, h⟩
    · by_cases hslash : c = '\\'
      · subst hslash
        rw [Mode.after_cons, Mode.after_cons] at h
        have hinside : (Mode.inside.next '\\').next d = .inside := Mode.next_escaped d
        rw [hinside] at h
        obtain ⟨body, behind, rfl, hbody, hbehind⟩ := exists_literal_of_after rest h
        exact ⟨'\\' :: d :: body, behind, rfl, .escape hbody, hbehind⟩
      · rw [Mode.after_cons, Mode.next_inside hquote hslash] at h
        obtain ⟨body, behind, heq, hbody, hbehind⟩ := exists_literal_of_after (d :: rest) h
        exact ⟨c :: body, behind, by rw [heq]; rfl, .plain hquote hslash hbody, hbehind⟩

/-- Where all literals end, what is taken out are commas before closing braces and brackets. -/
theorem added_strip (cs : List Char) (h : Mode.outside.after cs = .outside) :
    Added (strip cs) cs := by
  match cs with
  | [] => exact .nil
  | c :: rest =>
    by_cases hquote : c = '"'
    · subst hquote
      obtain ⟨body, behind, rfl, hbody, hbehind⟩ := exists_literal_of_after rest h
      rw [strip_literal hbody]
      exact .literal hbody (added_strip behind hbehind)
    · have hrest : Mode.outside.after rest = .outside := by
        rw [Mode.after_cons, Mode.next_outside hquote] at h
        exact h
      cases htrailing : isTrailing .outside c rest with
      | false =>
        rw [strip_cons hquote htrailing]
        exact .other hquote (added_strip rest hrest)
      | true =>
        obtain ⟨-, rfl, hcloses⟩ := isTrailing_iff.1 htrailing
        rw [strip_comma hcloses]
        obtain ⟨blanks, d, behind, rfl, hblanks, hd⟩ := closes_iff.1 hcloses
        rw [strip_blanks hblanks, strip_closing hd]
        have hbehind : Mode.outside.after behind = .outside := by
          rw [Mode.after_append, Mode.after_blanks hblanks, Mode.after_cons,
            Mode.next_outside (ne_quote_of_closing hd)] at hrest
          exact hrest
        exact .comma hblanks hd (added_strip behind hbehind)
termination_by cs.length

end Flowline.Commas
