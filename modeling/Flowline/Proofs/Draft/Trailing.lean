import Flowline.Proofs.Draft.Reading

/-!
Which characters the comma filter takes out of a text, whether or not it is JSON. They are told by
their places: a comma goes exactly when all string literals before it have ended and only blanks
part it from a closing brace or bracket. A text that the strict reader accepts has no such comma, so
it stays as it is.
-/
namespace Flowline.Commas

/-- All string literals that begin in the text end in it. -/
inductive Closed : List Char → Prop where
  | nil : Closed []
  | literal {body cs : List Char} : IsLiteral body → Closed cs →
    Closed ('"' :: (body ++ '"' :: cs))
  | other {c : Char} {cs : List Char} : c ≠ '"' → Closed cs → Closed (c :: cs)

/-- At the place stands a comma outside string literals, and behind it a closing brace or bracket
with only blanks between. -/
def TrailsAt (cs : List Char) (i : Nat) : Prop :=
  ∃ front blanks c back, cs = front ++ ',' :: (blanks ++ c :: back) ∧ front.length = i ∧
    Closed front ∧ (∀ b ∈ blanks, Text.isBlank b = true) ∧ (c = '}' ∨ c = ']')

theorem Mode.after_literal {body : List Char} (h : IsLiteral body) (cs : List Char) :
    Mode.inside.after (body ++ '"' :: cs) = Mode.outside.after cs := by
  induction h with
  | nil => rfl
  | plain hquote hslash _ ih =>
    rw [List.cons_append, Mode.after_cons, Mode.next_inside hquote hslash, ih]
  | escape _ ih =>
    rw [List.cons_append, List.cons_append, Mode.after_cons, Mode.after_cons]
    change (Mode.escaped.next _).after _ = _
    rw [Mode.next_escaped, ih]

theorem closed_of_after (cs : List Char) (h : Mode.outside.after cs = .outside) : Closed cs := by
  match cs with
  | [] => exact .nil
  | c :: rest =>
    by_cases hquote : c = '"'
    · subst hquote
      obtain ⟨body, behind, rfl, hbody, hbehind⟩ := exists_literal_of_after rest h
      exact .literal hbody (closed_of_after behind hbehind)
    · rw [Mode.after_cons, Mode.next_outside hquote] at h
      exact .other hquote (closed_of_after rest h)
termination_by cs.length

/-- The reader stands outside literals exactly behind a text whose literals have all ended. -/
theorem closed_iff {cs : List Char} : Closed cs ↔ Mode.outside.after cs = .outside := by
  constructor
  · intro h
    induction h with
    | nil => rfl
    | literal hbody _ ih =>
      rw [Mode.after_cons]
      exact (Mode.after_literal hbody _).trans ih
    | other hquote _ ih => rw [Mode.after_cons, Mode.next_outside hquote, ih]
  · exact closed_of_after cs

theorem trailsAt_iff {front cs : List Char} {c : Char} :
    TrailsAt (front ++ c :: cs) front.length ↔
      isTrailing (Mode.outside.after front) c cs = true := by
  rw [isTrailing_iff, ← closed_iff, closes_iff]
  constructor
  · rintro ⟨front', blanks, d, back, heq, hlength, hclosed, hblanks, hd⟩
    obtain ⟨rfl, htail⟩ := List.append_inj heq hlength.symm
    obtain ⟨rfl, rfl⟩ := List.cons.inj htail
    exact ⟨hclosed, rfl, blanks, d, back, rfl, hblanks, hd⟩
  · rintro ⟨hclosed, rfl, blanks, d, back, rfl, hblanks, hd⟩
    exact ⟨front, blanks, d, back, rfl, rfl, hclosed, hblanks, hd⟩

theorem trailsAt_iff_getElem? {cs : List Char} {i : Nat} :
    TrailsAt cs i ↔ cs[i]?.any (fun c =>
      isTrailing (Mode.outside.after (cs.take i)) c (cs.drop (i + 1))) = true := by
  rw [Option.any_eq_true]
  constructor
  · intro h
    have hparts := h
    obtain ⟨front, blanks, d, back, rfl, rfl, -⟩ := hparts
    refine ⟨',', by simp, ?_⟩
    simpa using trailsAt_iff.1 h
  · rintro ⟨c, hc, h⟩
    obtain ⟨hi, rfl⟩ := List.getElem?_eq_some_iff.1 hc
    have hparts : cs = cs.take i ++ cs[i] :: cs.drop (i + 1) := by simp
    have hlength : (cs.take i).length = i := by simp; omega
    have htrails := trailsAt_iff.2 h
    rwa [← hparts, hlength] at htrails

instance (cs : List Char) : DecidablePred (TrailsAt cs) := fun i =>
  decidable_of_iff (cs[i]?.any (fun c =>
    isTrailing (Mode.outside.after (cs.take i)) c (cs.drop (i + 1))) = true)
    trailsAt_iff_getElem?.symm

/-- Behind a part of a text that has been read already the filter goes by the places in the whole
text. -/
theorem stripFrom_after (front cs : List Char) :
    stripFrom (Mode.outside.after front) cs =
      ((cs.zipIdx front.length).filter fun e => ¬ TrailsAt (front ++ cs) e.2).map (·.1) := by
  induction cs generalizing front with
  | nil => rfl
  | cons c cs ih =>
    have hrest := ih (front ++ [c])
    rw [Mode.after_append, List.append_assoc, List.length_append] at hrest
    change stripFrom ((Mode.outside.after front).next c) cs = _ at hrest
    rw [List.zipIdx_cons, List.filter_cons]
    cases htrailing : isTrailing (Mode.outside.after front) c cs with
    | true =>
      have htrails : TrailsAt (front ++ c :: cs) front.length := trailsAt_iff.2 htrailing
      obtain ⟨hmode, rfl, -⟩ := isTrailing_iff.1 htrailing
      have hnext : (Mode.outside.after front).next ',' = Mode.outside.after front := by
        rw [hmode]
        rfl
      rw [if_neg (by simpa using htrails), stripFrom, htrailing, if_pos rfl, ← hnext, hrest]
      rfl
    | false =>
      have hstays : ¬ TrailsAt (front ++ c :: cs) front.length := by
        rw [trailsAt_iff, htrailing]
        simp
      rw [if_pos (by simpa using hstays), stripFrom_cons htrailing, hrest, List.map_cons]
      rfl

/-- A text that the strict reader accepts, whatever nesting it allows, stays as it is. Every text
loses exactly the commas outside string literals behind which only blanks stand before a closing
brace or bracket. -/
theorem strip_takes_trailing (cs : List Char) :
    (∀ depth v, Json.parseDeep depth (String.ofList cs) = .ok v → strip cs = cs) ∧
    strip cs = (cs.zipIdx.filter fun e => ¬ TrailsAt cs e.2).map (·.1) := by
  constructor
  · intro depth v h
    exact Json.strip_of_parse h
  · exact stripFrom_after [] cs

/-- Of two commas the first is kept, and so is one in a literal that does not end. -/
example : strip [',', ',', ' ', '}', '"', ',', ']'] = [',', ' ', '}', '"', ',', ']'] := by decide

/-- The key ends behind three backslashes and a quote, the value behind two backslashes; the comma
in the value only looks like one that trails. -/
theorem strip_takes_none_escaped :
    let cs :=
      ['{', '"', 'a', '\\', '\\', '\\', '"', '"', ':', '"', ',', ']', '\\', '\\', '"', '}']
    Json.parse (String.ofList cs) = .ok (.obj [("a\\\"", .str ",]\\")]) ∧ strip cs = cs := by
  intro cs
  have hparse : Json.parse (String.ofList cs) = .ok (.obj [("a\\\"", .str ",]\\")]) :=
    Json.parse_eq_ok rfl rfl
  exact ⟨hparse, (strip_takes_trailing cs).1 Json.maxDepth _ hparse⟩

end Flowline.Commas
