import Flowline.Proofs.Draft.Commas
import Flowline.Proofs.Json.Fields
import Flowline.Json.Parser

/-!
The strict reader and the two flags of the comma filter. Whatever the reader reads the filter keeps,
and both agree on where a string literal begins and ends.
-/
namespace Flowline.Commas

/-- From the first mode and text the filter comes to the second mode and text without taking out a
character. -/
inductive Passes : Mode → List Char → Mode → List Char → Prop where
  | done {m : Mode} {cs : List Char} : Passes m cs m cs
  | step {m m' : Mode} {c : Char} {cs rest : List Char} : isTrailing m c cs = false →
    Passes (m.next c) cs m' rest → Passes m (c :: cs) m' rest

namespace Passes

variable {m m' m'' : Mode} {c : Char} {cs ds es : List Char}

theorem trans (first : Passes m cs m' ds) (second : Passes m' ds m'' es) : Passes m cs m'' es := by
  induction first with
  | done => exact second
  | step h _ ih => exact .step h (ih second)

theorem after_eq (h : Passes m cs m' ds) : m.after cs = m'.after ds := by
  induction h with
  | done => rfl
  | step _ _ ih => rw [Mode.after_cons, ih]

theorem stripFrom_eq (h : Passes m cs m' ds) (hds : stripFrom m' ds = ds) :
    stripFrom m cs = cs := by
  induction h with
  | done => exact hds
  | step h _ ih => rw [stripFrom_cons h, ih hds]

/-- Between literals every character but a quote and a comma passes. -/
theorem plain (hquote : c ≠ '"') (hcomma : c ≠ ',') (h : Passes .outside cs m' ds) :
    Passes .outside (c :: cs) m' ds :=
  .step (isTrailing_of_ne_comma hcomma _ _) (by rwa [Mode.next_outside hquote])

theorem openQuote (h : Passes .inside cs m' ds) : Passes .outside ('"' :: cs) m' ds := .step rfl h

theorem comma (hcloses : closes cs = false) (h : Passes .outside cs m' ds) :
    Passes .outside (',' :: cs) m' ds := .step (by rwa [isTrailing_comma]) h

theorem letter (hquote : c ≠ '"') (hslash : c ≠ '\\') (h : Passes .inside cs m' ds) :
    Passes .inside (c :: cs) m' ds := .step rfl (by rwa [Mode.next_inside hquote hslash])

theorem escaped (h : Passes .inside cs m' ds) : Passes .escaped (c :: cs) m' ds :=
  .step rfl (by rwa [Mode.next_escaped])

theorem dropWhile {p : Char → Bool} (hp : ∀ c, p c = true → c ≠ '"' ∧ c ≠ ',')
    (cs : List Char) : Passes .outside cs .outside (cs.dropWhile p) := by
  induction cs with
  | nil => exact .done
  | cons c cs ih =>
    cases hc : p c with
    | true =>
      rw [List.dropWhile_cons_of_pos hc]
      exact plain (hp c hc).1 (hp c hc).2 ih
    | false =>
      rw [List.dropWhile_cons_of_neg (by simp [hc])]
      exact .done

end Passes
end Flowline.Commas

namespace Flowline.Json.Parser
open Commas Decode

theorem passes_skip (cs : List Char) : Passes .outside cs .outside (skip cs) := by
  refine Passes.dropWhile (fun c hc => ⟨?_, ?_⟩) cs
  · rintro rfl
    exact absurd hc (by decide)
  · rintro rfl
    exact absurd hc (by decide)

theorem isBlank_of_isSpace {c : Char} (h : isSpace c = true) : Text.isBlank c = true := by
  simp only [isSpace, Bool.or_eq_true, beq_iff_eq] at h
  rcases h with ((rfl | rfl) | rfl) | rfl <;> decide

theorem closes_skip (cs : List Char) : closes (skip cs) = closes cs := by
  induction cs with
  | nil => rfl
  | cons c cs ih =>
    cases hc : isSpace c with
    | true =>
      rw [skip, List.dropWhile_cons_of_pos hc, closes_cons_of_isBlank (isBlank_of_isSpace hc)]
      exact ih
    | false => rw [skip, List.dropWhile_cons_of_neg (by simp [hc])]

theorem passes_hex {c : Char} {n : Nat} {cs : List Char} (h : Text.hexValue c = some n)
    {m' : Mode} {ds : List Char} (hcs : Passes .inside cs m' ds) :
    Passes .inside (c :: cs) m' ds := by
  refine hcs.letter ?_ ?_
  · rintro rfl
    cases h
  · rintro rfl
    cases h

theorem passes_hex4 {cs rest : List Char} {n : Nat} (h : hex4 cs = .ok (n, rest)) :
    Passes .inside cs .inside rest := by
  unfold hex4 at h
  split at h
  · next a b c d rest' =>
    split at h
    · next ha hb hc hd =>
      cases h
      exact passes_hex ha (passes_hex hb (passes_hex hc (passes_hex hd .done)))
    · cases h
  · split at h <;> cases h

theorem passes_unicodeEscape {cs rest : List Char} {c : Char}
    (h : unicodeEscape cs = .ok (c, rest)) : Passes .inside cs .inside rest := by
  obtain ⟨⟨n, behind⟩, hn, h⟩ := bind_eq_ok.1 h
  refine (passes_hex4 hn).trans ?_
  dsimp only at h
  split at h
  · cases h
  · split at h
    · cases h
      exact .done
    · split at h
      · next low =>
        obtain ⟨⟨k, behind'⟩, hk, h⟩ := bind_eq_ok.1 h
        dsimp only at h
        split at h
        · cases h
        · obtain ⟨-, rfl⟩ := Prod.mk.inj (Except.ok.inj h)
          exact .step rfl (.escaped (passes_hex4 hk))
      · cases h
      · cases h
      · cases h
      · cases h

theorem passes_escape {cs rest : List Char} {c : Char} (h : escape cs = .ok (c, rest)) :
    Passes .escaped cs .inside rest := by
  unfold escape at h
  split at h
  · cases h
  · exact .escaped (passes_unicodeEscape h)
  all_goals
    cases h
    try exact .escaped .done

theorem passes_stringBody {fuel : Nat} {cs body rest : List Char}
    (h : stringBody fuel cs = .ok (body, rest)) : Passes .inside cs .outside rest := by
  fun_induction stringBody fuel cs generalizing body with
  | case1 => cases h
  | case2 => cases h
  | case3 =>
    cases h
    exact .step rfl .done
  | case4 fuel cs ih =>
    obtain ⟨⟨c, behind⟩, hc, h⟩ := bind_eq_ok.1 h
    obtain ⟨⟨body', behind'⟩, hbody, h⟩ := bind_eq_ok.1 h
    cases h
    exact .step rfl ((passes_escape hc).trans (ih _ hbody))
  | case5 => cases h
  | case6 fuel c cs hquote hslash _ ih =>
    obtain ⟨⟨body', behind⟩, hbody, h⟩ := bind_eq_ok.1 h
    cases h
    exact (ih hbody).letter (fun hc => hquote hc) (fun hc => hslash hc)

theorem passes_string {cs rest : List Char} {s : String} (h : string cs = .ok (s, rest)) :
    Passes .inside cs .outside rest := by
  obtain ⟨⟨body, behind⟩, hbody, h⟩ := bind_eq_ok.1 h
  cases h
  exact passes_stringBody hbody

theorem passes_digits (cs : List Char) : Passes .outside cs .outside (cs.dropWhile Char.isDigit) := by
  refine Passes.dropWhile (fun c hc => ⟨?_, ?_⟩) cs
  · rintro rfl
    exact absurd hc (by decide)
  · rintro rfl
    exact absurd hc (by decide)

theorem rest_of_finish {negative : Bool} {significand : Nat} {k : Int} {cs rest : List Char}
    {n : Number} (h : finish negative significand k cs = .ok (n, rest)) : rest = cs := by
  unfold finish at h
  split at h
  · cases h
    rfl
  · cases h

theorem rest_of_integer {negative : Bool} {k : Nat} {cs rest : List Char} {n : Number}
    (h : integer negative k cs = .ok (n, rest)) : rest = cs := by
  unfold integer at h
  split at h
  · cases h
    rfl
  · split at h
    · exact rest_of_finish h
    · cases h
      rfl

theorem passes_sign {cs signed : List Char} {down : Bool}
    (h : (match cs with
      | '+' :: rest => (false, rest)
      | '-' :: rest => (true, rest)
      | _ => (false, cs)) = (down, signed)) : Passes .outside cs .outside signed := by
  split at h
  · cases h
    exact .plain (by decide) (by decide) .done
  · cases h
    exact .plain (by decide) (by decide) .done
  · cases h
    exact .done

theorem passes_exponentPart {negative : Bool} {significand : Nat} {k : Int} {cs rest : List Char}
    {n : Number} (h : exponentPart negative significand k cs = .ok (n, rest)) :
    Passes .outside cs .outside rest := by
  unfold exponentPart at h
  split at h
  next down signed hsign =>
  refine (passes_sign hsign).trans ?_
  split at h
  · cases h
  · split at h
    · cases h
    · split at h
      · rw [rest_of_finish h]
        exact passes_digits _
      · split at h
        · cases h
        · cases h
          exact passes_digits _

/-- What may follow the digits behind the point of a number. -/
theorem passes_fraction {negative : Bool} {significand : Nat} {k : Int} {cs rest : List Char}
    {n : Number}
    (h : (match cs with
      | 'e' :: rest => exponentPart negative significand k rest
      | 'E' :: rest => exponentPart negative significand k rest
      | _ => finish negative significand k cs) = .ok (n, rest)) :
    Passes .outside cs .outside rest := by
  split at h
  · exact .plain (by decide) (by decide) (passes_exponentPart h)
  · exact .plain (by decide) (by decide) (passes_exponentPart h)
  · rw [rest_of_finish h]
    exact .done

theorem passes_number {negative : Bool} {cs rest : List Char} {n : Number}
    (h : number negative cs = .ok (n, rest)) : Passes .outside cs .outside rest := by
  unfold number at h
  split at h
  · cases h
  next c tail =>
  split at h
  · cases h
  dsimp only at h
  have hwhole : Passes .outside (c :: tail) .outside
      (if c == '0' then tail else (c :: tail).dropWhile Char.isDigit) := by
    split
    · next hc =>
      obtain rfl := eq_of_beq hc
      exact .plain (by decide) (by decide) .done
    · exact passes_digits _
  generalize (if c == '0' then ['0'] else (c :: tail).takeWhile Char.isDigit) = whole at h
  generalize (if c == '0' then tail else (c :: tail).dropWhile Char.isDigit) = behind at h hwhole
  refine hwhole.trans ?_
  split at h
  · next fraction =>
    refine .plain (by decide) (by decide) ?_
    split at h
    · split at h <;> cases h
    · exact (passes_digits fraction).trans (passes_fraction h)
  · exact .plain (by decide) (by decide) (passes_exponentPart h)
  · exact .plain (by decide) (by decide) (passes_exponentPart h)
  · split at h
    · cases h
    · split at h
      · rw [rest_of_integer h]
        exact .done
      · rw [rest_of_finish h]
        exact .done
  · split at h
    · rw [rest_of_integer h]
      exact .done
    · rw [rest_of_finish h]
      exact .done

theorem passes_literal {letters cs rest : List Char}
    (hletters : ∀ e ∈ letters, e ≠ '"' ∧ e ≠ ',') (h : literal letters cs = .ok rest) :
    Passes .outside cs .outside rest := by
  induction letters generalizing cs with
  | nil =>
    cases h
    exact .done
  | cons e letters ih =>
    cases cs with
    | nil => cases h
    | cons c cs =>
      unfold literal at h
      split at h
      · next hc =>
        subst hc
        obtain ⟨hquote, hcomma⟩ := hletters c (by simp)
        exact .plain hquote hcomma (ih (fun d hd => hletters d (by simp [hd])) h)
      · cases h

theorem isBlank_of_isDigit {c : Char} (h : c.isDigit = true) : Text.isBlank c = false := by
  simp only [Char.isDigit, Bool.and_eq_true, decide_eq_true_eq, UInt32.le_iff_toNat_le,
    ge_iff_le] at h
  obtain ⟨hlow, hhigh⟩ := h
  have hlow' : 48 ≤ c.val.toNat := hlow
  have hhigh' : c.val.toNat ≤ 57 := hhigh
  simp only [Text.isBlank, Bool.or_eq_false_iff, Bool.and_eq_false_iff, decide_eq_false_iff_not,
    beq_eq_false_iff_ne]
  omega

/-- A value begins with such a character, blanks before it aside. -/
def startsValue (c : Char) : Bool := ['"', '[', '{', 'n', 't', 'f', '-'].contains c || c.isDigit

theorem isBlank_of_startsValue {c : Char} (h : startsValue c = true) : Text.isBlank c = false := by
  rcases Bool.or_eq_true_iff.1 h with hmem | hdigit
  · simp only [List.contains_iff_mem, List.mem_cons, List.not_mem_nil, or_false] at hmem
    rcases hmem with rfl | rfl | rfl | rfl | rfl | rfl | rfl <;> decide
  · exact isBlank_of_isDigit hdigit

theorem exists_start_of_value {fuel depth : Nat} {cs rest : List Char} {v : Json}
    (h : value fuel depth cs = .ok (v, rest)) :
    ∃ c tail, skip cs = c :: tail ∧ startsValue c = true := by
  cases fuel with
  | zero => cases h
  | succ fuel =>
    unfold value at h
    split at h
    case h_1 => cases h
    case h_9 c tail _ _ _ _ _ _ _ heq =>
      split at h
      · next hdigit => exact ⟨c, tail, heq, by simp [startsValue, hdigit]⟩
      · cases h
    all_goals
      next heq =>
      exact ⟨_, _, heq, by decide⟩

/-- No value begins with a closing brace or bracket. -/
theorem closes_of_value {fuel depth : Nat} {cs rest : List Char} {v : Json}
    (h : value fuel depth cs = .ok (v, rest)) : closes cs = false := by
  obtain ⟨c, tail, heq, hstart⟩ := exists_start_of_value h
  rw [← closes_skip, heq, closes_cons (isBlank_of_startsValue hstart)]
  have hbrace : c ≠ '}' := by
    rintro rfl
    exact absurd hstart (by decide)
  have hbracket : c ≠ ']' := by
    rintro rfl
    exact absurd hstart (by decide)
  simp [hbrace, hbracket]

theorem closes_of_elements {fuel depth : Nat} {cs rest : List Char} {vs : List Json}
    (h : elements fuel depth cs = .ok (vs, rest)) : closes cs = false := by
  cases fuel with
  | zero => cases h
  | succ fuel =>
    unfold elements at h
    obtain ⟨⟨v, behind⟩, hv, -⟩ := bind_eq_ok.1 h
    exact closes_of_value hv

/-- The readers of values with this fuel pass over what they read; a reader of members starts inside
the literal of a key. -/
structure ReadsPass (fuel : Nat) : Prop where
  value : ∀ {depth : Nat} {cs rest : List Char} {v : Json},
    value fuel depth cs = .ok (v, rest) → Passes .outside cs .outside rest
  elements : ∀ {depth : Nat} {cs rest : List Char} {vs : List Json},
    elements fuel depth cs = .ok (vs, rest) → Passes .outside cs .outside rest
  members : ∀ {depth : Nat} {cs rest : List Char} {kvs : Members},
    members fuel depth cs = .ok (kvs, rest) → Passes .inside cs .outside rest

namespace ReadsPass

variable {fuel depth : Nat} {cs rest : List Char}

theorem value_succ (ih : ReadsPass fuel) {v : Json}
    (h : Parser.value (fuel + 1) depth cs = .ok (v, rest)) :
    Passes .outside cs .outside rest := by
  refine (passes_skip cs).trans ?_
  unfold Parser.value at h
  split at h
  case h_1 => cases h
  case h_2 heq =>
    obtain ⟨⟨s, behind⟩, hs, h⟩ := bind_eq_ok.1 h
    cases h
    rw [heq]
    exact .openQuote (passes_string hs)
  case h_3 heq =>
    rw [heq]
    refine .plain (by decide) (by decide) ((passes_skip _).trans ?_)
    split at h
    · cases h
    · split at h
      · cases h
      · next hskip =>
        cases h
        rw [hskip]
        exact .plain (by decide) (by decide) .done
      · obtain ⟨⟨vs, behind⟩, hvs, h⟩ := bind_eq_ok.1 h
        cases h
        exact ih.elements hvs
  case h_4 heq =>
    rw [heq]
    refine .plain (by decide) (by decide) ((passes_skip _).trans ?_)
    split at h
    · cases h
    · split at h
      · cases h
      · next hskip =>
        cases h
        rw [hskip]
        exact .plain (by decide) (by decide) .done
      · next hskip =>
        obtain ⟨⟨kvs, behind⟩, hkvs, h⟩ := bind_eq_ok.1 h
        cases h
        rw [hskip]
        exact .openQuote (ih.members hkvs)
      · cases h
  case h_8 heq =>
    obtain ⟨⟨n, behind⟩, hn, h⟩ := bind_eq_ok.1 h
    cases h
    rw [heq]
    exact .plain (by decide) (by decide) (passes_number hn)
  case h_9 heq =>
    split at h
    · obtain ⟨⟨n, behind⟩, hn, h⟩ := bind_eq_ok.1 h
      cases h
      rw [heq]
      exact passes_number hn
    · cases h
  all_goals
    next heq =>
    obtain ⟨behind, hbehind, h⟩ := bind_eq_ok.1 h
    cases h
    rw [heq]
    exact .plain (by decide) (by decide) (passes_literal (by simp) hbehind)

theorem elements_succ (ih : ReadsPass fuel) {vs : List Json}
    (h : Parser.elements (fuel + 1) depth cs = .ok (vs, rest)) :
    Passes .outside cs .outside rest := by
  unfold Parser.elements at h
  obtain ⟨⟨v, behind⟩, hv, h⟩ := bind_eq_ok.1 h
  refine (ih.value hv).trans ((passes_skip behind).trans ?_)
  dsimp only at h
  split at h
  · cases h
  · next heq =>
    cases h
    rw [heq]
    exact .plain (by decide) (by decide) .done
  · next tail heq =>
    rw [heq]
    split at h
    · cases h
    · cases h
    · obtain ⟨⟨more, behind'⟩, hmore, h⟩ := bind_eq_ok.1 h
      cases h
      have hcloses : closes tail = false := by
        rw [← closes_skip]
        exact closes_of_elements hmore
      exact .comma hcloses ((passes_skip tail).trans (ih.elements hmore))
  · cases h

theorem members_succ (ih : ReadsPass fuel) {kvs : Members}
    (h : Parser.members (fuel + 1) depth cs = .ok (kvs, rest)) :
    Passes .inside cs .outside rest := by
  unfold Parser.members at h
  obtain ⟨⟨key, behind⟩, hkey, h⟩ := bind_eq_ok.1 h
  refine (passes_string hkey).trans ((passes_skip behind).trans ?_)
  dsimp only at h
  split at h
  · cases h
  · next heq =>
    obtain ⟨⟨v, after⟩, hv, h⟩ := bind_eq_ok.1 h
    rw [heq]
    refine .plain (by decide) (by decide) ((ih.value hv).trans ((passes_skip after).trans ?_))
    dsimp only at h
    split at h
    · cases h
    · next heq =>
      cases h
      rw [heq]
      exact .plain (by decide) (by decide) .done
    · next tail heq =>
      rw [heq]
      split at h
      · cases h
      · next heq =>
        obtain ⟨⟨more, behind'⟩, hmore, h⟩ := bind_eq_ok.1 h
        cases h
        have hcloses : closes tail = false := by
          rw [← closes_skip, heq]
          exact closes_cons (by decide) _
        refine .comma hcloses ((passes_skip tail).trans ?_)
        rw [heq]
        exact .openQuote (ih.members hmore)
      · cases h
      · cases h
    · cases h
  · cases h

end ReadsPass

theorem readsPass (fuel : Nat) : ReadsPass fuel := by
  induction fuel with
  | zero =>
    refine { value := ?_, elements := ?_, members := ?_ }
    all_goals
      intro _ _ _ _ h
      cases h
  | succ fuel ih =>
    exact { value := ih.value_succ, elements := ih.elements_succ, members := ih.members_succ }

theorem exists_obj_of_value {fuel depth : Nat} {cs rest : List Char} {v : Json}
    (h : value fuel depth ('{' :: cs) = .ok (v, rest)) : ∃ members, v = .obj members := by
  cases fuel with
  | zero => cases h
  | succ fuel =>
    have hskip : skip ('{' :: cs) = '{' :: cs := rfl
    unfold value at h
    rw [hskip] at h
    split at h
    case h_4 =>
      split at h
      · cases h
      · split at h
        · cases h
        · cases h
          exact ⟨_, rfl⟩
        · obtain ⟨⟨kvs, behind⟩, hkvs, h⟩ := bind_eq_ok.1 h
          cases h
          exact ⟨_, rfl⟩
        · cases h
    case h_9 hbrace _ _ _ _ heq => exact absurd (List.cons.inj heq).1.symm hbrace
    all_goals
      next heq =>
      cases heq

theorem passes_document {depth : Nat} {cs : List Char} {v : Json}
    (h : document depth cs = .ok v) : Passes .outside cs .outside [] := by
  obtain ⟨⟨v', rest⟩, hv, h⟩ := bind_eq_ok.1 h
  refine ((readsPass _).value hv).trans ?_
  dsimp only at h
  split at h
  · next heq =>
    have hrest := passes_skip rest
    rwa [heq] at hrest
  · cases h

end Flowline.Json.Parser

namespace Flowline.Json
open Commas Json.Parser Decode

variable {cs : List Char} {v : Json}

theorem parse_eq_ok {text : String} (h : text = String.ofList cs)
    (hread : document maxDepth cs = .ok v) : parse text = .ok v := by
  rw [parse, parseDeep, h, String.toList_ofList, hread]
  rfl

theorem strip_of_parse {depth : Nat} (h : parseDeep depth (String.ofList cs) = .ok v) :
    strip cs = cs := by
  have hdocument := mapError_eq_ok.1 h
  rw [String.toList_ofList] at hdocument
  exact (passes_document hdocument).stripFrom_eq rfl

theorem after_of_parse (h : parse (String.ofList cs) = .ok v) : Mode.outside.after cs = .outside := by
  have hdocument := mapError_eq_ok.1 h
  rw [String.toList_ofList] at hdocument
  exact (passes_document hdocument).after_eq

/-- What is read as a value is blank up to the first character of the value. -/
theorem exists_start_of_parse {text : String} (h : parse text = .ok v) :
    ∃ c tail, skip text.toList = c :: tail ∧ startsValue c = true := by
  obtain ⟨_, hvalue, -⟩ := bind_eq_ok.1 (mapError_eq_ok.1 h)
  exact exists_start_of_value hvalue

/-- What begins with an opening brace is an object. -/
theorem exists_obj_of_parse (h : parse (String.ofList ('{' :: cs)) = .ok v) :
    ∃ members, v = .obj members := by
  have hdocument := mapError_eq_ok.1 h
  rw [String.toList_ofList] at hdocument
  obtain ⟨⟨v', rest⟩, hv, h'⟩ := bind_eq_ok.1 hdocument
  dsimp only at h'
  split at h'
  · cases h'
    exact exists_obj_of_value hv
  · cases h'

end Flowline.Json
