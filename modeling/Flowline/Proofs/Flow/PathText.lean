import Flowline.Proofs.Flow.Walk
import Mathlib.Data.List.Basic

/-!
The texts of paths. What stands behind the last opening bracket of a text is a place in a list, and
what stands before it tells which list. So different paths have different texts.
-/
namespace Flowline

/-- The parts of a text before and after the last `c` in it. -/
theorem append_cons_inj_of_notMem {α : Type} {c : α} {xs ys ds es : List α} (hd : c ∉ ds)
    (he : c ∉ es) : xs ++ c :: ds = ys ++ c :: es ↔ xs = ys ∧ ds = es := by
  constructor
  · intro h
    rcases List.append_eq_append_iff.1 h with ⟨zs, hy, hz⟩ | ⟨zs, hx, hz⟩
    · cases zs with
      | nil =>
        obtain ⟨-, rfl⟩ := List.cons.inj hz
        exact ⟨by simp [hy], rfl⟩
      | cons z zs =>
        obtain ⟨-, rfl⟩ := List.cons.inj hz
        simp at hd
    · cases zs with
      | nil =>
        obtain ⟨-, rfl⟩ := List.cons.inj hz
        exact ⟨by simp [hx], rfl⟩
      | cons z zs =>
        obtain ⟨-, rfl⟩ := List.cons.inj hz
        simp at he
  · rintro ⟨rfl, rfl⟩
    rfl

theorem toDigits_inj {m n : Nat} : Nat.toDigits 10 m = Nat.toDigits 10 n ↔ m = n := by
  constructor
  · intro h
    calc
      m = Nat.ofDigitChars 10 (Nat.toDigits 10 m) 0 := Nat.ofDigitChars_ten_toDigits.symm
      _ = Nat.ofDigitChars 10 (Nat.toDigits 10 n) 0 := by rw [h]
      _ = n := Nat.ofDigitChars_ten_toDigits
  · rintro rfl
    rfl

theorem not_mem_toDigits {c : Char} (hc : c.isDigit = false) (n : Nat) :
    c ∉ Nat.toDigits 10 n := by
  intro h
  have := Nat.isDigit_of_mem_toDigits (by decide) (by decide) h
  simp [hc] at this

theorem Arm.key_inj {arm arm' : Arm} : arm.key = arm'.key ↔ arm = arm' := by
  cases arm <;> cases arm' <;> decide

theorem Path.text_child (p : Path) (arm : Arm) (i : Nat) :
    (p.child arm i).text = p.text ++ ("." ++ arm.key ++ "[") ++ toString i ++ "]" := by
  simp [text, child, hopText, String.append_assoc]

/-- What tells a place in a list, and of an arm the rest of the path, tells the whole path: the
branches that two places stand in are told apart one level up. -/
theorem Path.injective_of_nth {β : Type} {f : Path → β}
    (h : ∀ {stem stem' : Stem} {i i' : Nat}, f (stem.nth i) = f (stem'.nth i') →
      i = i' ∧ (stem = stem' ∨
        ∃ q q' arm, stem = .inside q arm ∧ stem' = .inside q' arm ∧ f q = f q')) :
    Function.Injective f := by
  intro p q heq
  induction hn : p.hops.length using Nat.strongRecOn generalizing p q with
  | ind n ih =>
    rw [← p.nth_stem_place, ← q.nth_stem_place] at heq ⊢
    obtain ⟨hplace, hstem | ⟨r, r', arm, hp, hq, hbranch⟩⟩ := h heq
    · rw [hstem, hplace]
    · have hr : r = r' := ih _ (hn ▸ length_lt_of_stem hp) hbranch rfl
      rw [hp, hq, hplace, hr]

namespace Stem

/-- The text of a path into the list, up to the last opening bracket. -/
def front : Stem → List Char
  | .top => ['a', 'c', 't', 'i', 'o', 'n', 's']
  | .inside branch arm => branch.text.toList ++ '.' :: arm.key.toList

theorem toList_text_nth (stem : Stem) (i : Nat) :
    (stem.nth i).text.toList = stem.front ++ '[' :: (Nat.toDigits 10 i ++ [']']) := by
  cases stem with
  | top => simp [nth, Path.text, front, String.toList_append, Nat.toList_repr]
  | inside branch arm =>
    simp [nth, Path.child, Path.text, Path.hopText, front, String.toList_append, Nat.toList_repr]

theorem front_inj {stem stem' : Stem} (h : stem.front = stem'.front) :
    stem = stem' ∨ ∃ q q' arm, stem = .inside q arm ∧ stem' = .inside q' arm ∧ q.text = q'.text := by
  have hdot (arm : Arm) : '.' ∉ arm.key.toList := by cases arm <;> decide
  have htop (branch : Path) (arm : Arm) : front .top ≠ front (.inside branch arm) := by
    intro heq
    have hmem : '.' ∈ front .top := by rw [heq]; simp [front]
    exact absurd hmem (by decide)
  cases stem with
  | top =>
    cases stem' with
    | top => exact .inl rfl
    | inside branch arm => exact absurd h (htop branch arm)
  | inside branch arm =>
    cases stem' with
    | top => exact absurd h.symm (htop branch arm)
    | inside branch' arm' =>
      obtain ⟨hbranch, hkey⟩ := (append_cons_inj_of_notMem (hdot arm) (hdot arm')).1 h
      obtain rfl := Arm.key_inj.1 (String.toList_inj.1 hkey)
      exact .inr ⟨branch, branch', arm, rfl, rfl, String.toList_inj.1 hbranch⟩

end Stem

theorem Path.text_injective : Function.Injective text := by
  refine injective_of_nth fun {stem stem' i i'} h => ?_
  have hbracket (n : Nat) : '[' ∉ Nat.toDigits 10 n ++ [']'] := by
    simp [not_mem_toDigits (c := '[') (by decide) n]
  rw [← String.toList_inj, Stem.toList_text_nth, Stem.toList_text_nth,
    append_cons_inj_of_notMem (hbracket i) (hbracket i')] at h
  exact ⟨toDigits_inj.1 (List.append_cancel_right h.2), Stem.front_inj h.1⟩

/-- No path is written like the place of the trigger. -/
theorem Path.text_ne_trigger (p : Path) : p.text ≠ "trigger" := by
  intro h
  have hbracket : '[' ∈ p.text.toList := by
    rw [← p.nth_stem_place, Stem.toList_text_nth]
    simp
  rw [h] at hbracket
  exact absurd hbracket (by decide)

end Flowline
