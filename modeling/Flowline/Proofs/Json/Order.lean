import Flowline.Proofs.Json.Spelled
import Mathlib.Data.List.Pairwise

/-!
Readings that agree: both give the same value, or both fail, each for its own reason. A record whose
members may be met in any order is read alike from objects that say the same in another order and
under other keys.
-/
namespace Flowline.Json.Decode
variable {δ ε α β : Type}

/-- One gives a value exactly when the other does, and it is the same. -/
def Agrees (x y : Except ε α) : Prop := ∀ a, x = .ok a ↔ y = .ok a

namespace Agrees
variable {x y z : Except ε α}

@[refl]
theorem refl (x : Except ε α) : Agrees x x := fun _ => Iff.rfl

theorem symm (h : Agrees x y) : Agrees y x := fun a => (h a).symm

theorem trans (h : Agrees x y) (h' : Agrees y z) : Agrees x z := fun a => (h a).trans (h' a)

theorem bind (h : Agrees x y) {f g : α → Except ε β} (hf : ∀ a, Agrees (f a) (g a)) :
    Agrees (x >>= f) (y >>= g) := by
  intro b
  simp only [bind_eq_ok]
  exact exists_congr fun a => and_congr (h a) (hf a b)

theorem mapError {ε' : Type} (h : Agrees x y) (f : ε → ε') :
    Agrees (x.mapError f) (y.mapError f) := by
  intro a
  rw [mapError_eq_ok, mapError_eq_ok]
  exact h a

theorem fill {x y : Except DecodeError α} (h : Agrees x y) (name : String) (slot : Option α) :
    Agrees (fill name slot x) (fill name slot y) := by
  intro filled
  simp only [fill_eq_ok]
  exact and_congr_right fun _ => exists_congr fun a => and_congr_left fun _ => h a

theorem mapM {f : β → Except ε α} {l l' : List β}
    (h : List.Forall₂ (fun b b' => Agrees (f b) (f b')) l l') : Agrees (l.mapM f) (l'.mapM f) := by
  induction h with
  | nil => rfl
  | cons hb _ ih =>
    rw [List.mapM_cons, List.mapM_cons]
    exact hb.bind fun a => ih.bind fun _ => refl _

/-- Where each gives a value they give the same, and where one fails so does the other. -/
theorem eq_or_error (h : Agrees x y) :
    (∃ a, x = .ok a ∧ y = .ok a) ∨ ∃ e e', x = .error e ∧ y = .error e' := by
  cases x with
  | ok a => exact .inl ⟨a, rfl, (h a).1 rfl⟩
  | error e =>
    cases y with
    | ok a => exact absurd ((h a).2 rfl) (by simp)
    | error e' => exact .inr ⟨e, e', rfl, rfl⟩

end Agrees

section
variable {put : δ → String → Json → Except DecodeError δ}

theorem agrees_foldlM {members others : Members}
    (h : List.Forall₂ (fun m other => ∀ d, Agrees (put d m.1 m.2) (put d other.1 other.2))
      members others) (d : δ) :
    Agrees (members.foldlM (fun d m => put d m.1 m.2) d)
      (others.foldlM (fun d m => put d m.1 m.2) d) := by
  induction h generalizing d with
  | nil => rfl
  | cons hm _ ih =>
    rw [List.foldlM_cons, List.foldlM_cons]
    exact (hm d).bind ih

/-- Two members may be met in either order. -/
def Commutes (put : δ → String → Json → Except DecodeError δ) : Prop :=
  ∀ ⦃d e : δ⦄ ⦃k k' : String⦄ ⦃v v' : Json⦄,
    (put d k v >>= fun d => put d k' v') = .ok e → (put d k' v' >>= fun d => put d k v) = .ok e

theorem agrees_foldlM_of_perm (hput : Commutes put) {members others : Members}
    (h : members.Perm others) (d : δ) :
    Agrees (members.foldlM (fun d m => put d m.1 m.2) d)
      (others.foldlM (fun d m => put d m.1 m.2) d) := by
  induction h generalizing d with
  | nil => rfl
  | cons m _ ih =>
    rw [List.foldlM_cons, List.foldlM_cons]
    exact (Agrees.refl _).bind ih
  | swap m m' rest =>
    simp only [List.foldlM_cons, ← bind_assoc]
    exact Agrees.bind (fun e => ⟨fun h => hput h, fun h => hput h⟩) fun _ => .refl _
  | trans _ _ ih ih' => exact (ih d).trans (ih' d)

end

/-- Where a record that is being read keeps one of its fields, and how the field is read. -/
structure Slot (δ : Type) where
  name : String
  {β : Type}
  read : Decoder β
  get : δ → Option β
  set : δ → Option β → δ
  get_set : ∀ d a, get (set d a) = a

namespace Slot

/-- Reads a value into an empty slot. -/
def put (s : Slot δ) (d : δ) (v : Json) : Except DecodeError δ := do
  .ok (s.set d (← fill s.name (s.get d) (s.read v)))

theorem put_eq_ok {s : Slot δ} {d e : δ} {v : Json} :
    s.put d v = .ok e ↔ s.get d = none ∧ ∃ a, s.read v = .ok a ∧ s.set d (some a) = e :=
  fill_bind_eq_ok

theorem put_put (s : Slot δ) (d e : δ) (v v' : Json) :
    (s.put d v >>= fun d => s.put d v') ≠ .ok e := by
  intro h
  obtain ⟨middle, hfirst, hsecond⟩ := bind_eq_ok.1 h
  obtain ⟨-, a, -, rfl⟩ := put_eq_ok.1 hfirst
  have hnone := (put_eq_ok.1 hsecond).1
  rw [s.get_set] at hnone
  cases hnone

/-- What stands in one has nothing to do with what stands in the other. -/
def Apart (s t : Slot δ) : Prop :=
  ∀ d a b, t.get (s.set d a) = t.get d ∧ s.get (t.set d b) = s.get d ∧
    t.set (s.set d a) b = s.set (t.set d b) a

instance : Std.Symm (Apart : Slot δ → Slot δ → Prop) where
  symm _ _ h d a b := ⟨(h d b a).2.1, (h d b a).1, (h d b a).2.2.symm⟩

theorem Apart.put_put {s t : Slot δ} (hapart : s.Apart t) {d e : δ} {v v' : Json}
    (h : (s.put d v >>= fun d => t.put d v') = .ok e) :
    (t.put d v' >>= fun d => s.put d v) = .ok e := by
  obtain ⟨middle, hfirst, hsecond⟩ := bind_eq_ok.1 h
  obtain ⟨hs, a, hread, rfl⟩ := put_eq_ok.1 hfirst
  obtain ⟨ht, b, hread', rfl⟩ := put_eq_ok.1 hsecond
  obtain ⟨hget, hget', hset⟩ := hapart d (some a) (some b)
  rw [hget] at ht
  refine bind_eq_ok.2 ⟨t.set d (some b), put_eq_ok.2 ⟨ht, b, hread', rfl⟩, ?_⟩
  exact put_eq_ok.2 ⟨hget'.trans hs, a, hread, hset.symm⟩

/-- Reads a member into the slot of its name, and passes over it for want of one. -/
def putIn (slots : List (Slot δ)) (d : δ) (name : String) (v : Json) : Except DecodeError δ :=
  match slots.find? fun s => s.name == name with
  | some s => s.put d v
  | none => .ok d

theorem commutes_putIn {slots : List (Slot δ)} (hapart : slots.Pairwise Apart) :
    Commutes (putIn slots) := by
  intro d e k k' v v' h
  have hput (name : String) : (∀ d v, putIn slots d name v = .ok d) ∨
      ∃ s ∈ slots, ∀ d v, putIn slots d name v = s.put d v := by
    cases hs : slots.find? fun s => s.name == name with
    | none => exact .inl fun d v => by rw [putIn, hs]
    | some s => exact .inr ⟨s, List.mem_of_find?_eq_some hs, fun d v => by rw [putIn, hs]⟩
  rcases hput k with hpass | ⟨s, hs, hfill⟩
  · simp only [hpass] at h ⊢
    exact (bind_pure _).trans h
  · rcases hput k' with hpass' | ⟨t, ht, hfill'⟩
    · simp only [hpass'] at h ⊢
      exact (bind_pure _).symm.trans h
    · simp only [hfill, hfill'] at h ⊢
      by_cases heq : s = t
      · exact absurd h (heq ▸ s.put_put d e v v')
      · exact (hapart.forall hs ht heq).put_put h

theorem putIn_own {slots : List (Slot δ)} {spellings : Spellings} {key : String}
    (h : ∀ s ∈ slots, key ≠ s.name ∧ ∀ p ∈ spellings, p.2 = s.name → key ≠ p.1) (d : δ) (v : Json) :
    putIn slots d (own spellings key) v = .ok d := by
  have hnone : (slots.find? fun s => s.name == own spellings key) = none := by
    refine List.find?_eq_none.2 fun s hs hname => ?_
    have hown := beq_iff_eq.1 hname
    rcases own_cases spellings key with hmem | hself
    · exact (h s hs).2 _ hmem hown.symm rfl
    · exact (h s hs).1 (hself ▸ hown.symm)
  rw [putIn, hnone]

end Slot

/-- A record that may be read in any order and with any of the spellings. -/
structure Unordered (r : Record δ α) (spellings : Spellings) : Prop where
  put_spelling : ∀ s ∈ spellings, ∀ d v, r.put d s.2 v = r.put d s.1 v
  commutes : Commutes r.put

namespace Unordered
variable {r : Record δ α} {spellings : Spellings}

theorem of_slots (slots : List (Slot δ))
    (hput : ∀ d key v, r.put d key v = Slot.putIn slots d (own spellings key) v)
    (hown : ∀ s ∈ spellings, own spellings s.1 = own spellings s.2)
    (hapart : slots.Pairwise Slot.Apart) : Unordered r spellings where
  put_spelling s hs d v := by rw [hput, hput, hown s hs]
  commutes := by
    intro d e k k' v v' h
    simp only [hput] at h ⊢
    exact Slot.commutes_putIn hapart h

theorem put_own (h : Unordered r spellings) (d : δ) (key : String) (v : Json) :
    r.put d (own spellings key) v = r.put d key v := by
  rcases own_cases spellings key with hmem | hself
  · exact h.put_spelling _ hmem d v
  · rw [hself]

theorem foldlM_spelledOut (h : Unordered r spellings) (members : Members) (d : δ) :
    (spelledOut spellings members).foldlM (fun d m => r.put d m.1 m.2) d =
      members.foldlM (fun d m => r.put d m.1 m.2) d := by
  rw [spelledOut, List.foldlM_map]
  simp only [h.put_own]

theorem agrees_of_perm (h : Unordered r spellings) {members others : Members}
    (hperm : (spelledOut spellings members).Perm (spelledOut spellings others)) :
    Agrees (r.ofMembers members) (r.ofMembers others) := by
  have hfold := agrees_foldlM_of_perm h.commutes hperm r.start
  rw [h.foldlM_spelledOut, h.foldlM_spelledOut] at hfold
  exact hfold.bind fun _ => .refl _

end Unordered

theorem agrees_ofMembers {r : Record δ α} {members others : Members}
    (h : List.Forall₂ (fun m other => ∀ d, Agrees (r.put d m.1 m.2) (r.put d other.1 other.2))
      members others) : Agrees (r.ofMembers members) (r.ofMembers others) :=
  (agrees_foldlM h r.start).bind fun _ => .refl _

end Flowline.Json.Decode
