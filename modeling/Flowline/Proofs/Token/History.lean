import Flowline.Token.Keeper

/-!
The history of a keeper: what happened at which time, in order. Callers that come and sign-ins that
end stand in it beside what the keeper does.
-/
namespace Flowline.Token

/-- A caller comes for the token, the sign-in of a caller ends, or the keeper does something. Each
call has a caller of its own. -/
inductive Incident where
  | came (caller : Nat)
  | ended (caller : Nat) (outcome : Outcome)
  | did (effect : Effect)

structure Entry where
  time : Nat
  incident : Incident

namespace Entry

def isEnd (e : Entry) : Bool :=
  match e.incident with
  | .ended _ _ => true
  | _ => false

def isClear (e : Entry) : Bool :=
  match e.incident with
  | .did (.cleared _) => true
  | _ => false

def effect? (e : Entry) : Option Effect :=
  match e.incident with
  | .did effect => some effect
  | _ => none

end Entry

def ends (past : List Entry) : Nat := past.countP Entry.isEnd

theorem ends_append (past more : List Entry) : ends (past ++ more) = ends past + ends more :=
  List.countP_append

theorem ends_eq_zero {past : List Entry} (h : ∀ e ∈ past, e.isEnd = false) : ends past = 0 :=
  List.countP_eq_zero.2 fun e he => by simp [h e he]

/-- What came before more sign-ins had ended came before the last of them ended. -/
theorem mem_of_ends_ne {early early' late late' : List Entry} {e e' : Entry}
    (h : early ++ e :: late = early' ++ e' :: late') (hend : e.isEnd = true)
    (hend' : e'.isEnd = false) (hlate : ∀ x ∈ late, x.isEnd = false)
    (hne : ends early' ≠ ends (early' ++ e' :: late')) : e' ∈ early := by
  have hdiffer : e ≠ e' := by
    rintro rfl
    rw [hend] at hend'
    cases hend'
  obtain ⟨mid, rfl, hmid⟩ | ⟨mid, rfl, hmid⟩ := List.append_eq_append_iff.1 h
  · cases mid with
    | nil => exact absurd (List.cons.inj hmid).1 hdiffer
    | cons x mid =>
      obtain ⟨rfl, rfl⟩ := List.cons.inj hmid
      have hback : ends (e' :: late') = 0 :=
        ends_eq_zero fun x hx => hlate x (List.mem_append_right mid hx)
      rw [ends_append _ (e' :: late'), hback] at hne
      exact absurd rfl hne
  · cases mid with
    | nil => exact absurd (List.cons.inj hmid).1.symm hdiffer
    | cons x mid =>
      obtain ⟨rfl, -⟩ := List.cons.inj hmid
      simp

def record (now : Nat) (effects : List Effect) : List Entry :=
  effects.map fun effect => ⟨now, .did effect⟩

theorem filterMap_record (now : Nat) (effects : List Effect) :
    (record now effects).filterMap Entry.effect? = effects := by
  induction effects with
  | nil => rfl
  | cons effect effects ih => exact congrArg (effect :: ·) ih

namespace Keeper

def incident? (k : Keeper) : Event → Option Incident
  | .get caller => some (.came caller)
  | .signedIn outcome => k.holder.map fun caller => .ended caller outcome
  | _ => none

def entries (k : Keeper) (e : Event) : List Entry :=
  (k.incident? e).toList.map (⟨k.now, ·⟩) ++ record k.now (k.step e).2

def history (k : Keeper) : List Event → List Entry
  | [] => []
  | e :: rest => k.entries e ++ (k.step e).1.history rest

theorem filterMap_entries (k : Keeper) (e : Event) :
    (k.entries e).filterMap Entry.effect? = (k.step e).2 := by
  rw [entries, List.filterMap_append, filterMap_record]
  cases e with
  | get caller => rfl
  | signedIn outcome =>
    simp only [incident?]
    cases k.holder <;> rfl
  | _ => rfl

/-- The history leaves out nothing that the keeper does. -/
theorem filterMap_history (k : Keeper) (events : List Event) :
    (k.history events).filterMap Entry.effect? = (k.run events).2 := by
  induction events generalizing k with
  | nil => rfl
  | cons e rest ih => rw [history, List.filterMap_append, filterMap_entries, ih, run]

end Keeper
end Flowline.Token
