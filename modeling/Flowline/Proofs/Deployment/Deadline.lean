import Flowline.Proofs.Deployment.Pace
import Flowline.Proofs.Deployment.TriggerStep

/-!
The time that a build may take. It is taken up by the mutations alone, the publication among them:
neither the creation of the shell nor its deletion counts. The mutation that runs over is the last
one to be begun, and the deployment fails for want of time; a deployment in which none does is the
one without a limit.
-/
namespace Flowline.Deployment.Saga
open Engine

/-- The deployment without a limit of its time. -/
def unlimited (s : Saga) : Saga := { s with options := { s.options with timeout := none } }

/-- What it comes to that the shell is deleted on account of an error, after `k + 1` mutations have
been begun. The error is returned when the deletion ends, however long that takes. -/
def undone (s : Saga) (p : Pace) (shell : String) (k : Nat) (error : Engine.Error) :
    Stage × List Call :=
  let calls := s.begun shell (k + 1) ++ [.delete shell]
  (if (p.duration calls).isSome then .finished (.error error) else .undoing shell error, calls)

/-- The shell is created, and the mutation after `k` successful ones is the first that does not end
within the limit. -/
structure Overruns (s : Saga) (p : Pace) (limit : Nat) (shell : String) (k : Nat) : Prop where
  created : p.created [s.start] = .ok shell
  ends : (p.duration [s.start]).isSome
  lt : k < s.plan.length
  before : s.spent p shell k ≤ limit
  after : limit < s.spent p shell (k + 1)
  ok : ∀ j < k, p.applied (s.begun shell (j + 1)) = .ok ()

/-- The shell is created, and the mutation after `k` successful ones fails within the limit. -/
structure Fails (s : Saga) (p : Pace) (limit : Nat) (shell : String) (k : Nat)
    (error : Engine.Error) : Prop where
  created : p.created [s.start] = .ok shell
  ends : (p.duration [s.start]).isSome
  lt : k < s.plan.length
  inTime : s.spent p shell (k + 1) ≤ limit
  ok : ∀ j < k, p.applied (s.begun shell (j + 1)) = .ok ()
  failed : p.applied (s.begun shell (k + 1)) = .error error

/-- The shell is created, and all mutations succeed within the limit. -/
structure Succeeds (s : Saga) (p : Pace) (limit : Nat) (shell : String) : Prop where
  created : p.created [s.start] = .ok shell
  ends : (p.duration [s.start]).isSome
  inTime : s.spent p shell s.plan.length ≤ limit
  ok : ∀ j < s.plan.length, p.applied (s.begun shell (j + 1)) = .ok ()

section
variable {s : Saga} {p : Pace} {shell : String} {k limit : Nat} {error : Engine.Error}

theorem outcome_runPaced_undoing (now : Nat) (deadline : Option Nat) :
    (s.runPaced p ⟨.undoing shell error, s.begun shell (k + 1) ++ [.delete shell], now,
      deadline⟩).outcome = s.undone p shell k error := by
  rw [runPaced_undoing, undone]
  cases p.duration (s.begun shell (k + 1) ++ [.delete shell]) <;> rfl

theorem le_of_timeout (hlimit : s.options.timeout = some limit) :
    ∀ l, s.options.timeout = some l → limit ≤ l := by
  intro l hl
  exact (Option.some.inj (hlimit.symm.trans hl)).le

/-- What ends within a limit ends before a deadline that is set by no less. -/
theorem le_deadline {d t : Nat} {timeout : Option Nat}
    (hlimit : ∀ l, timeout = some l → limit ≤ l) (ht : t ≤ limit) :
    ∀ l, timeout.map (d + ·) = some l → d + t ≤ l := by
  intro l hl
  obtain ⟨m, hm, rfl⟩ := Option.map_eq_some_iff.1 hl
  have := hlimit m hm
  omega

theorem Overruns.outcome_runTimed (hlimit : s.options.timeout = some limit)
    (h : s.Overruns p limit shell k) :
    (s.runTimed p).outcome = s.undone p shell k (timeoutError shell) := by
  obtain ⟨d, hd⟩ := Option.isSome_iff_exists.1 h.ends
  obtain ⟨t, ht, htlimit⟩ := exists_spent_eq_coe h.before
  have hlate : ∀ e, p.duration (s.begun shell (k + 1)) = some e → d + limit < d + t + e := by
    intro e he
    have hafter := h.after
    rw [spent_succ, ht, he, Option.elim_some] at hafter
    have : limit < t + e := by exact_mod_cast hafter
    omega
  rw [runTimed_of_created hd h.created, hlimit, Option.map_some,
    runPaced_onward h.lt.le ht (by simpa using htlimit) h.ok, runPaced_onward_expired h.lt hlate]
  exact outcome_runPaced_undoing _ _

theorem Fails.outcome_runTimed (hlimit : ∀ l, s.options.timeout = some l → limit ≤ l)
    (h : s.Fails p limit shell k error) :
    (s.runTimed p).outcome = s.undone p shell k error := by
  obtain ⟨d, hd⟩ := Option.isSome_iff_exists.1 h.ends
  obtain ⟨t, ht, htlimit⟩ := exists_spent_eq_coe h.inTime
  obtain ⟨u, e, hu, he, rfl⟩ := spent_succ_eq_coe ht
  have hbefore := le_deadline (d := d) hlimit (Nat.le_of_add_right_le htlimit)
  have hdue := le_deadline (d := d) hlimit htlimit
  rw [← Nat.add_assoc] at hdue
  rw [runTimed_of_created hd h.created, runPaced_onward h.lt.le hu hbefore h.ok,
    runPaced_onward_failed h.lt he hdue h.failed]
  exact outcome_runPaced_undoing _ _

theorem Succeeds.outcome_runTimed (hlimit : ∀ l, s.options.timeout = some l → limit ≤ l)
    (h : s.Succeeds p limit shell) :
    (s.runTimed p).outcome =
      (.finished (.ok (s.deployed shell)), s.begun shell s.plan.length) := by
  obtain ⟨d, hd⟩ := Option.isSome_iff_exists.1 h.ends
  obtain ⟨t, ht, htlimit⟩ := exists_spent_eq_coe h.inTime
  rw [runTimed_of_created hd h.created, runPaced_onward le_rfl ht (le_deadline hlimit htlimit) h.ok,
    runPaced_onward_length]
  rfl

/-- Mutations that succeed within the limit have taken no more than it. -/
theorem spent_le_of_inTime (h : ∀ j < k, s.spent p shell (j + 1) ≤ limit) :
    s.spent p shell k ≤ limit := by
  cases k with
  | zero => simp [spent_zero]
  | succ k => exact h k (Nat.lt_succ_self k)

/-- What becomes of the mutations under a limit: one runs over, or one fails, or all succeed. -/
theorem overruns_or_fails_or_succeeds (limit : Nat) (hcreated : p.created [s.start] = .ok shell)
    (hends : (p.duration [s.start]).isSome) :
    (∃ k, s.Overruns p limit shell k) ∨ (∃ k error, s.Fails p limit shell k error) ∨
      s.Succeeds p limit shell := by
  classical
  by_cases hstop : ∃ k, k < s.plan.length ∧
      ¬ (p.applied (s.begun shell (k + 1)) = .ok () ∧ s.spent p shell (k + 1) ≤ limit)
  · obtain ⟨hk, hnot⟩ := Nat.find_spec hstop
    have hbefore : ∀ j < Nat.find hstop, p.applied (s.begun shell (j + 1)) = .ok () ∧
        s.spent p shell (j + 1) ≤ limit := by
      intro j hj
      have := Nat.find_min hstop hj
      by_contra hfirst
      exact this ⟨by omega, hfirst⟩
    have hok := fun j hj => (hbefore j hj).1
    by_cases htime : s.spent p shell (Nat.find hstop + 1) ≤ limit
    · right; left
      cases herror : p.applied (s.begun shell (Nat.find hstop + 1)) with
      | ok value => exact absurd ⟨herror, htime⟩ hnot
      | error error => exact ⟨_, error, hcreated, hends, hk, htime, hok, herror⟩
    · left
      exact ⟨_, hcreated, hends, hk, spent_le_of_inTime fun j hj => (hbefore j hj).2,
        not_le.1 htime, hok⟩
  · right; right
    have hall : ∀ j < s.plan.length, p.applied (s.begun shell (j + 1)) = .ok () ∧
        s.spent p shell (j + 1) ≤ limit := by
      intro j hj
      by_contra hfirst
      exact hstop ⟨j, hj, hfirst⟩
    exact ⟨hcreated, hends, spent_le_of_inTime fun j hj => (hall j hj).2,
      fun j hj => (hall j hj).1⟩

theorem spent_unlimited : s.unlimited.spent p shell k = s.spent p shell k := by
  induction k with
  | zero => rfl
  | succ k ih =>
    rw [spent_succ, spent_succ, ih]
    rfl

/-- What becomes of a deployment under a limit. -/
theorem limit_cases (s : Saga) (p : Pace) (limit : Nat) :
    p.duration [s.start] = none ∨
    (∃ d error, p.duration [s.start] = some d ∧ p.created [s.start] = .error error) ∨
    ∃ shell, (∃ k, s.Overruns p limit shell k) ∨ (∃ k error, s.Fails p limit shell k error) ∨
      s.Succeeds p limit shell := by
  cases hd : p.duration [s.start] with
  | none => exact .inl rfl
  | some d =>
    right
    cases hcreated : p.created [s.start] with
    | error error => exact .inl ⟨d, error, rfl, rfl⟩
    | ok shell =>
      have hends : (p.duration [s.start]).isSome := by rw [hd]; rfl
      exact .inr ⟨shell, overruns_or_fails_or_succeeds limit hcreated hends⟩

/-- A deployment in which no mutation runs over is the one without a limit. -/
theorem outcome_runTimed_unlimited (hlimit : s.options.timeout = some limit)
    (h : ∀ shell k, ¬ s.Overruns p limit shell k) :
    (s.runTimed p).outcome = (s.unlimited.runTimed p).outcome := by
  have hle := le_of_timeout hlimit
  have hfree : ∀ l, s.unlimited.options.timeout = some l → limit ≤ l := by
    intro l hl
    cases hl
  rcases s.limit_cases p limit with
    hd | ⟨d, error, hd, hcreated⟩ | ⟨shell, ⟨k, hover⟩ | ⟨k, error, hfails⟩ | hsucceeds⟩
  · rw [outcome_runTimed_of_unanswered hd]
    exact (outcome_runTimed_of_unanswered (s := s.unlimited) hd).symm
  · rw [outcome_runTimed_of_refused hd hcreated]
    exact (outcome_runTimed_of_refused (s := s.unlimited) hd hcreated).symm
  · exact absurd hover (h shell k)
  · have hsame : s.unlimited.Fails p limit shell k error :=
      ⟨hfails.created, hfails.ends, hfails.lt, spent_unlimited.trans_le hfails.inTime, hfails.ok,
        hfails.failed⟩
    rw [hfails.outcome_runTimed hle]
    exact (hsame.outcome_runTimed hfree).symm
  · have hsame : s.unlimited.Succeeds p limit shell :=
      ⟨hsucceeds.created, hsucceeds.ends, spent_unlimited.trans_le hsucceeds.inTime, hsucceeds.ok⟩
    rw [hsucceeds.outcome_runTimed hle]
    exact (hsame.outcome_runTimed hfree).symm

end

/-- Two engines that answer alike, and take the same time for each mutation. The creation and the
deletion end for both or for neither. -/
structure Alike (s : Saga) (p q : Pace) : Prop where
  toHost : p.toHost = q.toHost
  creation : (p.duration [s.start]).isSome = (q.duration [s.start]).isSome
  mutation : ∀ shell k, p.duration (s.begun shell (k + 1)) = q.duration (s.begun shell (k + 1))
  deletion : ∀ shell k, (p.duration (s.begun shell (k + 1) ++ [.delete shell])).isSome =
    (q.duration (s.begun shell (k + 1) ++ [.delete shell])).isSome

namespace Alike
variable {s : Saga} {p q : Pace} {shell : String} {k limit : Nat} {error : Engine.Error}

theorem spent_eq (h : s.Alike p q) : s.spent p shell k = s.spent q shell k := by
  induction k with
  | zero => rfl
  | succ k ih => rw [spent_succ, spent_succ, ih, h.mutation]

theorem undone_eq (h : s.Alike p q) : s.undone p shell k error = s.undone q shell k error := by
  rw [undone, undone, h.deletion]

theorem created_eq (h : s.Alike p q) : p.created = q.created := congrArg Host.created h.toHost

theorem applied_eq (h : s.Alike p q) : p.applied = q.applied := congrArg Host.applied h.toHost

theorem overruns (h : s.Alike p q) (hover : s.Overruns p limit shell k) :
    s.Overruns q limit shell k where
  created := by rw [← h.created_eq, hover.created]
  ends := by rw [← h.creation, hover.ends]
  lt := hover.lt
  before := by rw [← h.spent_eq]; exact hover.before
  after := by rw [← h.spent_eq]; exact hover.after
  ok := by rw [← h.applied_eq]; exact hover.ok

theorem fails (h : s.Alike p q) (hfails : s.Fails p limit shell k error) :
    s.Fails q limit shell k error where
  created := by rw [← h.created_eq, hfails.created]
  ends := by rw [← h.creation, hfails.ends]
  lt := hfails.lt
  inTime := by rw [← h.spent_eq]; exact hfails.inTime
  ok := by rw [← h.applied_eq]; exact hfails.ok
  failed := by rw [← h.applied_eq]; exact hfails.failed

theorem succeeds (h : s.Alike p q) (hsucceeds : s.Succeeds p limit shell) :
    s.Succeeds q limit shell where
  created := by rw [← h.created_eq, hsucceeds.created]
  ends := by rw [← h.creation, hsucceeds.ends]
  inTime := by rw [← h.spent_eq]; exact hsucceeds.inTime
  ok := by rw [← h.applied_eq]; exact hsucceeds.ok

/-- Under a limit the time that the creation and the deletion take does not show. -/
theorem outcome_runTimed_eq (h : s.Alike p q) (hlimit : s.options.timeout = some limit) :
    (s.runTimed p).outcome = (s.runTimed q).outcome := by
  have hle := le_of_timeout hlimit
  have hcreation := h.creation
  rcases s.limit_cases p limit with
    hp | ⟨d, error, hp, hcreated⟩ | ⟨shell, ⟨k, hover⟩ | ⟨k, error, hfails⟩ | hsucceeds⟩
  · have hq : q.duration [s.start] = none := by simpa [hp] using hcreation.symm
    rw [outcome_runTimed_of_unanswered hp, outcome_runTimed_of_unanswered hq]
  · obtain ⟨e, hq⟩ : ∃ e, q.duration [s.start] = some e := by
      rw [← Option.isSome_iff_exists, ← hcreation, hp]
      rfl
    have hrefused : q.created [s.start] = .error error := by rw [← h.created_eq, hcreated]
    rw [outcome_runTimed_of_refused hp hcreated, outcome_runTimed_of_refused hq hrefused]
  · rw [hover.outcome_runTimed hlimit, (h.overruns hover).outcome_runTimed hlimit, h.undone_eq]
  · rw [hfails.outcome_runTimed hle, (h.fails hfails).outcome_runTimed hle, h.undone_eq]
  · rw [hsucceeds.outcome_runTimed hle, (h.succeeds hsucceeds).outcome_runTimed hle]

end Alike

theorem publish_mem_plan_iff {s : Saga} : .publish ∈ s.plan ↔ s.options.autoPublish = true := by
  simp [mem_plan]

/-- The limit covers the mutations and nothing else. The one that runs over is the last, and there
is one deletion for it and an error that names the shell; one that fails in time gives its own
error; and when none runs over there might as well be no limit. The publication is a mutation, while
the time of the creation and of the deletion does not show. The clock is the one that deployments
under conditions go by. -/
theorem limit_covers_mutations (s : Saga) (p : Pace) {limit : Nat}
    (hlimit : s.options.timeout = some limit) :
    (∀ shell k, s.Overruns p limit shell k →
      (s.runTimed p).outcome =
        s.undone p shell k ⟨"POST", "/api/v1/flows/" ++ shell, .timedOut⟩) ∧
    (∀ shell k error, s.Fails p limit shell k error →
      (s.runTimed p).outcome = s.undone p shell k error) ∧
    ((∀ shell k, ¬ s.Overruns p limit shell k) →
      (s.runTimed p).outcome = (s.unlimited.runTimed p).outcome) ∧
    (∀ q, s.Alike p q → (s.runTimed p).outcome = (s.runTimed q).outcome) ∧
    (.publish ∈ s.plan ↔ s.options.autoPublish = true) ∧
    (∀ c : Conditions, c.dropAt = none →
      s.runUnder c = ((s.runTimed c.pace).stage.ending, (s.runTimed c.pace).calls)) := by
  refine ⟨?_, ?_, outcome_runTimed_unlimited hlimit, ?_, publish_mem_plan_iff, ?_⟩
  · intro shell k hover
    exact hover.outcome_runTimed hlimit
  · intro shell k error hfails
    exact hfails.outcome_runTimed (le_of_timeout hlimit)
  · intro q halike
    exact halike.outcome_runTimed_eq hlimit
  · intro c hc
    exact runUnder_eq_runTimed hc

/-- A deployment that is to be published within eleven units of time. -/
def brief : Saga := ⟨lone, { autoPublish := true, timeout := some 11 }, false⟩

/-- Every mutation takes four units of time, and the creation and the deletion take longer. -/
def slow : Pace where
  created _ := .ok "flow"
  applied _ := .ok ()
  deleted _ := .ok ()
  duration calls :=
    match calls.getLast? with
    | some (.apply ..) => some 4
    | _ => some 100

/-- The publication is the mutation that runs over. -/
theorem limit_covers_publication :
    (brief.runTimed slow).outcome =
      (.finished (.error ⟨"POST", "/api/v1/flows/flow", .timedOut⟩),
        .create "Report" none :: brief.plan.map (.apply "flow") ++ [.delete "flow"]) := by
  have htwo : brief.spent slow "flow" 2 = 8 := by
    rw [spent_succ, spent_succ, spent_zero]
    simp only [show slow.duration (brief.begun "flow" 1) = some 4 from rfl,
      show slow.duration (brief.begun "flow" 2) = some 4 from rfl, Option.elim_some]
    rfl
  have hthree : brief.spent slow "flow" 3 = 12 := by
    rw [spent_succ, htwo]
    simp only [show slow.duration (brief.begun "flow" 3) = some 4 from rfl, Option.elim_some]
    rfl
  have hover : brief.Overruns slow 11 "flow" 2 := by
    refine ⟨rfl, rfl, by decide, ?_, ?_, fun _ _ => rfl⟩
    · rw [htwo]
      decide
    · rw [hthree]
      decide
  exact (limit_covers_mutations brief slow rfl).1 "flow" 2 hover

end Flowline.Deployment.Saga
