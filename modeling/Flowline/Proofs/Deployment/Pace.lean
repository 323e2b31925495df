import Flowline.Deployment.Timeline
import Flowline.Proofs.Deployment.Answers
import Flowline.Proofs.Deployment.Cleanup
import Mathlib.Data.ENat.Basic

/-!
Deployments on the clock. Every call takes its time, or never ends, and only the mutations can meet
the end of the time allowed. The mutations that succeed in time are answered one after another, each
when those before it have taken theirs.
-/
namespace Flowline.Deployment
open Engine

/-- An engine that takes its time: how long the call in flight takes, if it ends, and how it is
answered then, with regard to all calls so far. -/
structure Pace extends Host where
  duration : List Call → Option Nat

/-- A deployment on the clock: the calls begun, when the last of them was begun, and the end of the
time allowed, once it is set. -/
structure Progress where
  stage : Stage
  calls : List Call
  now : Nat
  deadline : Option Nat

/-- What a deployment has come to, apart from the time that it took. -/
def Progress.outcome (w : Progress) : Stage × List Call := (w.stage, w.calls)

namespace Pace

/-- When the call in flight is answered. -/
def due (p : Pace) (w : Progress) : Option Nat := (p.duration w.calls).map (w.now + ·)

/-- What comes next, and when. The time allowed can only end while the flow is built, and an answer
that is due at its end still counts. -/
def next (p : Pace) (w : Progress) : Option (Nat × Event) :=
  if w.stage.isBuilding && !Conditions.dueBy (p.due w) w.deadline then
    w.deadline.map fun time => (time, .expired)
  else (p.due w).bind fun time => (p.answer w.calls w.stage).map fun e => (time, e)

end Pace

namespace Saga

/-- The deployment after an event. The time allowed counts from the answer to the creation. -/
def advance (s : Saga) (w : Progress) (time : Nat) (e : Event) : Progress where
  stage := (s.step w.stage e).1
  calls := w.calls ++ (s.step w.stage e).2
  now := time
  deadline := match e with
    | .created _ => s.options.timeout.map (time + ·)
    | _ => w.deadline

theorem left_advance_lt (s : Saga) {p : Pace} {w : Progress} {time : Nat} {e : Event}
    (h : p.next w = some (time, e)) : s.left (s.advance w time e).stage < s.left w.stage := by
  unfold Pace.next at h
  split at h
  · next hlate =>
    obtain ⟨_, -, hevent⟩ := Option.map_eq_some_iff.1 h
    obtain ⟨-, rfl⟩ := Prod.mk.inj hevent
    cases hstage : w.stage with
    | building shell pending =>
      simp only [advance, hstage, step_expired, undo, left]
      omega
    | creating => simp [hstage, Stage.isBuilding] at hlate
    | undoing shell error => simp [hstage, Stage.isBuilding] at hlate
    | finished result => simp [hstage, Stage.isBuilding] at hlate
    | abandoned cleanup => simp [hstage, Stage.isBuilding] at hlate
  · obtain ⟨_, -, hanswer⟩ := Option.bind_eq_some_iff.1 h
    obtain ⟨_, he, hevent⟩ := Option.map_eq_some_iff.1 hanswer
    obtain ⟨-, rfl⟩ := Prod.mk.inj hevent
    exact s.left_step_lt he

/-- A deployment on the clock, to its end or until the call in flight never ends. -/
def runPaced (s : Saga) (p : Pace) (w : Progress) : Progress :=
  match _h : p.next w with
  | none => w
  | some (time, e) => s.runPaced p (s.advance w time e)
termination_by s.left w.stage
decreasing_by exact s.left_advance_lt ‹_›

/-- A whole deployment on the clock. -/
def runTimed (s : Saga) (p : Pace) : Progress := s.runPaced p ⟨.creating, [s.start], 0, none⟩

/-- `k` mutations have succeeded, and the next one is begun. -/
def onward (s : Saga) (shell : String) (k now : Nat) (deadline : Option Nat) : Progress where
  stage := (s.proceed shell (s.plan.drop k)).1
  calls := s.begun shell k ++ (s.proceed shell (s.plan.drop k)).2
  now := now
  deadline := deadline

section
variable {s : Saga} {p : Pace} {w : Progress} {shell : String} {k now : Nat} {deadline : Option Nat}

theorem runPaced_of_none (h : p.next w = none) : s.runPaced p w = w := by
  unfold runPaced
  split
  · rfl
  · simp_all

theorem runPaced_of_some {time : Nat} {e : Event} (h : p.next w = some (time, e)) :
    s.runPaced p w = s.runPaced p (s.advance w time e) := by
  rw [runPaced]
  split
  · simp_all
  · simp_all

theorem onward_of_lt (h : k < s.plan.length) :
    s.onward shell k now deadline =
      ⟨.building shell (s.plan.drop k), s.begun shell (k + 1), now, deadline⟩ := by
  rw [onward, proceed_drop s shell h, ← begun_succ s shell h]

theorem onward_length :
    s.onward shell s.plan.length now deadline =
      ⟨.finished (.ok (s.deployed shell)), s.begun shell s.plan.length, now, deadline⟩ := by
  rw [onward, proceed_drop_length, List.append_nil]

theorem runPaced_onward_length :
    s.runPaced p (s.onward shell s.plan.length now deadline) =
      ⟨.finished (.ok (s.deployed shell)), s.begun shell s.plan.length, now, deadline⟩ := by
  rw [onward_length]
  refine runPaced_of_none ?_
  cases hdue : p.duration (s.begun shell s.plan.length) <;>
    simp [Pace.next, Pace.due, hdue, Stage.isBuilding, Host.answer]

/-- A mutation that ends in time is answered. -/
theorem next_onward_of_due (h : k < s.plan.length) {d : Nat}
    (hd : p.duration (s.begun shell (k + 1)) = some d)
    (hdue : ∀ limit, deadline = some limit → now + d ≤ limit) :
    p.next (s.onward shell k now deadline) =
      some (now + d, .applied (p.applied (s.begun shell (k + 1)))) := by
  have hby : Conditions.dueBy (some (now + d)) deadline = true := by
    cases deadline with
    | none => rfl
    | some limit => simpa [Conditions.dueBy] using hdue limit rfl
  rw [onward_of_lt h]
  simp [Pace.next, Pace.due, hd, hby, answer_building shell h]

theorem advance_onward_applied (h : k < s.plan.length) (time : Nat) :
    s.advance (s.onward shell k now deadline) time (.applied (.ok ())) =
      s.onward shell (k + 1) time deadline := by
  rw [onward_of_lt h]
  simp only [advance, step_applied s shell h, onward]

theorem runPaced_onward_succ (h : k < s.plan.length) {d : Nat}
    (hd : p.duration (s.begun shell (k + 1)) = some d)
    (hdue : ∀ limit, deadline = some limit → now + d ≤ limit)
    (hok : p.applied (s.begun shell (k + 1)) = .ok ()) :
    s.runPaced p (s.onward shell k now deadline) =
      s.runPaced p (s.onward shell (k + 1) (now + d) deadline) := by
  rw [runPaced_of_some (next_onward_of_due h hd hdue), hok, advance_onward_applied h]

theorem runPaced_onward_failed (h : k < s.plan.length) {d : Nat} {error : Engine.Error}
    (hd : p.duration (s.begun shell (k + 1)) = some d)
    (hdue : ∀ limit, deadline = some limit → now + d ≤ limit)
    (herror : p.applied (s.begun shell (k + 1)) = .error error) :
    s.runPaced p (s.onward shell k now deadline) =
      s.runPaced p ⟨.undoing shell error, s.begun shell (k + 1) ++ [.delete shell], now + d,
        deadline⟩ := by
  rw [runPaced_of_some (next_onward_of_due h hd hdue), herror, onward_of_lt h]
  simp only [advance, step_failed, undo]

/-- A mutation that does not end in time is the last one. -/
theorem runPaced_onward_expired (h : k < s.plan.length) {limit : Nat}
    (hlate : ∀ d, p.duration (s.begun shell (k + 1)) = some d → limit < now + d) :
    s.runPaced p (s.onward shell k now (some limit)) =
      s.runPaced p ⟨.undoing shell (timeoutError shell),
        s.begun shell (k + 1) ++ [.delete shell], limit, some limit⟩ := by
  have hby : Conditions.dueBy ((p.duration (s.begun shell (k + 1))).map (now + ·)) (some limit) =
      false := by
    cases hd : p.duration (s.begun shell (k + 1)) with
    | none => rfl
    | some d => simpa [Conditions.dueBy] using hlate d hd
  have hnext : p.next (s.onward shell k now (some limit)) = some (limit, .expired) := by
    rw [onward_of_lt h]
    simp [Pace.next, Pace.due, hby, Stage.isBuilding]
  rw [runPaced_of_some hnext, onward_of_lt h]
  simp only [advance, step_expired, undo]

theorem runPaced_undoing {error : Engine.Error} {calls : List Call} :
    s.runPaced p ⟨.undoing shell error, calls, now, deadline⟩ =
      match p.duration calls with
      | none => ⟨.undoing shell error, calls, now, deadline⟩
      | some d => ⟨.finished (.error error), calls, now + d, deadline⟩ := by
  cases hd : p.duration calls with
  | none =>
    refine runPaced_of_none ?_
    simp [Pace.next, Pace.due, hd, Stage.isBuilding]
  | some d =>
    have hnext : p.next ⟨.undoing shell error, calls, now, deadline⟩ =
        some (now + d, .deleted (p.deleted calls)) := by
      simp [Pace.next, Pace.due, hd, Stage.isBuilding, Host.answer]
    have hover : p.next ⟨.finished (.error error), calls, now + d, deadline⟩ = none := by
      simp [Pace.next, Pace.due, hd, Stage.isBuilding, Host.answer]
    rw [runPaced_of_some hnext]
    simp only [advance, step, List.append_nil]
    exact runPaced_of_none hover

end

/-- The time that the first `k` mutations take, which is infinite when one of them never ends. -/
def spent (s : Saga) (p : Pace) (shell : String) : Nat → ℕ∞
  | 0 => 0
  | k + 1 => s.spent p shell k + (p.duration (s.begun shell (k + 1))).elim ⊤ fun d => (d : ℕ∞)

section
variable {s : Saga} {p : Pace} {shell : String} {k now limit t : Nat} {deadline : Option Nat}

theorem spent_zero : s.spent p shell 0 = 0 := rfl

theorem spent_succ : s.spent p shell (k + 1) =
    s.spent p shell k + (p.duration (s.begun shell (k + 1))).elim ⊤ (fun d => (d : ℕ∞)) := rfl

/-- Mutations that all end take the time of the last one more than those before it. -/
theorem spent_succ_eq_coe (h : s.spent p shell (k + 1) = t) :
    ∃ u d : Nat, s.spent p shell k = u ∧ p.duration (s.begun shell (k + 1)) = some d ∧
      t = u + d := by
  rw [spent_succ] at h
  cases hd : p.duration (s.begun shell (k + 1)) with
  | none => simp [hd] at h
  | some d =>
    have hfinite : s.spent p shell k ≠ ⊤ := by
      intro htop
      simp [htop] at h
    obtain ⟨u, hu⟩ := ENat.ne_top_iff_exists.1 hfinite
    refine ⟨u, d, hu.symm, rfl, ?_⟩
    rw [← hu, hd, Option.elim_some] at h
    exact_mod_cast h.symm

theorem exists_spent_eq_coe (h : s.spent p shell k ≤ limit) :
    ∃ t : Nat, s.spent p shell k = t ∧ t ≤ limit := by
  obtain ⟨t, ht⟩ := ENat.ne_top_iff_exists.1 (ne_top_of_le_ne_top (ENat.natCast_ne_top limit) h)
  exact ⟨t, ht.symm, by exact_mod_cast ht.trans_le h⟩

/-- Mutations that succeed in time are answered one after another. -/
theorem runPaced_onward (hk : k ≤ s.plan.length) (ht : s.spent p shell k = (t : ℕ∞))
    (hdue : ∀ limit, deadline = some limit → now + t ≤ limit)
    (hok : ∀ j < k, p.applied (s.begun shell (j + 1)) = .ok ()) :
    s.runPaced p (s.onward shell 0 now deadline) =
      s.runPaced p (s.onward shell k (now + t) deadline) := by
  induction k generalizing t with
  | zero =>
    have hzero : t = 0 := by
      rw [spent_zero] at ht
      exact_mod_cast ht.symm
    rw [hzero, Nat.add_zero]
  | succ k ih =>
    obtain ⟨u, d, hu, hd, rfl⟩ := spent_succ_eq_coe ht
    have hbefore : ∀ limit, deadline = some limit → now + u ≤ limit := fun limit hlimit => by
      have := hdue limit hlimit
      omega
    have hend : ∀ limit, deadline = some limit → now + u + d ≤ limit := fun limit hlimit => by
      have := hdue limit hlimit
      omega
    rw [ih (by omega) hu hbefore fun j hj => hok j (by omega),
      runPaced_onward_succ hk hd hend (hok k (by omega)), Nat.add_assoc]

end

section
variable {s : Saga} {p : Pace} {shell : String} {d : Nat}

theorem runTimed_of_created (hd : p.duration [s.start] = some d)
    (hcreated : p.created [s.start] = .ok shell) :
    s.runTimed p = s.runPaced p (s.onward shell 0 d (s.options.timeout.map (d + ·))) := by
  have hnext : p.next ⟨.creating, [s.start], 0, none⟩ = some (d, .created (.ok shell)) := by
    simp [Pace.next, Pace.due, hd, Stage.isBuilding, Host.answer, hcreated]
  rw [runTimed, runPaced_of_some hnext]
  simp only [advance, step_created, onward]
  rfl

theorem outcome_runTimed_of_refused {error : Engine.Error} (hd : p.duration [s.start] = some d)
    (hcreated : p.created [s.start] = .error error) :
    (s.runTimed p).outcome = (.finished (.error error), [s.start]) := by
  have hnext : p.next ⟨.creating, [s.start], 0, none⟩ = some (d, .created (.error error)) := by
    simp [Pace.next, Pace.due, hd, Stage.isBuilding, Host.answer, hcreated]
  have hover (deadline : Option Nat) :
      p.next ⟨.finished (.error error), [s.start], d, deadline⟩ = none := by
    simp [Pace.next, Pace.due, hd, Stage.isBuilding, Host.answer]
  rw [runTimed, runPaced_of_some hnext]
  simp only [advance, step, List.append_nil]
  rw [runPaced_of_none (hover _)]
  rfl

theorem outcome_runTimed_of_unanswered (hd : p.duration [s.start] = none) :
    (s.runTimed p).outcome = (.creating, [s.start]) := by
  have hnext : p.next ⟨.creating, [s.start], 0, none⟩ = none := by
    simp [Pace.next, Pace.due, hd, Stage.isBuilding]
  rw [runTimed, runPaced_of_none hnext]
  rfl

end

end Saga

namespace Conditions

/-- The pace of an engine that meets the conditions: every call takes its own time but for the
deletion, which takes none. -/
def pace (c : Conditions) : Pace where
  created _ := reply (c.behaviour 0) "/api/v1/flows" c.shell
  applied calls := reply (c.behaviour (calls.length - 1)) (Saga.flowPath c.shell) ()
  deleted _ := c.deletion
  duration calls :=
    match calls.getLast? with
    | some (.delete _) => some 0
    | _ => (c.behaviour (calls.length - 1)).delay

section
variable {c : Conditions} {deadline : Option Nat} {n now count d : Nat}

/-- An answer is in time for a caller that does not give up when it is due by the deadline. -/
theorem inTime_iff (hc : c.dropAt = none) {delay : Option Nat} :
    c.inTime deadline (delay.map (now + ·)) = true ↔
      ∃ d, delay = some d ∧ ∀ limit, deadline = some limit → now + d ≤ limit := by
  cases delay with
  | none => simp [inTime, dueBy]
  | some d => cases deadline <;> simp [inTime, dueBy, hc]

theorem eq_of_reply_eq_ok {b : Behaviour} {path : String} {value value' : α}
    (h : reply b path value = .ok value') : value' = value := by
  unfold reply at h
  split at h
  · cases h
  · exact (Except.ok.inj h).symm

theorem buildEvents_of_ok (hd : (c.behaviour n).delay = some d)
    (htime : c.inTime deadline ((c.behaviour n).delay.map (now + ·)) = true)
    (hreply : reply (c.behaviour n) (Saga.flowPath c.shell) () = .ok ()) :
    c.buildEvents deadline n now (count + 1) =
      .applied (.ok ()) :: c.buildEvents deadline (n + 1) (now + d) count := by
  rw [buildEvents]
  simp only [htime, if_true, hreply]
  simp [hd]

theorem buildEvents_of_error {error : Engine.Error}
    (htime : c.inTime deadline ((c.behaviour n).delay.map (now + ·)) = true)
    (hreply : reply (c.behaviour n) (Saga.flowPath c.shell) () = .error error) :
    c.buildEvents deadline n now (count + 1) =
      [.applied (.error error), .deleted c.deletion] := by
  rw [buildEvents]
  simp only [htime, if_true, hreply]

theorem buildEvents_of_late
    (htime : ¬ c.inTime deadline ((c.behaviour n).delay.map (now + ·)) = true) :
    c.buildEvents deadline n now (count + 1) = c.afterInterruption deadline := by
  rw [buildEvents]
  simp only [htime, if_false, Bool.false_eq_true]

theorem afterInterruption_none (hc : c.dropAt = none) : c.afterInterruption none = [] := by
  simp [afterInterruption, interruption, hc]

theorem afterInterruption_some (hc : c.dropAt = none) (limit : Nat) :
    c.afterInterruption (some limit) = [.expired, .deleted c.deletion] := by
  simp [afterInterruption, interruption, hc]

theorem pace_duration_delete (calls : List Call) (shell : String) :
    c.pace.duration (calls ++ [.delete shell]) = some 0 := by
  simp [pace]

end
end Conditions

namespace Saga

/-- The rest of a run, with what it had come to before. -/
def resume (s : Saga) (outcome : Stage × List Call) (events : List Event) : Stage × List Call :=
  ((s.runFrom outcome.1 events).1, outcome.2 ++ (s.runFrom outcome.1 events).2)

section
variable {s : Saga} {c : Conditions} {w : Progress} {k now : Nat} {deadline : Option Nat}

theorem resume_nil (outcome : Stage × List Call) : s.resume outcome [] = outcome := by
  simp [resume, runFrom]

theorem resume_cons (time : Nat) (e : Event) (events : List Event) :
    s.resume w.outcome (e :: events) = s.resume (s.advance w time e).outcome events := by
  simp [resume, runFrom, Progress.outcome, advance]

theorem length_begun (shell : String) (hk : k ≤ s.plan.length) :
    (s.begun shell k).length = k + 1 := by
  simp [begun, Nat.min_eq_left hk]

theorem pace_applied_begun (shell : String) (hk : k ≤ s.plan.length) :
    c.pace.applied (s.begun shell k) = Conditions.reply (c.behaviour k) (flowPath c.shell) () := by
  simp [Conditions.pace, length_begun shell hk]

theorem pace_duration_begun (shell : String) (hk : k ≤ s.plan.length) :
    c.pace.duration (s.begun shell k) = (c.behaviour k).delay := by
  simp only [Conditions.pace, length_begun shell hk, Nat.add_sub_cancel]
  split
  · next shell' h =>
    exact absurd (List.mem_of_getLast? h) (s.delete_notMem_begun shell shell' k)
  · rfl

/-- On the clock of the conditions a build meets the events that they say. -/
theorem runPaced_onward_pace (hc : c.dropAt = none) {count : Nat}
    (hk : k + count = s.plan.length) :
    (s.runPaced c.pace (s.onward c.shell k now deadline)).outcome =
      s.resume (s.onward c.shell k now deadline).outcome
        (c.buildEvents deadline (k + 1) now count) := by
  induction count generalizing k now with
  | zero =>
    obtain rfl : k = s.plan.length := hk
    rw [runPaced_onward_length, onward_length, Conditions.buildEvents, resume_nil]
  | succ count ih =>
    have hlt : k < s.plan.length := by omega
    have hduration : c.pace.duration (s.begun c.shell (k + 1)) = (c.behaviour (k + 1)).delay :=
      pace_duration_begun c.shell hlt
    have happlied : c.pace.applied (s.begun c.shell (k + 1)) =
        Conditions.reply (c.behaviour (k + 1)) (flowPath c.shell) () :=
      pace_applied_begun c.shell hlt
    by_cases htime : c.inTime deadline ((c.behaviour (k + 1)).delay.map (now + ·)) = true
    · obtain ⟨d, hd, hdue⟩ := (Conditions.inTime_iff hc).1 htime
      rw [hd] at hduration
      cases hreply : Conditions.reply (c.behaviour (k + 1)) (flowPath c.shell) () with
      | ok value =>
        have hok := happlied.trans hreply
        rw [Conditions.buildEvents_of_ok hd htime hreply,
          runPaced_onward_succ hlt hduration hdue hok, ih (by omega), resume_cons (now + d),
          advance_onward_applied hlt]
      | error error =>
        rw [Conditions.buildEvents_of_error htime hreply,
          runPaced_onward_failed hlt hduration hdue (happlied.trans hreply),
          runPaced_undoing, Conditions.pace_duration_delete, onward_of_lt hlt]
        simp [resume, runFrom, Progress.outcome, undo, step]
    · rw [Conditions.buildEvents_of_late htime]
      cases deadline with
      | none =>
        have hnever : (c.behaviour (k + 1)).delay = none := by
          by_contra hdelay
          obtain ⟨d, hd⟩ := Option.ne_none_iff_exists'.1 hdelay
          exact htime ((Conditions.inTime_iff hc).2 ⟨d, hd, by simp⟩)
        have hnext : c.pace.next (s.onward c.shell k now none) = none := by
          rw [onward_of_lt hlt]
          simp [Pace.next, Pace.due, hduration, hnever, Conditions.dueBy, Stage.isBuilding]
        rw [runPaced_of_none hnext, Conditions.afterInterruption_none hc, resume_nil]
      | some limit =>
        have hlate : ∀ d, c.pace.duration (s.begun c.shell (k + 1)) = some d →
            limit < now + d := by
          intro d hd
          by_contra hdue
          rw [hduration] at hd
          exact htime ((Conditions.inTime_iff hc).2 ⟨d, hd, by simpa using hdue⟩)
        rw [runPaced_onward_expired hlt hlate, Conditions.afterInterruption_some hc,
          runPaced_undoing, Conditions.pace_duration_delete, onward_of_lt hlt]
        simp [resume, runFrom, Progress.outcome, undo, step]

/-- A deployment under conditions is one on their clock, unless the caller gives up. -/
theorem runUnder_eq_runTimed (hc : c.dropAt = none) :
    s.runUnder c = ((s.runTimed c.pace).stage.ending, (s.runTimed c.pace).calls) := by
  have hduration : c.pace.duration [s.start] = (c.behaviour 0).delay := by
    simpa [begun_zero] using pace_duration_begun (s := s) (c := c) c.shell (Nat.zero_le _)
  suffices h : (s.runTimed c.pace).outcome = s.resume (.creating, [s.start]) (c.events s) from
    (congrArg (fun outcome => (outcome.1.ending, outcome.2)) h).symm
  cases hd : (c.behaviour 0).delay with
  | none =>
    have hevents : c.events s = [] := by
      simp [Conditions.events, Conditions.inTime, Conditions.dueBy, hd,
        Conditions.afterInterruption_none hc]
    rw [outcome_runTimed_of_unanswered (hduration.trans hd), hevents, resume_nil]
  | some d =>
    have htime : c.inTime none (c.behaviour 0).delay = true := by
      simp [Conditions.inTime, Conditions.dueBy, hd, hc]
    cases hreply : Conditions.reply (c.behaviour 0) "/api/v1/flows" c.shell with
    | error error =>
      have hevents : c.events s = [.created (.error error)] := by
        simp only [Conditions.events, htime, if_true, hreply]
      rw [outcome_runTimed_of_refused (hduration.trans hd) hreply, hevents]
      rfl
    | ok shell =>
      obtain rfl := Conditions.eq_of_reply_eq_ok hreply
      have hevents : c.events s = .created (.ok c.shell) ::
          c.buildEvents (s.options.timeout.map (d + ·)) 1 d s.plan.length := by
        simp only [Conditions.events, htime, if_true, hreply]
        rw [hd]
        rfl
      rw [runTimed_of_created (hduration.trans hd) hreply,
        runPaced_onward_pace hc (Nat.zero_add _), hevents]
      rfl

end
end Saga
end Flowline.Deployment
