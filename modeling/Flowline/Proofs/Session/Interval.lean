import Flowline.Catalog.Builtin
import Flowline.Proofs.Deployment.TriggerStep
import Flowline.Session.Deploy

/-!
The shortest interval of schedules, and what a deployment sends to the engine. A schedule that is
too frequent is not deployed. The engine knows piece triggers only, and a piece event that names the
piece behind schedules is sent as it is: this is the one way for such an interval to get through.
-/
namespace Flowline
open Engine Deployment

/-- What a row of keys leads to. -/
def Json.follow (v : Json) : List String → Option Json
  | [] => some v
  | key :: rest => (v.member? key).bind (·.follow rest)

/-- The minutes step by less than the limits allow; a step of one is let through. -/
def Cron.TooFrequent (limits : Limits) (expr : String) : Prop :=
  ∃ n, minuteStep expr = some n ∧ n ≠ 1 ∧ n < limits.minIntervalMinutes

/-- The mutation, as it is sent, sets the trigger of the piece behind schedules with the given
expression. -/
structure Engine.Mutation.Schedules (m : Mutation) (expr : String) : Prop where
  type : m.toJson.follow ["type"] = some (.str "UPDATE_TRIGGER")
  piece : m.toJson.follow ["request", "settings", "pieceName"] =
    some (.str Semantic.schedulePiece)
  trigger : m.toJson.follow ["request", "settings", "triggerName"] =
    some (.str Semantic.scheduleTrigger)
  cron : m.toJson.follow ["request", "settings", "input", "cronExpression"] = some (.str expr)

namespace Engine.Mutation

theorem follow_type (m : Mutation) : m.toJson.follow ["type"] = some (.str m.name) := rfl

theorem exists_updateTrigger_of_schedules {m : Mutation} {expr : String} (h : m.Schedules expr) :
    ∃ step, m = .updateTrigger step := by
  have htype := h.type
  rw [follow_type] at htype
  cases m with
  | updateTrigger step => exact ⟨step, rfl⟩
  | addAction addition => simp [name] at htype
  | publish => simp [name] at htype
  | setEnabled enabled => simp [name] at htype

theorem schedules_ofTrigger_iff {timezone expr : String} {t : Trigger} :
    (updateTrigger (Step.ofTrigger timezone t)).Schedules expr ↔
      (∃ name input, t = .schedule name input ∧ expr = input.cron.getD Step.standardCron) ∨
      ∃ name input, t = .pieceEvent name Semantic.schedulePiece Semantic.scheduleTrigger input ∧
        assoc "cronExpression" input = some (.str expr) := by
  constructor
  · rintro ⟨-, hpiece, htrigger, hcron⟩
    cases t with
    | schedule name input =>
      refine .inl ⟨name, input, rfl, ?_⟩
      have hsent : some (Json.str (input.cron.getD Step.standardCron)) = some (.str expr) := hcron
      simpa using hsent.symm
    | pieceEvent name piece event input =>
      obtain rfl : piece = Semantic.schedulePiece := Json.str.inj (Option.some.inj hpiece)
      obtain rfl : event = Semantic.scheduleTrigger := Json.str.inj (Option.some.inj htrigger)
      have hsent : (assoc "cronExpression" input).bind (·.follow []) = some (.str expr) := hcron
      exact .inr ⟨name, input, rfl, by simpa [Json.follow] using hsent⟩
    | webhook name input =>
      have hsent : some (Json.str Step.webhookPiece) = some (.str Semantic.schedulePiece) := hpiece
      simp [Step.webhookPiece, Semantic.schedulePiece] at hsent
  · rintro (⟨name, input, rfl, rfl⟩ | ⟨name, input, rfl, hcron⟩)
    · exact ⟨rfl, rfl, rfl, rfl⟩
    · refine ⟨rfl, rfl, rfl, ?_⟩
      change (assoc "cronExpression" input).bind (·.follow []) = some (.str expr)
      rw [hcron]
      rfl

end Engine.Mutation

namespace Policy
variable {limits : Limits} {flow : Flow}

theorem any_isBlocking_findings (limits : Limits) (flow : Flow) :
    (findings limits flow).any Finding.isBlocking = (check limits flow).any Fault.blocks := by
  rw [findings, List.any_map]
  congr 1
  funext f
  cases f <;> rfl

theorem any_blocks_scheduleFaults {expr : String} :
    (scheduleFaults limits expr).any Fault.blocks = true ↔ Cron.TooFrequent limits expr := by
  have hevery : (if Cron.firesEveryMinute expr then [Fault.everyMinute] else []).any
      Fault.blocks = false := by split <;> rfl
  have hwithin : (if Cron.firesWithinMinute expr then [Fault.withinMinute] else []).any
      Fault.blocks = false := by split <;> rfl
  rw [scheduleFaults, List.any_append, List.any_append, hevery, hwithin, Cron.TooFrequent]
  cases hstep : Cron.minuteStep expr with
  | none => simp
  | some n =>
    by_cases hless : n ≠ 1 ∧ n < limits.minIntervalMinutes
    · simp [hless, Fault.blocks]
    · simpa [if_neg hless] using hless

theorem any_blocks_triggerFaults :
    (triggerFaults limits flow).any Fault.blocks = true ↔
      ∃ expr, flow.trigger.cron = some expr ∧ Cron.TooFrequent limits expr := by
  cases htrigger : flow.trigger with
  | schedule name input =>
    cases hcron : input.cron with
    | none => simp [triggerFaults, htrigger, Trigger.cron, hcron]
    | some expr =>
      simp only [triggerFaults, htrigger, Trigger.cron, hcron, Option.map_some, Option.getD_some,
        any_blocks_scheduleFaults, Option.some.injEq, exists_eq_left']
  | pieceEvent => simp [triggerFaults, htrigger, Trigger.cron]
  | webhook =>
    have hcalls : (if anyMayCall flow.actions then [Fault.mayCallItself] else []).any
        Fault.blocks = false := by split <;> rfl
    simp only [triggerFaults, htrigger, hcalls, Trigger.cron, Bool.false_eq_true, reduceCtorEq,
      false_and, exists_false]

/-- The policy lets a flow through exactly when its schedule, if any, is not too frequent and it has
no more top-level actions than allowed. -/
theorem allowed_iff :
    (findings limits flow).any Finding.isBlocking = false ↔
      (∀ expr, flow.trigger.cron = some expr → ¬ Cron.TooFrequent limits expr) ∧
        flow.actions.length ≤ limits.maxActions := by
  have hcount : (if limits.maxActions < flow.actions.length then
      [Fault.tooManyActions flow.actions.length limits.maxActions] else []).any Fault.blocks =
        false ↔ flow.actions.length ≤ limits.maxActions := by
    by_cases hmax : limits.maxActions < flow.actions.length
    · simp [hmax, Fault.blocks]
    · simp [hmax, Nat.not_lt.1 hmax]
  rw [any_isBlocking_findings, check, List.any_append, Bool.or_eq_false_iff, hcount,
    ← Bool.not_eq_true, any_blocks_triggerFaults]
  simp only [not_exists, not_and]

/-- A schedule that the policy lets through is not too frequent. -/
theorem not_tooFrequent_of_allowed {name : String} {input : ScheduleInput}
    (htrigger : flow.trigger = .schedule name input)
    (hallowed : (findings limits flow).any Finding.isBlocking = false) :
    ¬ Cron.TooFrequent limits (input.cron.getD Step.standardCron) := by
  cases hcron : input.cron with
  | none =>
    have hstandard : Cron.minuteStep Step.standardCron = none := by decide +kernel
    rintro ⟨n, hstep, -⟩
    rw [Option.getD_none, hstandard] at hstep
    cases hstep
  | some expr =>
    have hown : flow.trigger.cron = some expr := by rw [htrigger, Trigger.cron, hcron]
    exact (allowed_iff.1 hallowed).1 expr hown

end Policy

namespace Session

theorem exists_permit_iff {catalog : Catalog} {limits : Limits} {flow : Flow} :
    (∃ warnings, permit catalog limits flow = .ok warnings) ↔
      (flow.findings catalog limits).any Finding.isBlocking = false ∧
        (Policy.findings limits flow).any Finding.isBlocking = false := by
  unfold permit
  cases hfindings : (flow.findings catalog limits).any Finding.isBlocking with
  | true => simp [hfindings]
  | false =>
    cases hpolicy : (Policy.findings limits flow).any Finding.isBlocking with
    | true => simp [hfindings, hpolicy]
    | false => simp [hfindings, hpolicy]

/-- The calls of a deployment are those of its run, and there are none unless the flow may be
deployed. -/
theorem mem_deploy_iff {catalog : Catalog} {limits : Limits} {options : Options} {c : Conditions}
    {flow : Flow} {call : Call} :
    call ∈ (deploy catalog limits options c flow).2 ↔
      (∃ warnings, permit catalog limits flow = .ok warnings) ∧
        call ∈ (Saga.run ⟨flow, options, true⟩ (c.events ⟨flow, options, true⟩)).2 := by
  have hcalls : (Saga.runUnder ⟨flow, options, true⟩ c).2 =
      (Saga.run ⟨flow, options, true⟩ (c.events ⟨flow, options, true⟩)).2 := rfl
  unfold deploy
  cases hpermit : permit catalog limits flow with
  | error e => simp
  | ok warnings =>
    rw [← hcalls]
    simp only [Except.ok.injEq, exists_eq', true_and]
    split
    all_goals
      next hrun =>
      rw [hrun]

/-- What is deployed is sent with a schedule below the shortest interval exactly when the flow may
be deployed, the shell is created, and the trigger is a piece event that names the piece and the
trigger behind schedules with such an expression. -/
theorem sends_tooFrequent_iff (catalog : Catalog) (limits : Limits) (options : Options)
    (c : Conditions) (flow : Flow) :
    (∃ shell m expr, .apply shell m ∈ (deploy catalog limits options c flow).2 ∧
        m.Schedules expr ∧ Cron.TooFrequent limits expr) ↔
      (∃ warnings, permit catalog limits flow = .ok warnings) ∧
      Saga.shellOf (c.events ⟨flow, options, true⟩) ≠ none ∧
      ∃ name input expr,
        flow.trigger = .pieceEvent name Semantic.schedulePiece Semantic.scheduleTrigger input ∧
        assoc "cronExpression" input = some (.str expr) ∧ Cron.TooFrequent limits expr := by
  constructor
  · rintro ⟨shell, m, expr, hcall, hschedules, hfrequent⟩
    obtain ⟨hpermit, hcall⟩ := mem_deploy_iff.1 hcall
    obtain ⟨step, rfl⟩ := Mutation.exists_updateTrigger_of_schedules hschedules
    obtain ⟨hshell, rfl⟩ := Saga.updateTrigger_mem_run_iff.1 hcall
    refine ⟨hpermit, by simp [hshell], ?_⟩
    rcases Mutation.schedules_ofTrigger_iff.1 hschedules with
      ⟨name, input, htrigger, rfl⟩ | ⟨name, input, htrigger, hcron⟩
    · have hallowed := (exists_permit_iff.1 hpermit).2
      exact absurd hfrequent (Policy.not_tooFrequent_of_allowed htrigger hallowed)
    · exact ⟨name, input, expr, htrigger, hcron, hfrequent⟩
  · rintro ⟨hpermit, hshell, name, input, expr, htrigger, hcron, hfrequent⟩
    obtain ⟨shell, hshell⟩ := Option.ne_none_iff_exists'.1 hshell
    refine ⟨shell, .updateTrigger (Step.ofTrigger options.defaultTimezone flow.trigger), expr,
      ?_, ?_, hfrequent⟩
    · exact mem_deploy_iff.2 ⟨hpermit, Saga.updateTrigger_mem_run_iff.2 ⟨hshell, rfl⟩⟩
    · exact Mutation.schedules_ofTrigger_iff.2 (.inr ⟨name, input, htrigger, hcron⟩)

/-- A piece event that fires every two minutes. -/
def disguised : Flow where
  displayName := "Report"
  trigger := .pieceEvent "Often" Semantic.schedulePiece Semantic.scheduleTrigger
    [("cronExpression", .str "*/2 * * * *")]
  actions := [.code "Run" (some "return 1") []]
  connectionsNeeded := []
  explanation := none

/-- An engine that meets every call at once. -/
def willing : Conditions := ⟨"flow", fun _ => ⟨some 0, none⟩, .ok (), none⟩

theorem permit_disguised : permit Catalog.builtin {} disguised = .ok [] := by
  have hfindings : disguised.findings Catalog.builtin {} = [] := by decide +kernel
  have hpolicy : Policy.findings {} disguised = [] := by decide +kernel
  rw [permit, hfindings, hpolicy]
  rfl

/-- Under the standard limits the engine is sent a schedule of two minutes, and nobody is told. -/
theorem disguised_deployed :
    permit Catalog.builtin {} disguised = .ok [] ∧
    ∃ shell m, .apply shell m ∈ (deploy Catalog.builtin {} {} willing disguised).2 ∧
      m.Schedules "*/2 * * * *" ∧ Cron.TooFrequent {} "*/2 * * * *" := by
  refine ⟨permit_disguised, "flow", .updateTrigger (Step.ofTrigger "Asia/Riyadh" disguised.trigger), ?_,
    ⟨rfl, rfl, rfl, rfl⟩, 2, by decide +kernel, by decide, by decide⟩
  exact mem_deploy_iff.2 ⟨⟨[], permit_disguised⟩, Saga.updateTrigger_mem_run_iff.2 ⟨rfl, rfl⟩⟩

end Session
end Flowline
