import Flowline.Check.Policy
import Flowline.Proofs.Text.Spelling

/-!
What the policy says about schedules of every `n` minutes. An interval below the shortest one blocks
however its number is written. Every minute is reported when its number is written as `1`; with a
plus sign or with zeros before it the same schedule goes unreported.
-/
namespace Flowline
open Text

/-- The minutes field of a step of `n`, written in the given way. -/
def Cron.stepField (s : Numeral) (n : Nat) : String := String.ofList ('*' :: '/' :: s.chars n)

namespace Cron

theorem stepText_stepField (s : Numeral) (n : Nat) :
    stepText (stepField s n) = some (s.chars n) := by
  simp [stepText, stepField]

theorem eq_ofList_of_stepText {field : String} {cs : List Char} (h : stepText field = some cs) :
    field = String.ofList ('*' :: '/' :: cs) := by
  unfold stepText at h
  split at h
  · next heq =>
    rw [← Option.some.inj h, ← heq, String.ofList_toList]
  · cases h

/-- The spellings of a step. -/
theorem minuteStep_eq_some_iff {expr : String} {n : Nat} :
    minuteStep expr = some n ↔
      n < Nat.pow 2 32 ∧ ∃ s : Numeral, minuteField expr = some (stepField s n) := by
  rw [minuteStep, Option.bind_eq_some_iff]
  constructor
  · rintro ⟨cs, htext, hread⟩
    obtain ⟨field, hfield, htext⟩ := Option.bind_eq_some_iff.1 htext
    obtain ⟨hlt, s, rfl⟩ := readNat_eq_some_iff.1 hread
    exact ⟨hlt, s, by rw [hfield, eq_ofList_of_stepText htext, stepField]⟩
  · rintro ⟨hlt, s, hfield⟩
    refine ⟨s.chars n, ?_, readNat_eq_some_iff.2 ⟨hlt, s, rfl⟩⟩
    rw [hfield, Option.bind_some, stepText_stepField]

/-- A step is taken for every minute when it is written as `*/1`. -/
theorem firesEveryMinute_eq_true_iff {expr : String} {s : Numeral} {n : Nat}
    (h : minuteField expr = some (stepField s n)) :
    firesEveryMinute expr = true ↔ s = Numeral.plain ∧ n = 1 := by
  have hstar : stepField s n ≠ "*" := by
    intro heq
    have := congrArg String.toList heq
    simp [stepField] at this
  have hone : stepField s n = "*/1" ↔ s.chars n = ['1'] := by
    rw [← String.toList_inj]
    simp [stepField]
  simp [firesEveryMinute, h, hstar, hone, Numeral.chars_eq_one_iff]

theorem minuteField_trim (expr : String) : minuteField (trim expr) = minuteField expr := by
  rw [minuteField, words_trim]
  rfl

theorem minuteStep_trim (expr : String) : minuteStep (trim expr) = minuteStep expr := by
  rw [minuteStep, minuteField_trim]
  rfl

theorem firesEveryMinute_trim (expr : String) :
    firesEveryMinute (trim expr) = firesEveryMinute expr := by
  rw [firesEveryMinute, minuteField_trim]
  rfl

theorem not_isEmpty_trim {expr : String} {n : Nat} (h : minuteStep expr = some n) :
    (trim expr).isEmpty = false := by
  by_contra hempty
  have hnil : trim expr = "" := by simpa using hempty
  have hnone : minuteStep (trim expr) = none := by rw [hnil]; decide +kernel
  rw [minuteStep_trim, h] at hnone
  cases hnone

end Cron

/-- The expression of a schedule that has a step. -/
theorem ScheduleInput.cron_of_minuteStep {input : ScheduleInput} {own : String} {n : Nat}
    (hown : input.cronExpression = some own) (hstep : Cron.minuteStep own = some n) :
    input.cron = some (trim own) := by
  simp [cron, hown, Cron.not_isEmpty_trim hstep]

namespace Policy
variable {limits : Limits} {flow : Flow} {name own : String} {input : ScheduleInput} {n : Nat}

/-- The findings with the given code. -/
def coded (code : String) (limits : Limits) (flow : Flow) : List Finding :=
  (findings limits flow).filter fun f => f.issue.code = code

theorem coded_eq_map (code : String) (limits : Limits) (flow : Flow) :
    coded code limits flow =
      ((check limits flow).filter fun f => f.code = code).map Fault.finding := by
  rw [coded, findings, List.filter_map]
  congr 2
  funext f
  have hissue : f.finding.issue = f.issue := by
    unfold Fault.finding
    split <;> rfl
  simp [hissue, Fault.issue]

theorem filter_code_ite (code : String) (p : Prop) [Decidable p] (fault : Fault) :
    (if p then [fault] else []).filter (fun f => f.code = code) =
      if p ∧ fault.code = code then [fault] else [] := by
  by_cases hp : p
  · by_cases hcode : fault.code = code
    · simp [hp, hcode]
    · simp [hp, hcode]
  · simp [hp]

/-- The broken rules of a schedule with a step; the last of them do not look at the step. -/
theorem check_of_minuteStep (limits : Limits) (htrigger : flow.trigger = .schedule name input)
    (hown : input.cronExpression = some own) (hstep : Cron.minuteStep own = some n) :
    check limits flow =
      (if n ≠ 1 ∧ n < limits.minIntervalMinutes then
        [.tooFrequent n limits.minIntervalMinutes] else []) ++
      (if Cron.firesEveryMinute own then [.everyMinute] else []) ++
      (if Cron.firesWithinMinute (trim own) then [.withinMinute] else []) ++
      (if limits.maxActions < flow.actions.length then
        [.tooManyActions flow.actions.length limits.maxActions] else []) := by
  have hcron := ScheduleInput.cron_of_minuteStep hown hstep
  simp only [check, triggerFaults, htrigger, hcron, Option.map_some, Option.getD_some,
    scheduleFaults, Cron.minuteStep_trim, hstep, Cron.firesEveryMinute_trim]

/-- A schedule of every `n` minutes has its step in the minutes field, in one of the spellings of
`n`. It is blocked as too frequent exactly when `n` is not one and below the shortest interval, and
reported as every minute exactly when `n` is one in its plain spelling. -/
theorem frequency_reports (limits : Limits) (flow : Flow)
    (htrigger : flow.trigger = .schedule name input) (hown : input.cronExpression = some own)
    (hstep : Cron.minuteStep own = some n) :
    ∃ s : Numeral, Cron.minuteField own = some (Cron.stepField s n) ∧
      coded "G001" limits flow =
        (if n ≠ 1 ∧ n < limits.minIntervalMinutes then
          [.blocking (Fault.tooFrequent n limits.minIntervalMinutes).issue] else []) ∧
      coded "G002" limits flow =
        (if n = 1 ∧ s = Numeral.plain then [.advisory Fault.everyMinute.issue] else []) := by
  obtain ⟨-, s, hfield⟩ := Cron.minuteStep_eq_some_iff.1 hstep
  have hcheck := check_of_minuteStep limits htrigger hown hstep
  refine ⟨s, hfield, ?_, ?_⟩
  · rw [coded_eq_map, hcheck]
    simp only [List.filter_append, filter_code_ite]
    by_cases hfrequent : n ≠ 1 ∧ n < limits.minIntervalMinutes
    · simp [hfrequent, Fault.code, Fault.finding, Fault.blocks]
    · simp [hfrequent, Fault.code]
  · have hplain := Cron.firesEveryMinute_eq_true_iff hfield
    rw [coded_eq_map, hcheck]
    simp only [List.filter_append, filter_code_ite]
    by_cases hone : n = 1 ∧ s = Numeral.plain
    · have hevery := hplain.2 hone.symm
      simp [hevery, hone, Fault.code, Fault.finding, Fault.blocks]
    · have hnever : ¬ Cron.firesEveryMinute own = true := fun h => hone (hplain.1 h).symm
      simp [hnever, hone, Fault.code]

/-- A flow with one action that starts as the expression says. -/
def scheduled (expr : String) : Flow where
  displayName := "Report"
  trigger := .schedule "Often" ⟨some expr, none⟩
  actions := [.code "Run" (some "return 1") []]
  connectionsNeeded := []
  explanation := none

/-- Seven minutes with a plus sign and zeros, in six fields between blanks. -/
theorem frequency_reports_seconds :
    Cron.minuteStep " 0  */+007 * * * *\t" = some 7 ∧
      coded "G001" { minIntervalMinutes := 15 } (scheduled " 0  */+007 * * * *\t") =
        [.blocking (Fault.tooFrequent 7 15).issue] ∧
      coded "G002" { minIntervalMinutes := 15 } (scheduled " 0  */+007 * * * *\t") = [] := by
  have hstep : Cron.minuteStep " 0  */+007 * * * *\t" = some 7 := by decide +kernel
  obtain ⟨s, -, hblocks, hadvises⟩ := frequency_reports { minIntervalMinutes := 15 }
    (scheduled " 0  */+007 * * * *\t") rfl rfl hstep
  exact ⟨hstep, hblocks, by simpa using hadvises⟩

/-- Every minute, written with a zero before the one: nobody is told. -/
theorem padded_unreported :
    Cron.minuteStep "*/01 * * * *" = some 1 ∧ findings {} (scheduled "*/01 * * * *") = [] := by
  refine ⟨by decide +kernel, ?_⟩
  have hcheck : check {} (scheduled "*/01 * * * *") = [] := by decide +kernel
  rw [findings, hcheck]
  rfl

end Policy
end Flowline
