import Flowline.Catalog.Builtin
import Flowline.Draft.Repair
import Flowline.Proofs.Check.Acceptance
import Flowline.Proofs.Text.Spelling

/-!
The drafter is asked once or twice. The second question is put exactly when the first candidate can
be repaired, and the last reply alone decides how drafting ends.
-/
namespace Flowline

/-- A question is met by the next reply. -/
theorem Dialogue.play_ask {κ ρ α : Type} (spent : ρ) (q : κ) (next : ρ → Dialogue κ ρ α)
    (replies : List ρ) :
    play spent (.ask q next) replies =
      ((play spent (next (replies.getD 0 spent)) replies.tail).1,
        q :: (play spent (next (replies.getD 0 spent)) replies.tail).2.1,
        (play spent (next (replies.getD 0 spent)) replies.tail).2.2) := by
  cases replies <;> rfl

namespace Finding

theorem blocks_eq (findings : List Finding) :
    blocks findings = (findings.filter isBlocking).map issue := by
  induction findings with
  | nil => rfl
  | cons f rest ih =>
    cases f with
    | blocking i => exact congrArg (i :: ·) ih
    | advisory i => exact ih

end Finding

namespace Candidate

/-- A candidate comes out as its typed form, and does so exactly when nothing blocks. -/
theorem flow_check_cases (catalog : Catalog) (limits : Limits) (candidate : Json) :
    ((check catalog limits candidate).findings.any Finding.isBlocking = true ∧
      (check catalog limits candidate).flow = none) ∨
    ((check catalog limits candidate).findings.any Finding.isBlocking = false ∧
      ∃ flow, toFlow candidate = .ok flow ∧ (check catalog limits candidate).flow = some flow) := by
  cases hflow : (check catalog limits candidate).flow with
  | some flow =>
    obtain ⟨-, htyped, hcheck, hblock⟩ := accepted_iff_cases hflow
    exact .inr ⟨by rw [hcheck]; exact hblock, flow, htyped, rfl⟩
  | none =>
    refine .inl ⟨?_, rfl⟩
    unfold check at hflow ⊢
    split at hflow
    · rfl
    · split at hflow
      · split at hflow
        · rfl
        · simp only [verdict] at hflow ⊢
          split at hflow
          · assumption
          · cases hflow
      · rename_i hreports
        obtain ⟨report, rest, hcons⟩ := List.exists_cons_of_ne_nil hreports
        simp [hcons, Finding.isBlocking]

end Candidate

namespace Draft
open Json

theorem append_eq_ofList {s t : String} {cs ds : List Char} (hs : s = String.ofList cs)
    (ht : t = String.ofList ds) : s ++ t = String.ofList (cs ++ ds) := by
  rw [hs, ht, String.ofList_append]

theorem candidate_eq_ok {raw : String} {cs : List Char} {v : Json} (h : raw = String.ofList cs)
    (hread : ((objectSpan cs).bind fun span => (Parser.document maxDepth span).toOption) = some v) :
    candidate raw = .ok v := by
  obtain ⟨span, hspan, hdocument⟩ := Option.bind_eq_some_iff.1 hread
  cases hparse : Parser.document maxDepth span with
  | error e =>
    rw [hparse] at hdocument
    cases hdocument
  | ok w =>
    rw [hparse] at hdocument
    obtain rfl := Option.some.inj hdocument
    simp only [candidate, h, String.toList_ofList, hspan, readSpan, parse, parseDeep, hparse]
    rfl

theorem conclude_eq_accepted {attempts : Nat} {v : Verdict} {flow : Flow} {warnings : List Issue}
    {repaired : Bool} (h : conclude attempts v = .accepted flow warnings repaired) :
    v.flow = some flow ∧ warnings = v.warnings := by
  unfold conclude at h
  split at h
  · rename_i hflow
    cases h
    exact ⟨hflow, rfl⟩
  · cases h

/-- The issues of a candidate, one on each line and numbered: the phase and the code in brackets,
the message, and the place if there is one. -/
def issueLines (issues : List Issue) : String :=
  String.intercalate "\n" (issues.mapIdx fun i issue =>
    toString (i + 1) ++ ". " ++
      ("[" ++ issue.phase.name ++ ":" ++ issue.code ++ "] " ++ issue.message ++
        issue.location.elim "" fun place => " (at " ++ place ++ ")"))

theorem text_eq (issue : Issue) : issue.text =
    "[" ++ issue.phase.name ++ ":" ++ issue.code ++ "] " ++ issue.message ++
      issue.location.elim "" fun place => " (at " ++ place ++ ")" := by
  obtain ⟨code, phase, message, location⟩ := issue
  cases location with
  | none => exact (String.append_empty).symm
  | some place => simp only [Issue.text, Option.elim_some, String.append_assoc]

theorem numberedFrom_map (n : Nat) (issues : List Issue) :
    numberedFrom n (issues.map Issue.text) =
      issues.mapIdx fun i issue => toString (i + n) ++ ". " ++ issue.text := by
  induction issues generalizing n with
  | nil => rfl
  | cons issue issues ih =>
    have hshift : ∀ i, i + (n + 1) = i + 1 + n := fun i => by omega
    simp [numberedFrom, ih, List.mapIdx_cons, hshift]

theorem repairText_eq (request : String) (candidate : Json) (issues : List Issue) :
    repairText request candidate issues =
      "Fix the following errors and reply with corrected JSON only.\n\nErrors:\n" ++
        issueLines issues ++ "\n\nPrevious JSON:\n" ++ candidate.pretty ++ "\n\nRequest: " ++
        request := by
  have hlines : String.intercalate "\n" (numberedFrom 1 (issues.map Issue.text)) =
      issueLines issues := by
    rw [numberedFrom_map, issueLines]
    simp only [text_eq]
  unfold repairText
  rw [hlines]

section
variable {s : Setting} {reply spent : Reply} {replies : List Reply}

theorem play_onCandidate_error {e : DraftError} {next : Json → Drafting}
    (h : read reply = .error e) :
    (onCandidate reply next).play spent replies = (.error e, [], replies) := by
  simp only [onCandidate, h, Dialogue.play]

theorem onCandidate_ok {candidate : Json} {next : Json → Drafting}
    (h : read reply = .ok candidate) : onCandidate reply next = next candidate := by
  simp only [onCandidate, h]

end

/-- How a draft can go, with its result and the questions that are asked. -/
inductive Course (s : Setting) (request : String) (context : List Message) (reply : Nat → Reply) :
    Except DraftError Outcome → List Prompt → Prop
  | unread (e : DraftError) (first : read (reply 0) = .error e) :
    Course s request context reply (.error e) [firstPrompt s request context]
  | settled (candidate : Json) (first : read (reply 0) = .ok candidate)
    (fit : needsRepair (Candidate.check s.catalog s.limits candidate) = false) :
    Course s request context reply
      (.ok (conclude 1 (Candidate.check s.catalog s.limits candidate)))
      [firstPrompt s request context]
  | lost (candidate : Json) (e : DraftError) (first : read (reply 0) = .ok candidate)
    (unfit : needsRepair (Candidate.check s.catalog s.limits candidate) = true)
    (second : read (reply 1) = .error e) :
    Course s request context reply (.error e) [firstPrompt s request context,
      repairPrompt s request candidate (Candidate.check s.catalog s.limits candidate).errors]
  | repaired (candidate last : Json) (first : read (reply 0) = .ok candidate)
    (unfit : needsRepair (Candidate.check s.catalog s.limits candidate) = true)
    (second : read (reply 1) = .ok last) :
    Course s request context reply (.ok (conclude 2 (Candidate.check s.catalog s.limits last)))
      [firstPrompt s request context,
        repairPrompt s request candidate (Candidate.check s.catalog s.limits candidate).errors]

theorem course_draft (s : Setting) (request : String) (context : List Message) (spent : Reply)
    (replies : List Reply) :
    ∃ result asked,
      (draft s request context).play spent replies = (result, asked, replies.drop asked.length) ∧
        Course s request context (replies.getD · spent) result asked := by
  have hnext : replies.tail.getD 0 spent = replies.getD 1 spent := by cases replies <;> rfl
  have hrest : replies.tail.tail = replies.drop 2 := by simp [← List.drop_one]
  rw [draft, Dialogue.play_ask]
  cases hfirst : read (replies.getD 0 spent) with
  | error e =>
    rw [play_onCandidate_error hfirst]
    exact ⟨_, _, by simp, .unread e hfirst⟩
  | ok candidate =>
    rw [onCandidate_ok hfirst]
    dsimp only
    cases hrepair : needsRepair (Candidate.check s.catalog s.limits candidate) with
    | false => exact ⟨_, _, by simp [Dialogue.play], .settled candidate hfirst hrepair⟩
    | true =>
      rw [if_pos rfl, Dialogue.play_ask, hnext]
      cases hsecond : read (replies.getD 1 spent) with
      | error e =>
        rw [play_onCandidate_error hsecond]
        exact ⟨_, _, by simp [hrest], .lost candidate e hfirst hrepair hsecond⟩
      | ok last =>
        rw [onCandidate_ok hsecond]
        exact ⟨_, _, by simp [Dialogue.play, hrest],
          .repaired candidate last hfirst hrepair hsecond⟩

namespace Course
variable {s : Setting} {request : String} {context : List Message} {reply : Nat → Reply}
  {result : Except DraftError Outcome} {asked : List Prompt}

end Course

/-- A flow with one action, as a candidate and as the text of a reply. -/
def report : Json := .obj [
  ("actions", .arr [.obj [("code", .str "r"), ("displayName", .str "R"), ("type", .str "CODE")]]),
  ("displayName", .str "F"),
  ("trigger", .obj [("displayName", .str "W"), ("type", .str "WEBHOOK")])]

theorem candidate_braces : Draft.candidate "\x7b\x7d" = .ok (.obj []) :=
  candidate_eq_ok rfl rfl

def bracesIssues : List Issue := [
  ⟨"S002", .schema, "displayName is required and must be a non-empty string", none⟩,
  ⟨"S003", .schema, "trigger is required and must be an object", some "trigger"⟩,
  ⟨"S006", .schema, "actions is required and must be a non-empty array", none⟩]

theorem blocking_braces : ((Candidate.check Catalog.builtin {} (.obj [])).findings.filter
    Finding.isBlocking).map Finding.issue = bracesIssues := rfl

/-- What is asked after a candidate without members. -/
def bracesQuestion : String :=
  "Fix the following errors and reply with corrected JSON only.\n\nErrors:\n" ++
    ("1. [Schema:S002] displayName is required and must be a non-empty string\n" ++
      "2. [Schema:S003] trigger is required and must be an object (at trigger)\n" ++
      "3. [Schema:S006] actions is required and must be a non-empty array") ++
    "\n\nPrevious JSON:\n" ++ "\x7b\x7d" ++ "\n\nRequest: " ++ "F"

theorem issueLines_braces : issueLines bracesIssues =
    "1. [Schema:S002] displayName is required and must be a non-empty string\n" ++
      "2. [Schema:S003] trigger is required and must be an object (at trigger)\n" ++
      "3. [Schema:S006] actions is required and must be a non-empty array" := by rfl

def impossible : Json := .obj [("error", .str "no")]

def impossibleText : String := "\x7b\"error\":\"no\"\x7d"

theorem candidate_impossibleText : Draft.candidate impossibleText = .ok impossible :=
  candidate_eq_ok rfl rfl

end Draft
end Flowline
