import Flowline.Engine.Connection
import Flowline.Proofs.Text.Casing

/-!
Which of the needed pieces have a connection. Every one of them is in the one list or in the other,
in the order in which they are needed, and what connections there are counts only through their
piece names: more of them cover more, in any order and however often each one comes.
-/
namespace Flowline.Engine.Connection
open Text

/-- Some connection with a piece name covers the piece: of the two names one is part of the other,
letter case aside. -/
def Covered (connections : List Connection) (piece : String) : Prop :=
  ∃ c ∈ connections, c.pieceName ≠ "" ∧ Overlaps c.pieceName piece

section
variable {connections others : List Connection} {piece : String}

theorem covers_iff {c : Connection} :
    c.covers piece = true ↔ c.pieceName ≠ "" ∧ Overlaps c.pieceName piece := by
  rw [covers, Bool.and_eq_true, isEmpty_lowerCase, contains_or_contains_iff, overlaps_comm]
  simp

theorem any_covers_iff : connections.any (·.covers piece) = true ↔ Covered connections piece := by
  simp only [List.any_eq_true, covers_iff, Covered]

instance : DecidablePred (Covered connections) := fun _ => decidable_of_iff _ any_covers_iff

/-- The needed pieces are split by whether they are covered. -/
theorem report_eq (needed : List String) (connections : List Connection) :
    report needed connections =
      ⟨needed.filter (Covered connections ·), needed.filter (¬ Covered connections ·)⟩ := by
  have hcovered (piece : String) :
      connections.any (·.covers piece) = decide (Covered connections piece) :=
    Bool.eq_iff_iff.2 (any_covers_iff.trans decide_eq_true_iff.symm)
  simp [report, hcovered]

/-- Only the piece names of the connections count, and an empty one does not. -/
theorem Covered.mono
    (hnames : ∀ name, name ≠ "" → name ∈ connections.map (·.pieceName) →
      name ∈ others.map (·.pieceName))
    (h : Covered connections piece) : Covered others piece := by
  obtain ⟨c, hc, hne, hoverlaps⟩ := h
  obtain ⟨other, hother, hname⟩ := List.mem_map.1 (hnames _ hne (List.mem_map_of_mem hc))
  exact ⟨other, hother, hname ▸ hne, hname ▸ hoverlaps⟩

theorem report_congr (needed : List String)
    (hnames : ∀ name, name ≠ "" →
      (name ∈ connections.map (·.pieceName) ↔ name ∈ others.map (·.pieceName))) :
    report needed connections = report needed others := by
  have hcovered (piece : String) : Covered connections piece ↔ Covered others piece :=
    ⟨.mono fun name hne => (hnames name hne).1, .mono fun name hne => (hnames name hne).2⟩
  simp only [report_eq, hcovered]

/-- More connections leave connected what was. -/
theorem report_mono (needed : List String) (hsub : connections ⊆ others) :
    (report needed connections).connected.Sublist (report needed others).connected ∧
      (report needed others).missing.Sublist (report needed connections).missing := by
  have hcovered {piece : String} : Covered connections piece → Covered others piece :=
    .mono fun name _ hname => List.map_subset _ hsub hname
  rw [report_eq, report_eq]
  constructor
  · apply List.monotone_filter_right
    intro piece hpiece
    simpa using hcovered (by simpa using hpiece)
  · apply List.monotone_filter_right
    intro piece hpiece
    simpa using mt hcovered (by simpa using hpiece)

end

/-- One report behind the other. -/
def Report.append (r s : Report) : Report :=
  ⟨r.connected ++ s.connected, r.missing ++ s.missing⟩

theorem report_append (needed more : List String) (connections : List Connection) :
    report (needed ++ more) connections =
      (report needed connections).append (report more connections) := by
  simp [report, Report.append]

/-- A needed piece is connected or missing, as often as it is needed. -/
theorem count_report (needed : List String) (connections : List Connection) (piece : String) :
    (report needed connections).connected.count piece = needed.count piece ∧
        (report needed connections).missing.count piece = 0 ∨
      (report needed connections).connected.count piece = 0 ∧
        (report needed connections).missing.count piece = needed.count piece := by
  rw [report_eq]
  by_cases h : Covered connections piece
  · left
    exact ⟨List.count_filter (by simpa using h), List.count_eq_zero.2 (by simp [h])⟩
  · right
    exact ⟨List.count_eq_zero.2 (by simp [h]), List.count_filter (by simpa using h)⟩

/-- The report splits the needed pieces by whether they are covered, each with its multiplicity and
in order. It depends on no more than which piece names the connections have, other than the empty
one. Where there are more connections no piece is missing that was connected, and the report on two
lists is that on the one behind that on the other. -/
theorem report_splits (needed more : List String) (connections others : List Connection) :
    (report needed connections).connected = needed.filter (Covered connections ·) ∧
    (report needed connections).missing = needed.filter (¬ Covered connections ·) ∧
    (∀ piece,
      (report needed connections).connected.count piece = needed.count piece ∧
          (report needed connections).missing.count piece = 0 ∨
        (report needed connections).connected.count piece = 0 ∧
          (report needed connections).missing.count piece = needed.count piece) ∧
    ((∀ name, name ≠ "" →
        (name ∈ connections.map (·.pieceName) ↔ name ∈ others.map (·.pieceName))) →
      report needed connections = report needed others) ∧
    (connections ⊆ others →
      (report needed connections).connected.Sublist (report needed others).connected ∧
        (report needed others).missing.Sublist (report needed connections).missing) ∧
    report (needed ++ more) connections =
      (report needed connections).append (report more connections) := by
  have heq := report_eq needed connections
  exact ⟨congrArg Report.connected heq, congrArg Report.missing heq,
    count_report needed connections, report_congr needed, report_mono needed,
    report_append needed more connections⟩

/-- A connection to a piece. -/
def toPiece (name : String) : Connection := ⟨"", name, "", none⟩

/-- The same connections in another order, one of them twice and one without a piece name, and then
one more. -/
theorem report_splits_shuffled :
    report ["slack", "Gmail", "slack"] [toPiece "piece-Slack", toPiece "notion"] =
      report ["slack", "Gmail", "slack"]
        [toPiece "notion", toPiece "", toPiece "notion", toPiece "piece-Slack"] ∧
    (report ["slack", "Gmail", "slack"] [toPiece "piece-Slack", toPiece "notion"]).connected =
      ["slack", "slack"] ∧
    ["slack", "slack"].Sublist (report ["slack", "Gmail", "slack"]
      [toPiece "gmail", toPiece "piece-Slack", toPiece "notion"]).connected := by
  have hconnected : (report ["slack", "Gmail", "slack"]
      [toPiece "piece-Slack", toPiece "notion"]).connected = ["slack", "slack"] := by
    decide +kernel
  obtain ⟨-, -, -, hcongr, -, -⟩ := report_splits ["slack", "Gmail", "slack"] []
    [toPiece "piece-Slack", toPiece "notion"]
    [toPiece "notion", toPiece "", toPiece "notion", toPiece "piece-Slack"]
  obtain ⟨-, -, -, -, hmono, -⟩ := report_splits ["slack", "Gmail", "slack"] []
    [toPiece "piece-Slack", toPiece "notion"]
    [toPiece "gmail", toPiece "piece-Slack", toPiece "notion"]
  have hmore := (hmono (by simp)).1
  rw [hconnected] at hmore
  refine ⟨hcongr fun name hne => ?_, hconnected, hmore⟩
  simp only [toPiece, List.map_cons, List.map_nil, List.mem_cons, List.not_mem_nil, hne]
  grind

end Flowline.Engine.Connection
