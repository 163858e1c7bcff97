import SubmissionRouting.Proofs.Report.Survey
import SubmissionRouting.Proofs.Table.WellFormed
import Mathlib.Data.List.Sort
import Mathlib.Data.String.Basic

/-! # What a report finds

The report on a form and the check of its table look at the same four things: ids that several routes
have, references to the own form, and the number and the place of the fallbacks. The report tells of
all of them, and of each id that is repeated (`Form.Finds.mem_duplicateRouteIds`), while the check
stops at the first. They agree: the table passes if and only if the report finds none of the four
(`Form.Finds.check_iff`), and a fault of the table is among the findings
(`Form.check_agrees_with_report`). -/

namespace SubmissionRouting

/-! ### Texts in order -/

theorem mem_repeated {id : String} {ids : List String} :
    id ∈ repeated ids ↔ List.Duplicate id ids := by
  induction ids with
  | nil => simp [repeated]
  | cons x ids ih =>
    rw [repeated, List.duplicate_cons_iff]
    by_cases hx : x ∈ ids
    · rw [if_pos hx, List.mem_cons, ih]
      exact or_congr_left ⟨fun h => ⟨h.symm, h.symm ▸ hx⟩, fun h => h.1.symm⟩
    · rw [if_neg hx, ih]
      exact ⟨Or.inr, fun h => h.resolve_left fun h' => hx (h'.1 ▸ h'.2)⟩

theorem mem_sortedTexts {s : String} {texts : List String} : s ∈ sortedTexts texts ↔ s ∈ texts := by
  rw [sortedTexts, List.mem_mergeSort, List.mem_eraseDups]

theorem nodup_eraseDups : ∀ texts : List String, texts.eraseDups.Nodup
  | [] => List.nodup_nil
  | s :: texts => by
    rw [List.eraseDups_cons, List.nodup_cons]
    refine ⟨fun hs => ?_, nodup_eraseDups _⟩
    have hne := (List.mem_filter.mp (List.mem_eraseDups.mp hs)).2
    simp at hne
termination_by texts => texts.length
decreasing_by exact Nat.lt_succ_of_le (List.length_filter_le ..)

/-- **Sorted texts** are in order, each once. -/
theorem pairwise_sortedTexts (texts : List String) : (sortedTexts texts).Pairwise (· < ·) := by
  have hle : (sortedTexts texts).Pairwise (· ≤ ·) := List.pairwise_mergeSort' (· ≤ ·) _
  have hne : (sortedTexts texts).Nodup :=
    (List.mergeSort_perm ..).nodup_iff.mpr (nodup_eraseDups texts)
  exact (hle.and hne).imp fun h => lt_of_le_of_ne h.1 h.2

namespace Report

/-! ### Warnings -/

theorem fallbackWarning_eq_nil_iff {r : Report} :
    r.fallbackWarning = [] ↔ r.fallbackCount = 1 ∧ r.fallbackIsLast = true := by
  unfold fallbackWarning
  split_ifs with hnone hseveral hlast
  · simp [hnone]
  · simp only [false_iff, not_and]
    omega
  · simpa using fun _ => hlast
  · have hone : r.fallbackCount = 1 := by omega
    simpa [hone] using hlast

/-- **There are no warnings** if and only if there is nothing to warn of. -/
theorem warnings_eq_nil_iff {r : Report} :
    r.warnings = [] ↔
      (r.fallbackCount = 1 ∧ r.fallbackIsLast = true) ∧ r.danglingFields = [] ∧
        r.unreachableRoutes = [] ∧ r.duplicateRouteIds = [] ∧ r.selfReferencing = false ∧
        r.maxDepth ≤ 5 := by
  have hwhen (p : Prop) [Decidable p] (s : String) : (if p then [] else [s]) = [] ↔ p := by
    split_ifs with hp <;> simp [hp]
  have hunless (p : Prop) [Decidable p] (s : String) : (if p then [s] else []) = [] ↔ ¬ p := by
    split_ifs with hp <;> simp [hp]
  simp only [warnings, List.append_eq_nil_iff, fallbackWarning_eq_nil_iff, hwhen, hunless,
    List.isEmpty_iff, Bool.not_eq_true, Nat.not_lt, and_assoc]

end Report

namespace Form

variable {f : Form} {r : Report}

/-! ### The findings -/

/-- What a report says of the routes of a form. -/
structure Finds (f : Form) (r : Report) : Prop where
  unreachable : r.unreachableRoutes = f.unreachable.map Route.id
  duplicates : r.duplicateRouteIds = sortedTexts (repeated (f.routes.map Route.id).reverse)
  count : r.fallbackCount = f.table.fallbacks.length
  last : r.fallbackIsLast = f.table.endsInFallback
  own : r.selfReferencing = f.table.routes.any (Route.refersTo f.id)

theorem finds_of_report (h : f.report = .ok r) : f.Finds r := by
  rw [report_eq] at h
  obtain ⟨ids, -, h⟩ := exists_of_bind_eq_ok h
  obtain ⟨dangling, -, h⟩ := exists_of_bind_eq_ok h
  cases h
  exact ⟨rfl, rfl, rfl, rfl, rfl⟩

theorem Finds.mem_duplicateRouteIds (h : f.Finds r) {id : String} :
    id ∈ r.duplicateRouteIds ↔ List.Duplicate id (f.routes.map Route.id) := by
  rw [h.duplicates, mem_sortedTexts, mem_repeated, List.duplicate_iff_two_le_count,
    List.count_reverse, ← List.duplicate_iff_two_le_count]

theorem Finds.duplicateRouteIds_eq_nil_iff (h : f.Finds r) :
    r.duplicateRouteIds = [] ↔ (f.routes.map Route.id).Nodup := by
  simp only [List.eq_nil_iff_forall_not_mem, h.mem_duplicateRouteIds,
    List.nodup_iff_forall_not_duplicate]

theorem Finds.selfReferencing_eq_false_iff (h : f.Finds r) :
    r.selfReferencing = false ↔ ∀ x ∈ f.routes, x.refersTo f.id = false := by
  rw [h.own, List.any_eq_false]
  simp only [Bool.not_eq_true]
  exact Iff.rfl

/-- **A table passes the check** if and only if the report finds nothing that is wrong with it. -/
theorem Finds.check_iff (h : f.Finds r) :
    f.table.check = .ok () ↔ r.fallbackCount = 1 ∧ r.fallbackIsLast = true ∧
      r.duplicateRouteIds = [] ∧ r.selfReferencing = false := by
  rw [RouteTable.check_eq_ok_iff, h.duplicateRouteIds_eq_nil_iff, h.selfReferencing_eq_false_iff,
    h.count, h.last]
  exact ⟨fun hw => ⟨hw.single, hw.last, hw.distinct, hw.foreign⟩,
    fun ⟨hcount, hlast, hdistinct, hforeign⟩ => ⟨hdistinct, hforeign, hcount, hlast⟩⟩

/-- **The report and the check agree.** A table passes the check if and only if the report on its form
finds one fallback, as the last route, no id twice and no reference to the form itself; without any
warning it does. The fault that an id occurs twice is only raised for ids that the report tells of, and
that of a reference to the own form only if the report tells of one. -/
theorem check_agrees_with_report (h : f.report = .ok r) :
    (f.table.check = .ok () ↔ r.fallbackCount = 1 ∧ r.fallbackIsLast = true ∧
      r.duplicateRouteIds = [] ∧ r.selfReferencing = false) ∧
    (r.warnings = [] → f.table.check = .ok ()) ∧
    (∀ id, f.table.check = .error (.selfReference id) → id = f.id ∧ r.selfReferencing = true) ∧
    ∀ id formId, f.table.check = .error (.brokenTable (.duplicateRoute id) formId) →
      formId = f.id ∧ id ∈ r.duplicateRouteIds := by
  have hfinds := finds_of_report h
  refine ⟨hfinds.check_iff, fun hnone => ?_, fun id hself => ?_, fun id formId hdup => ?_⟩
  · obtain ⟨⟨hcount, hlast⟩, -, -, hids, hown, -⟩ := Report.warnings_eq_nil_iff.mp hnone
    exact hfinds.check_iff.mpr ⟨hcount, hlast, hids, hown⟩
  · rcases RouteTable.check_error_cases hself with
      ⟨_, heq, -⟩ | ⟨heq, hany⟩ | ⟨heq, -⟩ | ⟨heq, -⟩ <;> cases heq
    exact ⟨rfl, hfinds.own.trans hany⟩
  · rcases RouteTable.check_error_cases hdup with
      ⟨_, heq, htwice⟩ | ⟨heq, -⟩ | ⟨heq, -⟩ | ⟨heq, -⟩ <;> cases heq
    exact ⟨rfl, hfinds.mem_duplicateRouteIds.mpr htwice⟩

/-- A form with two references to the same form: the check fails with the id that is reported. -/
theorem repeated_reference_is_reported :
    let b : Route := .reference ⟨"b", .null, .null⟩
    let f : Form :=
      ⟨"a", .null, .null, [], [b, b, .rule (createdFallback "z" .null)], .null, .null⟩
    let r : Report := ⟨"a", 3, 1, 2, 0, 1, [], [], none, ["b"], 1, true, false⟩
    f.report = .ok r ∧ f.table.check = .error (.brokenTable (.duplicateRoute "b") "a") ∧
      "b" ∈ r.duplicateRouteIds := by
  intro b f r
  have hreport : f.report = .ok r := by
    rw [report_eq]
    cbv
  have hcheck : f.table.check = .error (.brokenTable (.duplicateRoute "b") "a") := rfl
  obtain ⟨-, -, -, hdup⟩ := check_agrees_with_report hreport
  exact ⟨hreport, hcheck, (hdup "b" "a" hcheck).2⟩

end Form

end SubmissionRouting
