import SubmissionRouting.Proofs.Report.Findings
import SubmissionRouting.Proofs.Routing.Selection
import Mathlib.Data.List.Nodup

/-! # Unreachable routes

A report calls the routes unreachable that stand behind one that matches always, fallbacks left out.
First match stops at the latest there, so what stands behind is never tried
(`firstMatch_of_matchesAlways`). If the ids of routes are distinct, the form without the reported
routes is therefore tried like the form itself and has the same fallback, and it makes the same
selections, by itself and through chains (`selections_without_unreachable`). -/

namespace SubmissionRouting

/-! ### Behind a route that matches always -/

theorem Condition.evaluate_of_isMatchAll {c : Condition} (h : c.isMatchAll = true)
    (context : Context) : c.evaluate context = pure true := by
  unfold isMatchAll at h
  split at h
  · rfl
  · cases h

/-- **Behind a route that matches always** nothing is tried. -/
theorem firstMatch_of_matchesAlways {a : Route} (ha : a.matchesAlways = true) (formId : String)
    (context : Context) (onReference : RouterReference → Journaled (Option Selection))
    (front rest rest' : List Route) :
    firstMatch formId context onReference (front ++ a :: rest) =
      firstMatch formId context onReference (front ++ a :: rest') := by
  induction front with
  | nil =>
    cases a with
    | reference r => cases ha
    | rule r =>
      obtain ⟨hf, hquery⟩ : r.isFallback = false ∧ r.query.isMatchAll = true := by
        simpa [Route.matchesAlways] using ha
      rw [List.nil_append, List.nil_append, firstMatch, firstMatch, hf,
        Condition.evaluate_of_isMatchAll hquery]
      rfl
  | cons route front ih =>
    cases route with
    | reference r => rw [List.cons_append, List.cons_append, firstMatch, firstMatch, ih]
    | rule r => rw [List.cons_append, List.cons_append, firstMatch, firstMatch, ih]

/-! ### The routes that are left -/

namespace Form

/-- The form without the routes that have one of the given ids. -/
def without (f : Form) (ids : List String) : Form :=
  { f with routes := f.routes.filter fun r => !ids.contains r.id }

variable {f : Form} {x : Route}

theorem unreachable_cases (f : Form) :
    f.unreachable = [] ∨
      ∃ front a rest, f.routes = front ++ a :: rest ∧ a.matchesAlways = true ∧
        f.unreachable = rest.filter fun r => !r.isFallback := by
  rw [unreachable, behindMatchAll]
  cases hrest : f.routes.dropWhile fun r => !r.matchesAlways with
  | nil => exact Or.inl rfl
  | cons a rest =>
    have hsplit := List.takeWhile_append_dropWhile (l := f.routes) (p := fun r => !r.matchesAlways)
    rw [hrest] at hsplit
    have ha := List.head?_dropWhile_not (fun r : Route => !r.matchesAlways) f.routes
    rw [hrest] at ha
    exact Or.inr ⟨_, a, rest, hsplit.symm, by simpa using ha, rfl⟩

theorem mem_routes_of_mem_unreachable (h : x ∈ f.unreachable) : x ∈ f.routes := by
  rcases f.unreachable_cases with hnone | ⟨front, a, rest, hroutes, -, hunreachable⟩
  · rw [hnone] at h; cases h
  · rw [hunreachable] at h
    rw [hroutes]
    exact List.mem_append_right _ (List.mem_cons_of_mem a (List.mem_filter.mp h).1)

theorem isFallback_of_mem_unreachable (h : x ∈ f.unreachable) : x.isFallback = false := by
  simpa using (List.mem_filter.mp h).2

section Distinct

variable (hids : (f.routes.map Route.id).Nodup)
include hids

theorem contains_unreachable_iff (hx : x ∈ f.routes) :
    (f.unreachable.map Route.id).contains x.id = true ↔ x ∈ f.unreachable := by
  rw [List.contains_iff_mem]
  refine ⟨fun h => ?_, List.mem_map_of_mem⟩
  obtain ⟨y, hy, hid⟩ := List.mem_map.mp h
  rwa [← List.inj_on_of_nodup_map hids (mem_routes_of_mem_unreachable hy) hx hid]

theorem filter_unreachable_of_split {front rest : List Route} {a : Route}
    (hroutes : f.routes = front ++ a :: rest)
    (hunreachable : f.unreachable = rest.filter fun r => !r.isFallback) :
    let left (x : Route) := !(f.unreachable.map Route.id).contains x.id
    f.routes.filter left = front ++ a :: rest.filter left := by
  intro left
  have hsplit : f.routes = (front ++ [a]) ++ rest := by rw [hroutes]; simp
  have hdistinct : ((front ++ [a]) ++ rest).Nodup := hsplit ▸ hids.of_map
  have hleft : ∀ x ∈ front ++ [a], left x = true := by
    intro x hx
    have hmem : x ∈ f.routes := by rw [hsplit]; exact List.mem_append_left rest hx
    show (!(f.unreachable.map Route.id).contains x.id) = true
    rw [Bool.not_eq_true', ← Bool.not_eq_true, contains_unreachable_iff hids hmem, hunreachable]
    exact fun hbehind =>
      (List.nodup_append.mp hdistinct).2.2 x hx x (List.mem_filter.mp hbehind).1 rfl
  rw [hsplit, List.filter_append, List.filter_eq_self.mpr hleft, List.append_assoc,
    List.singleton_append]

theorem triedAlike_without_unreachable :
    RouteTable.TriedAlike f.table (f.without (f.unreachable.map Route.id)).table := by
  refine ⟨rfl, rfl, fun formId context onReference => ?_⟩
  show firstMatch formId context onReference (f.routes.filter _) =
    firstMatch formId context onReference f.routes
  rcases f.unreachable_cases with hnone | ⟨front, a, rest, hroutes, ha, hunreachable⟩
  · rw [hnone, List.filter_eq_self.mpr fun x _ => by rfl]
  · rw [filter_unreachable_of_split hids hroutes hunreachable, hroutes]
    exact firstMatch_of_matchesAlways ha formId context onReference front _ rest

theorem fallback?_without_unreachable :
    (f.without (f.unreachable.map Route.id)).table.fallback? = f.table.fallback? := by
  rw [RouteTable.fallback?_eq_head?, RouteTable.fallback?_eq_head?]
  show ((f.routes.filter _).filterMap Route.fallback?).head? =
    (f.routes.filterMap Route.fallback?).head?
  rw [List.filterMap_filter]
  refine congrArg List.head? (List.filterMap_congr fun x hx => ?_)
  split_ifs with hleft
  · rfl
  · rw [Bool.not_eq_true', Bool.not_eq_false, contains_unreachable_iff hids hx] at hleft
    exact (Route.fallback?_eq_none_iff.mpr (isFallback_of_mem_unreachable hleft)).symm

end Distinct

/-- **Unreachable routes may be deleted.** Without the routes that a report calls unreachable, a form
with distinct ids makes the same selections, with the same faults and the same journal: by its table
alone, and through chains, whatever the tables that references lead to. -/
theorem selections_without_unreachable {r : Report} (hids : (f.routes.map Route.id).Nodup)
    (h : f.report = .ok r) :
    let g := f.without r.unreachableRoutes
    (∀ formId response ts fields,
      resolve formId g.table response ts fields = resolve formId f.table response ts fields) ∧
    ∀ response fields, g.table.select response fields = f.table.select response fields := by
  intro g
  have hg : g = f.without (f.unreachable.map Route.id) :=
    congrArg f.without (finds_of_report h).unreachable
  have halike : RouteTable.TriedAlike f.table g.table := by
    rw [hg]; exact triedAlike_without_unreachable hids
  have hfallback : g.table.fallback? = f.table.fallback? := by
    rw [hg]; exact fallback?_without_unreachable hids
  exact ⟨fun formId response ts fields => halike.resolve_eq hfallback formId response ts fields,
    halike.select_eq hfallback⟩

/-- Behind a rule that matches always, a rule and a reference are deleted and the fallback is not. -/
theorem selections_without_two_unreachable :
    let rule (id : String) (isFallback : Bool) : Route :=
      .rule ⟨id, ⟨.customMessage, .null⟩, .matchAll, .missing, isFallback⟩
    let b : Route := .reference ⟨"b", .null, .null⟩
    let f : Form :=
      ⟨"a", .null, .null, [], [rule "x" false, rule "y" false, b, rule "z" true], .null, .null⟩
    let r : Report :=
      ⟨"a", 4, 3, 1, 0, 1, [], ["y", "b"], some "x", [], 1, true, false⟩
    let g := f.without r.unreachableRoutes
    (f.routes.map Route.id).Nodup ∧ f.report = .ok r ∧
      g.routes = [rule "x" false, rule "z" true] ∧
      (∀ response ts, resolve "a" g.table response ts none = resolve "a" f.table response ts none) ∧
      ∀ response, g.table.select response none = f.table.select response none := by
  intro rule b f r g
  have hids : (f.routes.map Route.id).Nodup := by decide
  have hreport : f.report = .ok r := by
    rw [report_eq]
    cbv
  obtain ⟨hresolve, hselect⟩ := selections_without_unreachable hids hreport
  exact ⟨hids, hreport, rfl, fun response ts => hresolve "a" response ts none,
    fun response => hselect response none⟩

end Form

end SubmissionRouting
