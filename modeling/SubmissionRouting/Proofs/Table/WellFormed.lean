import SubmissionRouting.Form.Table
import Mathlib.Data.List.Basic
import Mathlib.Data.List.Duplicate

/-! # Well-formed tables

The check of a table goes from route to route and stops at the first fault. A table passes it if and
only if it is `WellFormed`: no id occurs twice, no route refers to the table's own form, and there is
one fallback, at the end (`check_eq_ok_iff`). The fault of a table that does not is true of the table
(`check_error_cases`).

The routes of a well-formed table are the `others`, none of them a fallback, and a fallback behind them
(`WellFormed.routes_eq`). -/

namespace SubmissionRouting

theorem Route.fallback?_eq_none_iff {route : Route} :
    route.fallback? = none ↔ route.isFallback = false := by
  cases route with
  | reference r => simp [fallback?, isFallback]
  | rule r => simp [fallback?, isFallback]

namespace RouteTable

/-- The ids are distinct, no route refers to the own form, and the only fallback is the last
route. -/
structure WellFormed (t : RouteTable) : Prop where
  distinct : (t.routes.map Route.id).Nodup
  foreign : ∀ r ∈ t.routes, r.refersTo t.formId = false
  single : t.fallbacks.length = 1
  last : t.endsInFallback = true

/-- The routes that are no fallbacks, in order. -/
def others (t : RouteTable) : List Route := t.routes.filter fun r => !r.isFallback

variable {t : RouteTable}

/-! ### The check -/

theorem checkRoutes_eq_ok_iff {seen : List String} {routes : List Route} :
    t.checkRoutes seen routes = .ok () ↔
      (routes.map Route.id).Nodup ∧ (∀ r ∈ routes, r.id ∉ seen) ∧
        ∀ r ∈ routes, r.refersTo t.formId = false := by
  induction routes generalizing seen with
  | nil => simp [checkRoutes]
  | cons r rs ih =>
    rw [checkRoutes]
    by_cases hseen : r.id ∈ seen
    · rw [if_pos hseen]
      exact ⟨nofun, fun h => absurd hseen (h.2.1 r List.mem_cons_self)⟩
    · by_cases hself : r.refersTo t.formId = true
      · rw [if_neg hseen, if_pos hself]
        refine ⟨nofun, fun h => ?_⟩
        rw [h.2.2 r List.mem_cons_self] at hself
        cases hself
      · rw [if_neg hseen, if_neg hself, ih, List.map_cons, List.nodup_cons]
        simp only [List.mem_cons, not_or, forall_eq_or_imp, List.mem_map, not_exists, not_and]
        rw [Bool.not_eq_true] at hself
        constructor
        · rintro ⟨hnodup, hnew, hforeign⟩
          exact ⟨⟨fun x hx => (hnew x hx).1, hnodup⟩, ⟨hseen, fun x hx => (hnew x hx).2⟩,
            hself, hforeign⟩
        · rintro ⟨⟨hother, hnodup⟩, ⟨-, hnew⟩, -, hforeign⟩
          exact ⟨hnodup, fun x hx => ⟨hother x hx, hnew x hx⟩, hforeign⟩

theorem check_of_checkRoutes (h : t.checkRoutes [] t.routes = .ok ()) :
    t.check = if t.fallbacks.length ≠ 1 then t.broken (.fallbackCount t.fallbacks.length)
      else if !t.endsInFallback then t.broken .fallbackNotLast else .ok () := by
  rw [check, h]
  rfl

/-- **A table passes the check if and only if it is well formed.** -/
theorem check_eq_ok_iff : t.check = .ok () ↔ t.WellFormed := by
  have hroutes : t.checkRoutes [] t.routes = .ok () ↔
      (t.routes.map Route.id).Nodup ∧ ∀ r ∈ t.routes, r.refersTo t.formId = false := by
    rw [checkRoutes_eq_ok_iff]
    simp only [List.not_mem_nil, not_false_eq_true, implies_true, true_and]
  constructor
  · intro h
    cases hr : t.checkRoutes [] t.routes with
    | error e => rw [check, hr] at h; cases h
    | ok u =>
      rw [check_of_checkRoutes hr] at h
      obtain ⟨hdistinct, hforeign⟩ := hroutes.mp hr
      by_cases hsingle : t.fallbacks.length = 1
      · rw [if_neg (not_not.mpr hsingle)] at h
        cases hlast : t.endsInFallback with
        | true => exact ⟨hdistinct, hforeign, hsingle, hlast⟩
        | false => rw [hlast] at h; cases h
      · rw [if_pos hsingle] at h; cases h
  · rintro ⟨hdistinct, hforeign, hsingle, hlast⟩
    rw [check_of_checkRoutes (hroutes.mpr ⟨hdistinct, hforeign⟩), hsingle, hlast]
    rfl

/-- The first fault of the routes is an id that occurs twice, or once and was seen before, or a
reference to the own form. -/
theorem checkRoutes_error_cases {seen : List String} {routes : List Route} {e : RoutingFault}
    (h : t.checkRoutes seen routes = .error e) :
    (∃ id, e = .brokenTable (.duplicateRoute id) t.formId ∧
      (id ∈ seen ∧ id ∈ routes.map Route.id ∨ List.Duplicate id (routes.map Route.id))) ∨
      (e = .selfReference t.formId ∧ routes.any (Route.refersTo t.formId) = true) := by
  induction routes generalizing seen with
  | nil => cases h
  | cons r rs ih =>
    rw [checkRoutes] at h
    by_cases hseen : r.id ∈ seen
    · rw [if_pos hseen] at h
      cases h
      exact Or.inl ⟨r.id, rfl, Or.inl ⟨hseen, List.mem_cons_self⟩⟩
    rw [if_neg hseen] at h
    by_cases hself : r.refersTo t.formId = true
    · rw [if_pos hself] at h
      cases h
      exact Or.inr ⟨rfl, by rw [List.any_cons, hself, Bool.true_or]⟩
    rw [if_neg hself] at h
    rcases ih h with ⟨id, rfl, ⟨hid, hmem⟩ | hdup⟩ | ⟨rfl, hany⟩
    · refine Or.inl ⟨id, rfl, ?_⟩
      rcases List.mem_cons.mp hid with rfl | hid
      · exact Or.inr (List.Mem.duplicate_cons_self hmem)
      · exact Or.inl ⟨hid, List.mem_cons_of_mem _ hmem⟩
    · exact Or.inl ⟨id, rfl, Or.inr (hdup.duplicate_cons _)⟩
    · exact Or.inr ⟨rfl, by rw [List.any_cons, hany, Bool.or_true]⟩

/-- **The fault of a table** that does not pass the check is true of it. -/
theorem check_error_cases {e : RoutingFault} (h : t.check = .error e) :
    (∃ id, e = .brokenTable (.duplicateRoute id) t.formId ∧
      List.Duplicate id (t.routes.map Route.id)) ∨
    (e = .selfReference t.formId ∧ t.routes.any (Route.refersTo t.formId) = true) ∨
    (e = .brokenTable (.fallbackCount t.fallbacks.length) t.formId ∧ t.fallbacks.length ≠ 1) ∨
    (e = .brokenTable .fallbackNotLast t.formId ∧ t.endsInFallback = false) := by
  cases hroutes : t.checkRoutes [] t.routes with
  | error e' =>
    rw [check, hroutes] at h
    cases h
    rcases checkRoutes_error_cases hroutes with ⟨id, rfl, ⟨hid, -⟩ | hdup⟩ | hself
    · cases hid
    · exact Or.inl ⟨id, rfl, hdup⟩
    · exact Or.inr (Or.inl hself)
  | ok u =>
    rw [check_of_checkRoutes hroutes] at h
    split_ifs at h with hcount hlast
    · cases h
      exact Or.inr (Or.inr (Or.inl ⟨rfl, hcount⟩))
    · cases h
      exact Or.inr (Or.inr (Or.inr ⟨rfl, by simpa using hlast⟩))

/-! ### The fallback at the end -/

theorem fallback?_eq_head? (t : RouteTable) : t.fallback? = t.fallbacks.head? :=
  List.head?_filterMap.symm

theorem length_fallbacks (t : RouteTable) :
    t.fallbacks.length = t.routes.countP Route.isFallback := by
  rw [fallbacks, List.length_filterMap_eq_countP]
  congr 1
  funext r
  cases r with
  | reference r => rfl
  | rule r => rw [Route.fallback?, Route.isFallback]; cases r.isFallback <;> rfl

theorem others_eq_of_routes {order : List Route} {last : Route} (h : t.routes = order ++ [last])
    (hlast : last.isFallback = true) (horder : ∀ r ∈ order, r.isFallback = false) :
    t.others = order := by
  rw [others, h, List.filter_append, List.filter_eq_self.mpr fun r hr => by rw [horder r hr]; rfl,
    List.filter_cons_of_neg (by simp [hlast])]
  exact List.append_nil order

theorem WellFormed.routes_eq (h : t.WellFormed) :
    ∃ last, t.routes = t.others ++ [last] ∧ last.isFallback = true := by
  have hend := h.last
  unfold endsInFallback at hend
  cases hlast : t.routes.getLast? with
  | none => rw [hlast] at hend; cases hend
  | some last =>
    rw [hlast, Option.any_some] at hend
    have hroutes : t.routes = t.routes.dropLast ++ [last] :=
      (List.dropLast_append_getLast? last hlast).symm
    have hcount := h.single
    rw [length_fallbacks, hroutes, List.countP_append, List.countP_singleton, if_pos hend] at hcount
    have hnone : ∀ r ∈ t.routes.dropLast, ¬ r.isFallback = true :=
      List.countP_eq_zero.mp (Nat.succ.inj hcount)
    have hothers : t.others = t.routes.dropLast :=
      others_eq_of_routes hroutes hend fun r hr => by simpa using hnone r hr
    exact ⟨last, by rw [hothers]; exact hroutes, hend⟩

theorem isFallback_of_mem_others {r : Route} (h : r ∈ t.others) : r.isFallback = false := by
  simpa using (List.mem_filter.mp h).2

end RouteTable

end SubmissionRouting
