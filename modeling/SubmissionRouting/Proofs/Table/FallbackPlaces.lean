import SubmissionRouting.Proofs.Table.Reordering

/-! # The places of fallbacks

A move exchanges two neighbours, if it changes anything (`move_exchanges`). The lower one is never a
fallback: it is the route that is moved up, or the one that a route is moved past on its way down. But
a route is moved up without regard to the one above it, so a fallback that stands there changes places
with it. That is the only way in which a fallback gets another place (`fallbacks_stay_iff`); the
smallest table in which one does has two routes (`moveUp_past_fallback`).

In a table that has all its fallbacks behind the other routes this never happens, in a whole run of
moves (`fallbacksStay_afterMoves`). -/

namespace SubmissionRouting

namespace RouteTable

variable {t u v : RouteTable} {m : Move} {id : Value} {a b r : Route} {before after : List Route}

/-- The same fallbacks stand at the same places in both tables. -/
def FallbacksStay (t u : RouteTable) : Prop :=
  ∀ (n : Nat) (r : Route), r.isFallback = true → (t.routes[n]? = some r ↔ u.routes[n]? = some r)

/-- A route is moved up, and there is a fallback right above it. -/
def PassesFallback (t : RouteTable) (m : Move) (id : Value) : Prop :=
  m = .up ∧ ∃ before a r after, t.Finds id (before ++ [a]) r after ∧ a.isFallback = true

/-- No route stands behind a fallback, other fallbacks apart. -/
def FallbacksBehind (t : RouteTable) : Prop :=
  t.routes.Pairwise fun a b => a.isFallback = true → b.isFallback = true

theorem FallbacksStay.refl (t : RouteTable) : FallbacksStay t t := fun _ _ _ => Iff.rfl

theorem FallbacksStay.trans (h : FallbacksStay t u) (h' : FallbacksStay u v) : FallbacksStay t v :=
  fun n r hr => (h n r hr).trans (h' n r hr)

/-! ### Neighbours that are exchanged -/

theorem getElem?_exchange (ha : a ≠ r) (hb : b ≠ r) (before after : List Route) (n : Nat) :
    (before ++ a :: b :: after)[n]? = some r ↔ (before ++ b :: a :: after)[n]? = some r := by
  induction before generalizing n with
  | nil =>
    match n with
    | 0 => simp [ha, hb]
    | 1 => simp [ha, hb]
    | n + 2 => exact Iff.rfl
  | cons x before ih =>
    match n with
    | 0 => exact Iff.rfl
    | n + 1 => exact ih n

theorem ne_of_isFallback (ha : a.isFallback = false) (hr : r.isFallback = true) : a ≠ r := by
  rintro rfl
  rw [hr] at ha
  cases ha

theorem fallbacksStay_exchange (hroutes : t.routes = before ++ a :: b :: after)
    (ha : a.isFallback = false) (hb : b.isFallback = false) :
    FallbacksStay t { t with routes := before ++ b :: a :: after } := by
  intro n r hr
  rw [hroutes]
  exact getElem?_exchange (ne_of_isFallback ha hr) (ne_of_isFallback hb hr) before after n

theorem not_fallbacksStay_exchange (hroutes : t.routes = before ++ a :: b :: after)
    (ha : a.isFallback = true) (hb : b.isFallback = false) :
    ¬ FallbacksStay t { t with routes := before ++ b :: a :: after } := by
  intro hstay
  have hplace : t.routes[before.length]? = some a := by
    rw [hroutes, List.getElem?_append_right (Nat.le_refl _), Nat.sub_self, List.getElem?_cons_zero]
  have hnow := (hstay before.length a ha).mp hplace
  dsimp only at hnow
  rw [List.getElem?_append_right (Nat.le_refl _), Nat.sub_self, List.getElem?_cons_zero] at hnow
  exact ne_of_isFallback hb ha (Option.some.inj hnow)

theorem FallbacksBehind.exchange (h : t.FallbacksBehind)
    (hroutes : t.routes = before ++ a :: b :: after) (ha : a.isFallback = false)
    (hb : b.isFallback = false) :
    FallbacksBehind { t with routes := before ++ b :: a :: after } := by
  unfold FallbacksBehind at h ⊢
  rw [hroutes, List.pairwise_append, List.pairwise_cons, List.pairwise_cons] at h
  obtain ⟨hbefore, ⟨-, -, hafter⟩, hacross⟩ := h
  rw [List.pairwise_append, List.pairwise_cons, List.pairwise_cons]
  refine ⟨hbefore, ⟨fun x _ hx => ?_, fun x _ hx => ?_, hafter⟩, fun x hx y hy => ?_⟩
  · rw [hb] at hx; cases hx
  · rw [ha] at hx; cases hx
  · exact hacross x hx y ((List.Perm.swap a b after).mem_iff.mp hy)

/-! ### One move -/

theorem exists_finds_of_move (h : t.move m id = .ok u) :
    ∃ before r after, t.Finds id before r after ∧ r.isFallback = false := by
  by_contra hno
  obtain ⟨e, he⟩ : ∃ e, t.move m id = .error e := by
    refine move_fails ((absent_or_finds t id).imp_right ?_) m
    rintro ⟨before, r, after, hfinds⟩
    refine ⟨before, r, after, hfinds, ?_⟩
    by_contra hr
    exact hno ⟨before, r, after, hfinds, Bool.eq_false_iff.mpr hr⟩
  rw [h] at he
  cases he

theorem Finds.isFallback_of_move (hfinds : t.Finds id before r after) (h : t.move m id = .ok u) :
    r.isFallback = false := by
  obtain ⟨before', r', after', hfinds', hr'⟩ := exists_finds_of_move h
  rw [Option.some.inj (hfinds.route?_eq.symm.trans hfinds'.route?_eq), hr']

/-- **A move**, in whatever table, leaves it as it is or exchanges two neighbours, of which the lower
one is no fallback, and the upper one is none unless a route is moved up past it. -/
theorem move_exchanges (h : t.move m id = .ok u) :
    u = t ∨ ∃ before a b after, t.routes = before ++ a :: b :: after ∧
      u = { t with routes := before ++ b :: a :: after } ∧ b.isFallback = false ∧
      (a.isFallback = true → t.PassesFallback m id) := by
  obtain ⟨before, r, after, hfinds, hr⟩ := exists_finds_of_move h
  cases m with
  | up =>
    -- whether the route above is a fallback is not looked at
    rcases List.eq_nil_or_concat before with rfl | ⟨front, a, rfl⟩
    · exact Or.inl (Except.ok.inj (h.symm.trans (moveUp_of_finds_first hfinds hr)))
    · rw [List.concat_eq_append] at hfinds
      refine Or.inr ⟨front, a, r, after, by rw [hfinds.routes]; simp,
        Except.ok.inj (h.symm.trans (moveUp_of_finds hfinds hr)), hr, fun ha => ?_⟩
      exact ⟨rfl, front, a, r, after, hfinds, ha⟩
  | down =>
    have hdown := Except.ok.inj (h.symm.trans (moveDown_of_finds hfinds hr))
    cases after with
    | nil => exact Or.inl hdown
    | cons b rest =>
      cases hb : b.isFallback with
      | true => exact Or.inl (hdown.trans (if_pos hb))
      | false =>
        refine Or.inr ⟨before, r, b, rest, hfinds.routes,
          hdown.trans (if_neg (Bool.eq_false_iff.mp hb)), hb, fun hfallback => ?_⟩
        rw [hr] at hfallback
        cases hfallback

theorem not_fallbacksStay_of_passes (h : t.move m id = .ok u) (hpass : t.PassesFallback m id) :
    ¬ FallbacksStay t u := by
  obtain ⟨rfl, before, a, r, after, hfinds, ha⟩ := hpass
  have hr := hfinds.isFallback_of_move h
  rw [Except.ok.inj (h.symm.trans (moveUp_of_finds hfinds hr))]
  exact not_fallbacksStay_exchange (by rw [hfinds.routes]; simp) ha hr

theorem fallbacksStay_move_iff (h : t.move m id = .ok u) :
    FallbacksStay t u ↔ ¬ t.PassesFallback m id := by
  constructor
  · exact fun hstay hpass => not_fallbacksStay_of_passes h hpass hstay
  · intro hpass
    rcases move_exchanges h with rfl | ⟨before, a, b, after, hroutes, rfl, hb, ha⟩
    · exact FallbacksStay.refl u
    · exact fallbacksStay_exchange hroutes (Bool.eq_false_iff.mpr fun hf => hpass (ha hf)) hb

/-! ### Runs -/

/-- Where all fallbacks are behind the other routes, no route is moved past one. -/
theorem FallbacksBehind.not_passes (hb : t.FallbacksBehind) (h : t.move m id = .ok u) :
    ¬ t.PassesFallback m id := by
  rintro ⟨rfl, before, a, r, after, hfinds, ha⟩
  have hr : r.isFallback = true := by
    unfold FallbacksBehind at hb
    rw [hfinds.routes, List.append_assoc, List.pairwise_append] at hb
    exact (List.pairwise_cons.mp hb.2.1).1 r List.mem_cons_self ha
  rw [hfinds.isFallback_of_move h] at hr
  cases hr

/-- **A step** keeps the fallbacks behind the other routes and at their places. -/
theorem FallbacksBehind.move (hb : t.FallbacksBehind) (h : t.move m id = .ok u) :
    u.FallbacksBehind ∧ FallbacksStay t u := by
  have hpass := hb.not_passes h
  refine ⟨?_, (fallbacksStay_move_iff h).mpr hpass⟩
  rcases move_exchanges h with rfl | ⟨before, a, b, after, hroutes, rfl, hlower, ha⟩
  · exact hb
  · exact hb.exchange hroutes (Bool.eq_false_iff.mpr fun hf => hpass (ha hf)) hlower

/-- **A run** of moves, of which some may fail, keeps every fallback at its place if all of them are
behind the other routes. -/
theorem fallbacksStay_afterMoves (hb : t.FallbacksBehind) (steps : List (Move × Value)) :
    FallbacksStay t (t.afterMoves steps) := by
  induction steps generalizing t with
  | nil => exact FallbacksStay.refl t
  | cons step steps ih =>
    show FallbacksStay t ((t.afterMove step).afterMoves steps)
    have hstep : (t.afterMove step).FallbacksBehind ∧ FallbacksStay t (t.afterMove step) := by
      unfold afterMove
      cases hmove : t.move step.1 step.2 with
      | error e => exact ⟨hb, FallbacksStay.refl t⟩
      | ok u => exact hb.move hmove
    exact hstep.2.trans (ih hstep.1)

/-- **Where fallbacks stay.** Whatever the table, a move that succeeds leaves every fallback at its
place, unless it takes a route up past one, which then gets another place. If all fallbacks are behind
the other routes, no run of moves gives one another place. -/
theorem fallbacks_stay_iff (t : RouteTable) :
    (∀ m id u, t.move m id = .ok u → (FallbacksStay t u ↔ ¬ t.PassesFallback m id)) ∧
      (t.FallbacksBehind → ∀ steps, FallbacksStay t (t.afterMoves steps)) :=
  ⟨fun _ _ _ h => fallbacksStay_move_iff h, fallbacksStay_afterMoves⟩

/-- Two fallbacks at the end stay there, also when a route in front of them is moved. -/
theorem two_fallbacks_stay :
    let rule (id : String) (isFallback : Bool) : Route :=
      .rule ⟨id, ⟨.customMessage, .null⟩, .matchAll, .missing, isFallback⟩
    let t : RouteTable :=
      ⟨"f", [rule "a" false, rule "b" false, rule "y" true, rule "z" true], none⟩
    let u := { t with routes := [rule "b" false, rule "a" false, rule "y" true, rule "z" true] }
    t.move .up (.text "b") = .ok u ∧ FallbacksStay t u ∧ t.FallbacksBehind ∧
      ∀ steps, FallbacksStay t (t.afterMoves steps) := by
  intro rule t u
  have hmove : t.move .up (.text "b") = .ok u := by rfl
  have hbehind : t.FallbacksBehind := by
    simp [FallbacksBehind, t, rule, Route.isFallback]
  obtain ⟨hstep, hrun⟩ := fallbacks_stay_iff t
  exact ⟨hmove, (hstep _ _ u hmove).mpr (hbehind.not_passes hmove), hbehind, hrun hbehind⟩

/-- A route below a fallback is moved up past it, and the fallback is not the first any more. -/
theorem moveUp_past_fallback :
    let f : Route := .rule ⟨"f", ⟨.customMessage, .null⟩, .matchAll, .missing, true⟩
    let r : Route := .rule ⟨"r", ⟨.customMessage, .null⟩, .matchAll, .missing, false⟩
    let t : RouteTable := ⟨"a", [f, r], none⟩
    t.moveUp (.text "r") = .ok { t with routes := [r, f] } ∧ f.isFallback = true ∧
      t.routes[0]? = some f ∧ [r, f][0]? ≠ some f := by
  intro f r t
  refine ⟨rfl, rfl, rfl, fun heq => ?_⟩
  have hid : r.id = f.id := congrArg Route.id (Option.some.inj heq)
  exact absurd hid (by decide)

end RouteTable

end SubmissionRouting
