import SubmissionRouting.Proofs.Routing.Selection
import SubmissionRouting.Proofs.Table.FallbackPlaces

/-! # The order of routes

A rule *applies* to a response if it is no fallback and its condition holds (`Route.applying?`). If
all conditions can be evaluated, a table selects the first of the rules that apply, or its fallback if
none does (`outcome_select_of_evaluates`). So of the order of its routes only that of the rules that
apply matters (`order_among_applying`), provided that there are not several fallbacks:

* if at most one rule applies, every order of the routes selects alike
  (`outcome_select_of_perm`);
* a route that is moved up past its neighbour changes the selection if and only if the neighbour was
  selected and the route applies too, and then it is the route that is selected
  (`outcome_select_exchange_ne_iff`, `outcome_select_exchange`);
* what is done to references, and where the fallback is put, changes nothing, not even the journal
  (`select_of_unheeded`). -/

namespace SubmissionRouting

/-! ### Rules that apply -/

/-- The condition of the rule can be evaluated and holds. -/
def RuleRoute.holdsIn (context : Context) (r : RuleRoute) : Bool :=
  match (r.query.evaluate context).outcome with
  | .ok holds => holds
  | .error _ => false

/-- The rule that a route is, if it applies. -/
def Route.applying? (context : Context) : Route → Option RuleRoute
  | rule r => if r.isFallback then none else if r.holdsIn context then some r else none
  | reference _ => none

theorem Route.eq_of_applying? {context : Context} {route : Route} {r : RuleRoute}
    (h : route.applying? context = some r) : route = .rule r := by
  cases route with
  | reference r' => cases h
  | rule r' =>
    rw [applying?] at h
    split_ifs at h
    cases h
    rfl

/-- A list that is another one in a different order is the same if there is at most one item. -/
theorem eq_of_perm_of_length_le_one {α : Type} {l l' : List α} (h : l'.Perm l)
    (hone : l.length ≤ 1) : l' = l := by
  match l, hone with
  | [], _ => exact h.eq_nil
  | [a], _ => exact List.perm_singleton.mp h

namespace RouteTable

variable {t u : RouteTable} {response : Response} {fields : Option (List Field)} {context : Context}
  {id : Value} {a r : Route} {before after : List Route}

/-- The conditions of all rules can be evaluated. -/
def Evaluates (t : RouteTable) (context : Context) : Prop :=
  ∀ r, Route.rule r ∈ t.routes → ∃ holds, (r.query.evaluate context).outcome = .ok holds

/-- The rules that apply, in order. -/
def applying (t : RouteTable) (context : Context) : List RuleRoute :=
  t.routes.filterMap (Route.applying? context)

/-- The selection of a rule of the table. -/
def selectionOf (t : RouteTable) (r : RuleRoute) : Selection := ⟨r, .rule, [t.formId], none⟩

theorem decided_firstMatch_of_evaluates (h : t.Evaluates context) :
    decided (firstMatch t.formId context (fun _ => pure none) t.routes).outcome =
      (t.applying context).head?.map fun r => .ok (t.selectionOf r) := by
  rw [decided_firstMatch, applying, List.head?_filterMap, List.map_findSome?]
  refine findSome?_congr fun route hroute => ?_
  cases route with
  | reference r => rfl
  | rule r =>
    rw [Function.comp_apply, Route.verdict, Route.applying?]
    by_cases hf : r.isFallback = true
    · rw [if_pos hf, if_pos hf]; rfl
    · obtain ⟨holds, hholds⟩ := h r hroute
      rw [if_neg hf, if_neg hf, RuleRoute.verdict, RuleRoute.holdsIn, hholds]
      cases holds <;> rfl

/-- **A table selects the first rule that applies**, or its fallback if none does. -/
theorem outcome_select_of_evaluates (hcontext : t.context response fields = .ok context)
    (h : t.Evaluates context) :
    (t.select response fields).outcome =
      ((t.applying context).head?.map fun r => Except.ok (t.selectionOf r)).getD
        (t.selectFallback context).outcome := by
  rw [← decided_firstMatch_of_evaluates h, select, Journaled.outcome_bind, Journaled.outcome_liftM,
    hcontext, ok_bind, Journaled.outcome_bind]
  rcases (firstMatch t.formId context (fun _ => pure none) t.routes).outcome with e | _ | s <;> rfl

theorem outcome_select_congr {routes : List Route}
    (hcontext : t.context response fields = .ok context) (h : t.Evaluates context)
    (hrules : ∀ x ∈ routes, x ∈ t.routes)
    (hfirst : (applying { t with routes := routes } context).head? = (t.applying context).head?)
    (hfallback : fallback? { t with routes := routes } = t.fallback?) :
    (select { t with routes := routes } response fields).outcome =
      (t.select response fields).outcome := by
  have hevaluates : Evaluates { t with routes := routes } context :=
    fun r hr => h r (hrules _ hr)
  rw [outcome_select_of_evaluates hcontext h,
    outcome_select_of_evaluates (t := { t with routes := routes }) hcontext hevaluates, hfirst]
  unfold selectFallback
  rw [hfallback]
  rfl

/-! ### Any order -/

theorem fallback?_of_perm (hone : t.fallbacks.length ≤ 1) {routes : List Route}
    (hperm : routes.Perm t.routes) : fallback? { t with routes := routes } = t.fallback? := by
  rw [fallback?_eq_head?, fallback?_eq_head?]
  exact congrArg List.head? (eq_of_perm_of_length_le_one (hperm.filterMap _) hone)

/-- **If at most one rule applies, every order selects alike.** -/
theorem outcome_select_of_perm (hone : t.fallbacks.length ≤ 1)
    (hcontext : t.context response fields = .ok context) (h : t.Evaluates context)
    (happlying : (t.applying context).length ≤ 1) {routes : List Route}
    (hperm : routes.Perm t.routes) :
    (select { t with routes := routes } response fields).outcome =
      (t.select response fields).outcome := by
  refine outcome_select_congr hcontext h (fun x hx => hperm.mem_iff.mp hx) ?_
    (fallback?_of_perm hone hperm)
  exact congrArg List.head? (eq_of_perm_of_length_le_one (hperm.filterMap _) happlying)

/-! ### Neighbours that are exchanged -/

/-- The route behind some others applies, and none of the others does. -/
structure FirstToApply (context : Context) (before : List Route) (r : Route) : Prop where
  here : (r.applying? context).isSome = true
  first : ∀ x ∈ before, x.applying? context = none

theorem outcome_select_of_firstToApply (hcontext : t.context response fields = .ok context)
    (h : t.Evaluates context) (hroutes : t.routes = before ++ a :: after)
    (hfirst : FirstToApply context before a) {r : RuleRoute} (hr : a.applying? context = some r) :
    (t.select response fields).outcome = .ok (t.selectionOf r) := by
  have hhead : (t.applying context).head? = some r := by
    rw [applying, hroutes, List.filterMap_append,
      List.filterMap_eq_nil_iff.mpr hfirst.first, List.nil_append, List.filterMap_cons_some hr,
      List.head?_cons]
  rw [outcome_select_of_evaluates hcontext h, hhead]
  rfl

section Exchange

variable (hone : t.fallbacks.length ≤ 1) (hcontext : t.context response fields = .ok context)
  (h : t.Evaluates context) (hroutes : t.routes = before ++ a :: r :: after)
include hone hcontext h hroutes

/-- Where not both of two neighbours apply, or another route does before them, they may be
exchanged. -/
theorem outcome_select_exchange_eq
    (hnot : ¬ (FirstToApply context before a ∧ (r.applying? context).isSome = true)) :
    (select { t with routes := before ++ r :: a :: after } response fields).outcome =
      (t.select response fields).outcome := by
  have hperm : (before ++ r :: a :: after).Perm t.routes := by
    rw [hroutes]; exact (List.Perm.swap a r after).append_left before
  refine outcome_select_congr hcontext h (fun x hx => hperm.mem_iff.mp hx) ?_
    (fallback?_of_perm hone hperm)
  unfold applying
  rw [hroutes]
  simp only [List.filterMap_append]
  cases hbefore : before.filterMap (Route.applying? context) with
  | cons first rest => rfl
  | nil =>
    have hnone : ∀ x ∈ before, x.applying? context = none := List.filterMap_eq_nil_iff.mp hbefore
    cases ha : a.applying? context with
    | none => simp only [List.filterMap_cons, ha]
    | some a' =>
      cases hr : r.applying? context with
      | none => simp only [List.filterMap_cons, ha, hr]
      | some r' =>
        exact absurd ⟨⟨by rw [ha]; rfl, hnone⟩, by rw [hr]; rfl⟩ hnot

omit hone in
/-- Where a route and its neighbour below it both apply, and no other one does before them, the lower
one is selected once they are exchanged. -/
theorem outcome_select_exchange (hfirst : FirstToApply context before a) {r' : RuleRoute}
    (hr : r.applying? context = some r') :
    (select { t with routes := before ++ r :: a :: after } response fields).outcome =
      .ok (t.selectionOf r') := by
  have hevaluates : Evaluates { t with routes := before ++ r :: a :: after } context := by
    intro x hx
    refine h x ?_
    rw [hroutes]
    exact ((List.Perm.swap a r after).append_left before).mem_iff.mp hx
  exact outcome_select_of_firstToApply (t := { t with routes := before ++ r :: a :: after })
    hcontext hevaluates rfl ⟨by rw [hr]; rfl, hfirst.first⟩ hr

/-- **An exchange of two neighbours changes the selection** if and only if the upper one was selected
and the lower one applies too. -/
theorem outcome_select_exchange_ne_iff (hid : a.id ≠ r.id) :
    (select { t with routes := before ++ r :: a :: after } response fields).outcome ≠
        (t.select response fields).outcome ↔
      FirstToApply context before a ∧ (r.applying? context).isSome = true := by
  constructor
  · intro hne
    by_contra hnot
    exact hne (outcome_select_exchange_eq hone hcontext h hroutes hnot)
  · rintro ⟨hfirst, hr⟩ heq
    obtain ⟨a', ha'⟩ := Option.isSome_iff_exists.mp hfirst.here
    obtain ⟨r', hr'⟩ := Option.isSome_iff_exists.mp hr
    rw [outcome_select_exchange hcontext h hroutes hfirst hr',
      outcome_select_of_firstToApply hcontext h hroutes hfirst ha'] at heq
    have hroute : r' = a' := congrArg Selection.route (Except.ok.inj heq)
    rw [Route.eq_of_applying? ha', Route.eq_of_applying? hr', hroute] at hid
    exact hid rfl

end Exchange

theorem Finds.exchange_of_moveUp (hfinds : t.Finds id (before ++ [a]) r after)
    (hmove : t.moveUp id = .ok u) :
    u = { t with routes := before ++ r :: a :: after } ∧ t.routes = before ++ a :: r :: after ∧
      a.id ≠ r.id := by
  refine ⟨?_, by rw [hfinds.routes]; simp, fun hid => ?_⟩
  · have hr := hfinds.isFallback_of_move (m := .up) hmove
    exact Except.ok.inj (hmove.symm.trans (moveUp_of_finds hfinds hr))
  · refine hfinds.first a (by simp) ?_
    rw [hfinds.here, hid]

/-! ### References and fallbacks -/

end RouteTable

/-- The route has no part in first match: it is a reference or a fallback. -/
def Route.isPassedOver : Route → Bool
  | rule r => r.isFallback
  | reference _ => true

/-- References that contribute nothing and fallbacks have no part in first match. -/
theorem firstMatch_filter_rules (formId : String) (context : Context) (routes : List Route) :
    firstMatch formId context (fun _ => pure none) (routes.filter fun x => !x.isPassedOver) =
      firstMatch formId context (fun _ => pure none) routes := by
  induction routes with
  | nil => rfl
  | cons route routes ih =>
    cases route with
    | reference r => rw [List.filter_cons_of_neg (by simp [Route.isPassedOver]), ih]; rfl
    | rule r =>
      by_cases hf : r.isFallback = true
      · rw [List.filter_cons_of_neg (by simpa [Route.isPassedOver] using hf), ih, firstMatch,
          if_pos hf]
      · rw [List.filter_cons_of_pos (by simpa [Route.isPassedOver] using hf), firstMatch, firstMatch,
          ih]

/-- A change of routes that does not touch the order of rules: a reference is inserted or deleted, or
a reference or fallback gets another place. -/
inductive Unheeded : List Route → List Route → Prop
  | insert (before after : List Route) (r : RouterReference) :
    Unheeded (before ++ after) (before ++ .reference r :: after)
  | delete (before after : List Route) (r : RouterReference) :
    Unheeded (before ++ .reference r :: after) (before ++ after)
  | moveUp (before between after : List Route) (x : Route) (hx : x.isPassedOver = true) :
    Unheeded (before ++ (between ++ x :: after)) (before ++ x :: (between ++ after))
  | moveDown (before between after : List Route) (x : Route) (hx : x.isPassedOver = true) :
    Unheeded (before ++ x :: (between ++ after)) (before ++ (between ++ x :: after))

/-- **One such change** leaves the rules in their order, and the same fallbacks. -/
theorem Unheeded.rules_and_fallbacks {routes routes' : List Route} (h : Unheeded routes routes') :
    routes'.filter (fun x => !x.isPassedOver) = routes.filter (fun x => !x.isPassedOver) ∧
      (routes'.filterMap Route.fallback?).Perm (routes.filterMap Route.fallback?) := by
  have hreference (r : RouterReference) (after : List Route) :
      (Route.reference r :: after).filterMap Route.fallback? = after.filterMap Route.fallback? :=
    List.filterMap_cons_none rfl
  cases h with
  | insert before after r => simp [Route.isPassedOver, hreference]
  | delete before after r => simp [Route.isPassedOver, hreference]
  | moveUp before between after x hx =>
    exact ⟨by simp [hx], (List.perm_middle.symm.append_left before).filterMap _⟩
  | moveDown before between after x hx =>
    exact ⟨by simp [hx], (List.perm_middle.append_left before).filterMap _⟩

theorem rules_and_fallbacks_of_unheeded {routes routes' : List Route}
    (h : Relation.ReflTransGen Unheeded routes routes') :
    routes'.filter (fun x => !x.isPassedOver) = routes.filter (fun x => !x.isPassedOver) ∧
      (routes'.filterMap Route.fallback?).Perm (routes.filterMap Route.fallback?) := by
  induction h with
  | refl => exact ⟨rfl, List.Perm.refl _⟩
  | tail _ hstep ih =>
    obtain ⟨hrules, hfallbacks⟩ := hstep.rules_and_fallbacks
    exact ⟨hrules.trans ih.1, hfallbacks.trans ih.2⟩

namespace RouteTable

variable {t : RouteTable} {response : Response} {fields : Option (List Field)} {context : Context}

/-- Such changes have no effect on what is selected, whether conditions can be evaluated or not. -/
theorem select_of_unheeded (hone : t.fallbacks.length ≤ 1) {routes : List Route}
    (h : Relation.ReflTransGen Unheeded t.routes routes) (response : Response)
    (fields : Option (List Field)) :
    select { t with routes := routes } response fields = t.select response fields := by
  obtain ⟨hrules, hfallbacks⟩ := rules_and_fallbacks_of_unheeded h
  have hfallback : fallback? { t with routes := routes } = t.fallback? := by
    rw [fallback?_eq_head?, fallback?_eq_head?]
    exact congrArg List.head? (eq_of_perm_of_length_le_one hfallbacks hone)
  have hfirst (context : Context) : firstMatch t.formId context (fun _ => pure none) routes =
      firstMatch t.formId context (fun _ => pure none) t.routes := by
    rw [← firstMatch_filter_rules _ _ routes, hrules, firstMatch_filter_rules]
  unfold select selectFallback
  simp only [hfirst, hfallback]
  rfl

/-! ### What the order of routes decides -/

/-- **The order of routes matters only among rules that apply.** In a table that has at most one
fallback, let all conditions be evaluated. If at most one rule applies, every order of the routes comes
to the same selection, or to the same fault if there is no fallback. A route that is moved up past its
neighbour changes the selection exactly if the neighbour was selected, at its place, and the route
applies too; then the route is selected. What is done to references, and moving the fallback, changes
nothing. -/
theorem order_among_applying (hone : t.fallbacks.length ≤ 1)
    (hcontext : t.context response fields = .ok context) (h : t.Evaluates context) :
    (∀ routes : List Route, routes.Perm t.routes → (t.applying context).length ≤ 1 →
      (select { t with routes := routes } response fields).outcome =
        (t.select response fields).outcome) ∧
    (∀ id before a r after u, t.Finds id (before ++ [a]) r after → t.moveUp id = .ok u →
      ((u.select response fields).outcome ≠ (t.select response fields).outcome ↔
        FirstToApply context before a ∧ (r.applying? context).isSome = true) ∧
      ∀ a' r', FirstToApply context before a → a.applying? context = some a' →
        r.applying? context = some r' →
        (t.select response fields).outcome = .ok (t.selectionOf a') ∧
          (u.select response fields).outcome = .ok (t.selectionOf r')) ∧
    ∀ routes, Relation.ReflTransGen Unheeded t.routes routes →
      select { t with routes := routes } response fields = t.select response fields := by
  refine ⟨fun routes hperm happlying => outcome_select_of_perm hone hcontext h happlying hperm, ?_,
    fun routes hunheeded => select_of_unheeded hone hunheeded response fields⟩
  intro id before a r after u hfinds hmove
  obtain ⟨rfl, hroutes, hid⟩ := hfinds.exchange_of_moveUp hmove
  refine ⟨outcome_select_exchange_ne_iff hone hcontext h hroutes hid, ?_⟩
  intro a' r' hfirst ha hr
  exact ⟨outcome_select_of_firstToApply hcontext h hroutes hfirst ha,
    outcome_select_exchange hcontext h hroutes hfirst hr⟩

/-- Of two rules that apply, the lower one is selected once it is moved up. If it does not apply, no
order of the routes changes the selection, and a reference never does. -/
theorem order_matters_of_two_rules :
    let route (id : String) (k : Combinator) (isFallback : Bool) : RuleRoute :=
      ⟨id, ⟨.customMessage, .null⟩, .group k [], .missing, isFallback⟩
    let x := route "x" .and false
    let y (k : Combinator) := route "y" k false
    let f := Route.rule (route "f" .and true)
    let t (k : Combinator) : RouteTable := ⟨"a", [.rule x, .rule (y k), f], some []⟩
    let u := { t .and with routes := [.rule (y .and), .rule x, f] }
    (∀ k, (t k).fallbacks.length ≤ 1 ∧ (t k).context [] none = .ok ⟨[], []⟩ ∧
      (t k).Evaluates ⟨[], []⟩) ∧
    (t .and).moveUp (.text "y") = .ok u ∧
    ((t .and).select [] none).outcome = .ok ⟨x, .rule, ["a"], none⟩ ∧
    (u.select [] none).outcome = .ok ⟨y .and, .rule, ["a"], none⟩ ∧
    (u.select [] none).outcome ≠ ((t .and).select [] none).outcome ∧
    ((t .or).applying ⟨[], []⟩).length ≤ 1 ∧
    (∀ routes : List Route, routes.Perm (t .or).routes →
      (select { t .or with routes := routes } [] none).outcome =
        ((t .or).select [] none).outcome) ∧
    ∀ r, select { t .and with routes := .reference r :: (t .and).routes } [] none =
      (t .and).select [] none := by
  intro route x y f t u
  have hone : ∀ k, (t k).fallbacks.length ≤ 1 := fun k => Nat.le_refl 1
  have hcontext : ∀ k, (t k).context [] none = .ok ⟨[], []⟩ := fun k => rfl
  have hevaluates : ∀ k, (t k).Evaluates ⟨[], []⟩ := by
    intro k r hr
    have hgroup (j : Combinator) : ∃ holds,
        (Condition.evaluate ⟨[], []⟩ (.group j [])).outcome = .ok holds := by
      cases j <;> exact ⟨_, rfl⟩
    simp only [t, f, List.mem_cons, Route.rule.injEq, List.not_mem_nil, or_false] at hr
    rcases hr with rfl | rfl | rfl
    · exact hgroup .and
    · exact hgroup k
    · exact hgroup .and
  have hmove : (t .and).moveUp (.text "y") = .ok u := rfl
  have hfinds : (t .and).Finds (.text "y") ([] ++ [.rule x]) (.rule (y .and)) [f] :=
    ⟨rfl, rfl, by simp [x, route, Route.id]⟩
  have hfirst : FirstToApply ⟨[], []⟩ [] (.rule x) := ⟨rfl, nofun⟩
  obtain ⟨-, hup, hunheeded⟩ := order_among_applying (hone .and) (hcontext .and) (hevaluates .and)
  obtain ⟨hchanges, hselected⟩ := hup _ _ _ _ _ _ hfinds hmove
  obtain ⟨hbefore, hafter⟩ := hselected x (y .and) hfirst rfl rfl
  obtain ⟨hperm, -, -⟩ := order_among_applying (hone .or) (hcontext .or) (hevaluates .or)
  have happlying : ((t .or).applying ⟨[], []⟩).length ≤ 1 := Nat.le_refl 1
  exact ⟨fun k => ⟨hone k, hcontext k, hevaluates k⟩, hmove, hbefore, hafter,
    hchanges.mpr ⟨hfirst, rfl⟩, happlying, fun routes hroutes => hperm routes hroutes happlying,
    fun r => hunheeded _ (.single (.insert [] _ r))⟩

end RouteTable

end SubmissionRouting
