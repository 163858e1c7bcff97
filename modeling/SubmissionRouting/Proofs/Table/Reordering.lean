import SubmissionRouting.Proofs.Table.WellFormed
import Mathlib.Data.List.Nodup
import Mathlib.Data.List.Perm.Basic

/-! # Reordering tables

A route is moved by its id: the first route with the id changes places with its neighbour
(`moveUp_of_finds`, `moveDown_of_finds`). In a well-formed table a move that changes anything
exchanges two routes that are no fallbacks, and the opposite move with the same id undoes it
(`move_cases`). A move fails if no route has the id, or only the fallback (`move_fails_iff`).

So whatever is reached from a well-formed table by moves is the same table with its `others` in
another order (`reordering_of_moves`), and every order is reached, since each is made by exchanging
neighbours (`exists_moves_of_perm`). -/

namespace SubmissionRouting

/-- Where a route is moved. -/
inductive Move where
  | up
  | down

/-- The other way. -/
def Move.opposite : Move → Move
  | up => down
  | down => up

theorem swapAt_append {α : Type} (before : List α) (a b : α) (after : List α) :
    swapAt before.length (before ++ a :: b :: after) = before ++ b :: a :: after := by
  induction before with
  | nil => rfl
  | cons x before ih => simp only [List.length_cons, List.cons_append, swapAt, ih]

namespace RouteTable

/-- The table with a route moved one place. -/
def move (t : RouteTable) : Move → Value → Result RouteTable
  | .up, id => t.moveUp id
  | .down, id => t.moveDown id

/-- The table after a move; a move that fails leaves it as it is. -/
def afterMove (t : RouteTable) (step : Move × Value) : RouteTable :=
  match t.move step.1 step.2 with
  | .ok u => u
  | .error _ => t

/-- The table after some moves. -/
def afterMoves (t : RouteTable) (steps : List (Move × Value)) : RouteTable :=
  steps.foldl afterMove t

/-! ### The first route with an id -/

/-- The first route with an id, with the routes before and after it. -/
structure Finds (t : RouteTable) (id : Value) (before : List Route) (r : Route)
    (after : List Route) : Prop where
  routes : t.routes = before ++ r :: after
  here : id = .text r.id
  first : ∀ x ∈ before, id ≠ .text x.id

variable {t u v : RouteTable} {id : Value} {before after : List Route} {r : Route}

theorem absent_or_finds (t : RouteTable) (id : Value) :
    (∀ r ∈ t.routes, id ≠ .text r.id) ∨ ∃ before r after, t.Finds id before r after := by
  by_cases h : ∃ r ∈ t.routes, id = .text r.id
  · right
    obtain ⟨r₀, hmem, rfl⟩ := h
    have hids : r₀.id ∈ t.routes.map Route.id := List.mem_map_of_mem hmem
    obtain ⟨ids, ids', hsplit, hnew⟩ := List.eq_append_cons_of_mem hids
    obtain ⟨before, rest, hroutes, rfl, hrest⟩ := List.map_eq_append_iff.mp hsplit
    obtain ⟨r, after, rfl, hid, -⟩ := List.map_eq_cons_iff.mp hrest
    refine ⟨before, r, after, hroutes, by rw [hid], fun x hx heq => hnew ?_⟩
    rw [Value.text.inj heq]
    exact List.mem_map_of_mem hx
  · left
    exact fun r hr heq => h ⟨r, hr, heq⟩

theorem Finds.route?_eq (h : t.Finds id before r after) : t.route? id = some r := by
  obtain ⟨hroutes, rfl, hfirst⟩ := h
  rw [route?, hroutes, List.find?_append, List.find?_eq_none.mpr, Option.none_or,
    List.find?_cons_of_pos (by simp)]
  intro x hx hsame
  exact hfirst x hx (Value.same_text_iff.mp hsame)

theorem Finds.findIdx_eq (h : t.Finds id before r after) :
    t.routes.findIdx (fun x => (Value.text x.id).same id) = before.length := by
  obtain ⟨hroutes, rfl, hfirst⟩ := h
  have hbefore : ∀ x ∈ before, (Value.text x.id).same (.text r.id) = false := by
    intro x hx
    rw [← Bool.not_eq_true, Value.same_text_iff]
    exact hfirst x hx
  rw [hroutes, List.findIdx_append, List.findIdx_eq_length_of_false hbefore,
    if_neg (Nat.lt_irrefl _), List.findIdx_cons, Value.same_text, beq_self_eq_true]
  exact Nat.zero_add _

theorem movableIndex_of_finds (h : t.Finds id before r after) (hr : r.isFallback = false) :
    t.movableIndex id = .ok before.length := by
  rw [movableIndex, h.route?_eq]
  show (if r.isFallback then _ else _) = _
  rw [if_neg (Bool.eq_false_iff.mp hr), h.findIdx_eq]
  rfl

theorem movableIndex_fails (h : (∀ r ∈ t.routes, id ≠ .text r.id) ∨
      ∃ before r after, t.Finds id before r after ∧ r.isFallback = true) :
    ∃ e, t.movableIndex id = .error e := by
  rw [movableIndex]
  rcases h with habsent | ⟨before, r, after, hfinds, hr⟩
  · have hnone : t.route? id = none :=
      List.find?_eq_none.mpr fun r hr hsame => habsent r hr (Value.same_text_iff.mp hsame)
    rw [hnone]
    show ∃ e, t.unknownRoute id = .error e
    rw [unknownRoute]
    cases id.literal with
    | error e => exact ⟨_, rfl⟩
    | ok s => exact ⟨_, rfl⟩
  · rw [hfinds.route?_eq]
    exact ⟨_, if_pos hr⟩

/-! ### One move -/

theorem moveUp_of_finds {a : Route} (h : t.Finds id (before ++ [a]) r after)
    (hr : r.isFallback = false) :
    t.moveUp id = .ok { t with routes := before ++ r :: a :: after } := by
  have hswap := swapAt_append before a r after
  rw [moveUp, movableIndex_of_finds h hr, List.length_append]
  show Except.ok { t with routes := swapAt before.length t.routes } = _
  rw [h.routes, List.append_assoc]
  exact congrArg (fun l => Except.ok { t with routes := l }) hswap

theorem moveUp_of_finds_first (h : t.Finds id [] r after) (hr : r.isFallback = false) :
    t.moveUp id = .ok t := by
  rw [moveUp, movableIndex_of_finds h hr]; rfl

theorem moveDown_of_finds (h : t.Finds id before r after) (hr : r.isFallback = false) :
    t.moveDown id = .ok (after.head?.elim t fun b =>
      if b.isFallback then t else { t with routes := before ++ b :: r :: after.tail }) := by
  have hnext : t.routes[before.length + 1]? = after.head? := by
    rw [h.routes, List.getElem?_append_right (Nat.le_add_right _ _), Nat.add_sub_cancel_left,
      List.getElem?_cons_succ, List.head?_eq_getElem?]
  rw [moveDown, movableIndex_of_finds h hr]
  dsimp only [bind, Except.bind]
  rw [hnext]
  cases after with
  | nil => rfl
  | cons b rest => rw [h.routes, swapAt_append]; rfl

theorem move_succeeds (h : t.Finds id before r after) (hr : r.isFallback = false) (m : Move) :
    ∃ u, t.move m id = .ok u := by
  cases m with
  | up =>
    rcases List.eq_nil_or_concat before with rfl | ⟨front, a, rfl⟩
    · exact ⟨t, moveUp_of_finds_first h hr⟩
    · rw [List.concat_eq_append] at h
      exact ⟨_, moveUp_of_finds h hr⟩
  | down => exact ⟨_, moveDown_of_finds h hr⟩

theorem move_fails (h : (∀ r ∈ t.routes, id ≠ .text r.id) ∨
      ∃ before r after, t.Finds id before r after ∧ r.isFallback = true) (m : Move) :
    ∃ e, t.move m id = .error e := by
  obtain ⟨e, he⟩ := movableIndex_fails h
  cases m with
  | up => exact ⟨e, by rw [move, moveUp, he]; rfl⟩
  | down => exact ⟨e, by rw [move, moveDown, he]; rfl⟩

/-! ### Moves in well-formed tables -/

/-- A table is another one with the routes that are no fallbacks in another order. -/
structure Reordering (t u : RouteTable) : Prop where
  formId : u.formId = t.formId
  fields : u.fields = t.fields
  last : u.routes.getLast? = t.routes.getLast?
  others : u.others.Perm t.others

theorem Reordering.refl (t : RouteTable) : Reordering t t := ⟨rfl, rfl, rfl, List.Perm.refl _⟩

theorem Reordering.trans (h : Reordering t u) (h' : Reordering u v) : Reordering t v :=
  ⟨h'.formId.trans h.formId, h'.fields.trans h.fields, h'.last.trans h.last,
    h'.others.trans h.others⟩

/-- Routes in another order make a well-formed table if the last one stays. -/
theorem WellFormed.of_perm (h : t.WellFormed) {routes : List Route} (hp : routes.Perm t.routes)
    (hlast : routes.getLast? = t.routes.getLast?) : WellFormed { t with routes := routes } := by
  refine ⟨(hp.map Route.id).nodup_iff.mpr h.distinct, fun r hr => h.foreign r (hp.mem_iff.mp hr),
    ?_, ?_⟩
  · rw [length_fallbacks, hp.countP_eq, ← length_fallbacks]; exact h.single
  · rw [endsInFallback, hlast]; exact h.last

theorem WellFormed.isFallback_eq_false (h : t.WellFormed) {a : Route}
    (hroutes : t.routes = before ++ a :: after) (hafter : after ≠ []) : a.isFallback = false := by
  obtain ⟨last, hothers, -⟩ := h.routes_eq
  obtain ⟨front, x, rfl⟩ := (List.eq_nil_or_concat after).resolve_left hafter
  have hsplit : t.others ++ [last] = (before ++ a :: front) ++ [x] := by
    rw [← hothers, hroutes]; simp
  refine isFallback_of_mem_others (t := t) ?_
  rw [(List.append_inj' hsplit rfl).1]
  simp

theorem WellFormed.id_ne (h : t.WellFormed) {a x : Route} (hroutes : t.routes = before ++ a :: after)
    (hx : x ∈ before) : x.id ≠ a.id := by
  have hdistinct := h.distinct
  rw [hroutes, List.map_append, List.map_cons] at hdistinct
  exact (List.nodup_append.mp hdistinct).2.2 x.id (List.mem_map_of_mem hx) a.id List.mem_cons_self

theorem WellFormed.swap (h : t.WellFormed) {a b : Route}
    (hroutes : t.routes = before ++ a :: b :: after) (hb : b.isFallback = false) :
    WellFormed { t with routes := before ++ b :: a :: after } ∧
      Reordering t { t with routes := before ++ b :: a :: after } := by
  have hafter : after ≠ [] := by
    rintro rfl
    have hend := h.last
    rw [endsInFallback, hroutes, show before ++ [a, b] = (before ++ [a]) ++ [b] by simp,
      List.getLast?_concat, Option.any_some, hb] at hend
    cases hend
  have hperm : (before ++ b :: a :: after).Perm t.routes := by
    rw [hroutes]; exact (List.Perm.swap a b after).append_left before
  have hlast : (before ++ b :: a :: after).getLast? = t.routes.getLast? := by
    obtain ⟨front, x, rfl⟩ := (List.eq_nil_or_concat after).resolve_left hafter
    rw [hroutes, List.concat_eq_append]
    simp only [← List.cons_append, ← List.append_assoc, List.getLast?_concat]
  exact ⟨h.of_perm hperm hlast, rfl, rfl, hlast, hperm.filter _⟩

theorem moveUp_cases (h : t.WellFormed) (hfinds : t.Finds id before r after)
    (hr : r.isFallback = false) (hmove : t.moveUp id = .ok u) :
    u = t ∨ (u.WellFormed ∧ Reordering t u ∧ u.moveDown id = .ok t) := by
  rcases List.eq_nil_or_concat before with rfl | ⟨front, a, rfl⟩
  · exact Or.inl (Except.ok.inj (hmove.symm.trans (moveUp_of_finds_first hfinds hr)))
  · rw [List.concat_eq_append] at hfinds
    cases Except.ok.inj (hmove.symm.trans (moveUp_of_finds hfinds hr))
    have hroutes : t.routes = front ++ a :: r :: after := by rw [hfinds.routes]; simp
    have ha : a.isFallback = false := h.isFallback_eq_false hroutes (by simp)
    obtain ⟨hw, hreorder⟩ := h.swap hroutes hr
    refine Or.inr ⟨hw, hreorder, ?_⟩
    have hback : Finds { t with routes := front ++ r :: a :: after } id front r (a :: after) :=
      ⟨rfl, hfinds.here, fun x hx => hfinds.first x (List.mem_append_left _ hx)⟩
    refine (moveDown_of_finds hback hr).trans ?_
    rw [List.head?_cons, Option.elim_some, if_neg (Bool.eq_false_iff.mp ha), List.tail_cons,
      ← hroutes]

theorem moveDown_cases (h : t.WellFormed) (hfinds : t.Finds id before r after)
    (hr : r.isFallback = false) (hmove : t.moveDown id = .ok u) :
    u = t ∨ (u.WellFormed ∧ Reordering t u ∧ u.moveUp id = .ok t) := by
  have hdown := Except.ok.inj (hmove.symm.trans (moveDown_of_finds hfinds hr))
  cases after with
  | nil => exact Or.inl hdown
  | cons b rest =>
    cases hb : b.isFallback with
    | true => exact Or.inl (hdown.trans (if_pos hb))
    | false =>
      cases hdown.trans (if_neg (Bool.eq_false_iff.mp hb))
      obtain ⟨hw, hreorder⟩ := h.swap hfinds.routes hb
      refine Or.inr ⟨hw, hreorder, ?_⟩
      have hsplit : t.routes = (before ++ [r]) ++ b :: rest := by rw [hfinds.routes]; simp
      have hne : r.id ≠ b.id := h.id_ne hsplit (by simp)
      -- the route that came in front has another id, so the moved one is still the first with its id
      have hback : Finds { t with routes := before ++ b :: r :: rest } id (before ++ [b]) r rest := by
        refine ⟨by simp, hfinds.here, fun x hx => ?_⟩
        rcases List.mem_append.mp hx with hx | hx
        · exact hfinds.first x hx
        · rw [List.mem_singleton.mp hx, hfinds.here]
          exact fun heq => hne (Value.text.inj heq)
      refine (moveUp_of_finds hback hr).trans ?_
      rw [← hfinds.routes]

/-- **A step**: a move leaves a well-formed table as it is, or it reorders the table and is undone
by the opposite move. -/
theorem move_cases (h : t.WellFormed) {m : Move} (hmove : t.move m id = .ok u) :
    u = t ∨ (u.WellFormed ∧ Reordering t u ∧ u.move m.opposite id = .ok t) := by
  have hno : ¬ ∃ e, t.move m id = .error e := by
    rintro ⟨e, he⟩
    rw [hmove] at he
    cases he
  rcases absent_or_finds t id with habsent | ⟨before, r, after, hfinds⟩
  · exact absurd (move_fails (Or.inl habsent) m) hno
  cases hr : r.isFallback with
  | true => exact absurd (move_fails (Or.inr ⟨before, r, after, hfinds, hr⟩) m) hno
  | false =>
    cases m with
    | up => exact moveUp_cases h hfinds hr hmove
    | down => exact moveDown_cases h hfinds hr hmove

/-- **A move fails if and only if no route has the id, or the fallback has it.** -/
theorem move_fails_iff (h : t.WellFormed) {m : Move} :
    (∃ e, t.move m id = .error e) ↔
      (∀ r ∈ t.routes, id ≠ .text r.id) ∨ ∃ r, t.routes.getLast? = some r ∧ id = .text r.id := by
  constructor
  · rintro ⟨e, he⟩
    rcases absent_or_finds t id with habsent | ⟨before, r, after, hfinds⟩
    · exact Or.inl habsent
    cases hr : r.isFallback with
    | false =>
      obtain ⟨u, hu⟩ := move_succeeds hfinds hr m
      rw [he] at hu
      cases hu
    | true =>
      refine Or.inr ⟨r, ?_, hfinds.here⟩
      have hafter : after = [] := by
        by_contra hne
        rw [h.isFallback_eq_false hfinds.routes hne] at hr
        cases hr
      rw [hfinds.routes, hafter, List.getLast?_concat]
  · rintro (habsent | ⟨last, hlast, rfl⟩)
    · exact move_fails (Or.inl habsent) m
    · rcases absent_or_finds t (.text last.id) with habsent | ⟨before, r, after, hfinds⟩
      · exact move_fails (Or.inl habsent) m
      · have hr : r ∈ t.routes := by rw [hfinds.routes]; simp
        have hsame : r = last := List.inj_on_of_nodup_map h.distinct hr
          (List.mem_of_getLast? hlast) (Value.text.inj hfinds.here).symm
        have hend := h.last
        rw [endsInFallback, hlast, Option.any_some, ← hsame] at hend
        exact move_fails (Or.inr ⟨before, r, after, hfinds, hend⟩) m

/-! ### Runs -/

theorem afterMoves_append (t : RouteTable) (steps steps' : List (Move × Value)) :
    t.afterMoves (steps ++ steps') = (t.afterMoves steps).afterMoves steps' := List.foldl_append

/-- **A run**: whatever is reached by moves is well formed and a reordering. -/
theorem reordering_of_moves (h : t.WellFormed) (steps : List (Move × Value)) :
    (t.afterMoves steps).WellFormed ∧ Reordering t (t.afterMoves steps) := by
  induction steps generalizing t with
  | nil => exact ⟨h, Reordering.refl t⟩
  | cons step steps ih =>
    show WellFormed ((t.afterMove step).afterMoves steps) ∧
      Reordering t ((t.afterMove step).afterMoves steps)
    have hstep : (t.afterMove step).WellFormed ∧ Reordering t (t.afterMove step) := by
      unfold afterMove
      cases hmove : t.move step.1 step.2 with
      | error e => exact ⟨h, Reordering.refl t⟩
      | ok u =>
        rcases move_cases h hmove with rfl | ⟨hu, hreorder, -⟩
        · exact ⟨h, Reordering.refl u⟩
        · exact ⟨hu, hreorder⟩
    obtain ⟨hw, hreorder⟩ := ih hstep.1
    exact ⟨hw, hstep.2.trans hreorder⟩

/-- **Every order is reached**: behind any routes that stay, since each permutation is made by
exchanging neighbours. -/
theorem exists_moves_of_perm {l l' : List Route} (hp : l.Perm l') (front : List Route)
    {last : Route} (h : t.WellFormed) (hroutes : t.routes = front ++ l ++ [last]) :
    ∃ steps, t.afterMoves steps = { t with routes := front ++ l' ++ [last] } := by
  induction hp generalizing front t with
  | nil => exact ⟨[], by rw [← hroutes]; rfl⟩
  | @cons x l l' _ ih =>
    obtain ⟨steps, hsteps⟩ := ih (front ++ [x]) h (by rw [hroutes]; simp)
    exact ⟨steps, by rw [hsteps]; simp⟩
  | swap x y l =>
    -- one move of `x`, which is the first route with its id as the ids are distinct
    have hsplit : t.routes = (front ++ [y]) ++ x :: (l ++ [last]) := by rw [hroutes]; simp
    have hfinds : t.Finds (.text x.id) (front ++ [y]) x (l ++ [last]) :=
      ⟨hsplit, rfl, fun z hz heq => h.id_ne hsplit hz (Value.text.inj heq).symm⟩
    have hmove := moveUp_of_finds hfinds (h.isFallback_eq_false hsplit (by simp))
    refine ⟨[(.up, .text x.id)], ?_⟩
    show t.afterMove (.up, .text x.id) = _
    unfold afterMove
    rw [show t.move .up (.text x.id) = _ from hmove]
    simp
  | @trans l₁ l₂ l₃ h₁ h₂ ih₁ ih₂ =>
    obtain ⟨steps, hsteps⟩ := ih₁ front h hroutes
    have hw : WellFormed { t with routes := front ++ l₂ ++ [last] } := by
      refine h.of_perm ?_ (by rw [hroutes, List.getLast?_concat, List.getLast?_concat])
      rw [hroutes]
      exact (h₁.symm.append_left front).append_right [last]
    obtain ⟨steps', hsteps'⟩ := ih₂ front hw rfl
    exact ⟨steps ++ steps', by rw [afterMoves_append, hsteps, hsteps']⟩

/-- **The tables that moves reach from a well-formed one** are well formed, and they are exactly its
reorderings; a move fails exactly for an id that is not there or the fallback's, and what it changes
is undone by the opposite move. -/
theorem moves_state_space (t : RouteTable) (h : t.check = .ok ()) :
    (∀ steps, let u := t.afterMoves steps
      u.check = .ok () ∧ Reordering t u ∧
      (∀ m id, (∃ e, u.move m id = .error e) ↔
        (∀ r ∈ u.routes, id ≠ .text r.id) ∨ ∃ r, u.routes.getLast? = some r ∧ id = .text r.id) ∧
      ∀ m id v, u.move m id = .ok v → v ≠ u → v.move m.opposite id = .ok u) ∧
    ∀ order last, order.Perm t.others → t.routes.getLast? = some last →
      ∃ steps, t.afterMoves steps = { t with routes := order ++ [last] } := by
  have hw := check_eq_ok_iff.mp h
  constructor
  · intro steps u
    obtain ⟨hu, hreorder⟩ := reordering_of_moves hw steps
    refine ⟨check_eq_ok_iff.mpr hu, hreorder, fun m id => move_fails_iff hu, ?_⟩
    intro m id v hmove hne
    exact ((move_cases hu hmove).resolve_left hne).2.2
  · intro order last hp hlast
    obtain ⟨last', hroutes, -⟩ := hw.routes_eq
    rw [hroutes, List.getLast?_concat] at hlast
    cases hlast
    obtain ⟨steps, hsteps⟩ := exists_moves_of_perm hp.symm [] hw hroutes
    exact ⟨steps, hsteps⟩

/-- Three routes before the fallback are brought into the opposite order. -/
theorem moves_reverse_three_routes :
    let rule (id : String) (isFallback : Bool) : Route :=
      .rule ⟨id, ⟨.customMessage, .null⟩, .group .or [], .missing, isFallback⟩
    let b : Route := .reference ⟨"b", .null, .null⟩
    let t : RouteTable := ⟨"f", [rule "a" false, b, rule "c" false, rule "z" true], none⟩
    t.check = .ok () ∧
      ∃ steps, t.afterMoves steps =
        { t with routes := [rule "c" false, b, rule "a" false, rule "z" true] } := by
  intro rule b t
  have hcheck : t.check = .ok () := by rfl
  have hperm : [rule "c" false, b, rule "a" false].Perm t.others :=
    List.reverse_perm [rule "a" false, b, rule "c" false]
  exact ⟨hcheck, (moves_state_space t hcheck).2 _ (rule "z" true) hperm rfl⟩

end RouteTable

end SubmissionRouting
