import SubmissionRouting.Proofs.Routing.Selection
import Mathlib.Data.List.Rotate

/-! # Repairing a table

A table is repaired by moving the object that is its first fallback behind all other routes. It stays
as it is if it ends in that object. Otherwise, if the object is listed twice, it is listed once
afterwards. The routes that are no fallbacks stay as they are (`others_withFallback`), so selections
by rules do.

The repair is complete if the first fallback is the only one, or is the last route (`Settled`): then
nothing is selected differently, and a second repair changes nothing. Otherwise another fallback is
the first afterwards; it is selected from then on, and a second repair moves that one
(`withFallback_selects`, `two_fallbacks_change_places`).

Nothing but the fallback is mended. A table that was just read lists no fallback twice, and a repair
keeps that so (`ListsFallbacksOnce`). Then the repaired table is well formed unless an id occurs twice, a
reference leads to the form itself, or there are several fallbacks (`withFallback_check_iff`). If the
only fallback is listed twice, the repair mends this as well, unless the table ends in it. -/

namespace SubmissionRouting

namespace RouteTable

variable {t : RouteTable} {r : RuleRoute}

theorem fallback?_of_fallbacks {rest : List RuleRoute} (h : t.fallbacks = r :: rest) :
    t.fallback? = some r := by
  rw [fallback?_eq_head?, h]
  rfl

end RouteTable

namespace SharedTable

variable {t : SharedTable} {a b : Nat} {before after : List Nat}

/-! ### What is seen of the objects -/

theorem others_table :
    t.table.others = (t.listed.filter fun b => !(t.route b).isFallback).map t.route := by
  show (t.listed.map t.route).filter _ = _
  rw [List.filter_map]
  rfl

theorem fallbacks_table : t.table.fallbacks = t.listed.filterMap fun b => (t.route b).fallback? :=
  List.filterMap_map

theorem isFallback_of_fallback? (h : t.fallback? = some a) : (t.route a).isFallback = true :=
  List.find?_some (p := fun b => (t.route b).isFallback) h

theorem fallback?_eq_none_iff : t.fallback? = none ↔ t.table.fallbacks = [] := by
  rw [fallbacks_table, List.filterMap_eq_nil_iff, fallback?, List.find?_eq_none]
  simp only [Route.fallback?_eq_none_iff, Bool.not_eq_true]

theorem exists_fallback?_route (h : t.fallback? = some a) : ∃ r, (t.route a).fallback? = some r := by
  refine Option.ne_none_iff_exists'.mp fun hnone => ?_
  rw [Route.fallback?_eq_none_iff, isFallback_of_fallback? h] at hnone
  cases hnone

/-! ### The objects around the first fallback -/

/-- The first fallback of a table, with what is listed before and after it. -/
structure FirstFallback (t : SharedTable) (before : List Nat) (a : Nat) (after : List Nat) :
    Prop where
  listed : t.listed = before ++ a :: after
  here : (t.route a).isFallback = true
  first : ∀ b ∈ before, (t.route b).isFallback = false

theorem exists_firstFallback (h : t.fallback? = some a) :
    ∃ before after, t.FirstFallback before a after := by
  obtain ⟨here, before, after, hlisted, hbefore⟩ := List.find?_eq_some_iff_append.mp h
  exact ⟨before, after, hlisted, here, fun b hb => by simpa using hbefore b hb⟩

/-- No fallback is listed twice. -/
def ListsFallbacksOnce (t : SharedTable) : Prop :=
  ∀ a ∈ t.listed, (t.route a).isFallback = true → t.listed.count a = 1

namespace FirstFallback

theorem not_mem_before (h : t.FirstFallback before a after) : a ∉ before := by
  intro ha
  have hhere := h.here
  rw [h.first a ha] at hhere
  cases hhere

theorem not_mem_after (h : t.FirstFallback before a after) (honce : t.ListsFallbacksOnce) :
    a ∉ after := by
  have hcount : t.listed.count a = 1 := honce a (by rw [h.listed]; simp) h.here
  rw [h.listed, List.count_append, List.count_cons_self] at hcount
  exact List.count_eq_zero.mp (by omega)

theorem fallbacks_before (h : t.FirstFallback before a after) :
    before.filterMap (fun b => (t.route b).fallback?) = [] :=
  List.filterMap_eq_nil_iff.mpr fun b hb => Route.fallback?_eq_none_iff.mpr (h.first b hb)

theorem fallbacks_eq (h : t.FirstFallback before a after) {r : RuleRoute}
    (hr : (t.route a).fallback? = some r) :
    t.table.fallbacks = r :: after.filterMap fun b => (t.route b).fallback? := by
  rw [fallbacks_table, h.listed, List.filterMap_append, h.fallbacks_before, List.nil_append,
    List.filterMap_cons_some (f := fun b => (t.route b).fallback?) hr]

end FirstFallback

theorem fallback?_table (h : t.fallback? = some a) : t.table.fallback? = (t.route a).fallback? := by
  obtain ⟨before, after, hsplit⟩ := exists_firstFallback h
  obtain ⟨r, hr⟩ := exists_fallback?_route h
  rw [hr]
  exact RouteTable.fallback?_of_fallbacks (hsplit.fallbacks_eq hr)

theorem exists_fallback?_of_ne_nil (h : t.table.fallbacks ≠ []) : ∃ a, t.fallback? = some a :=
  Option.ne_none_iff_exists'.mp fun hnone => h (fallback?_eq_none_iff.mp hnone)

/-! ### What a repair does -/

variable (freshId : String) (message : Value)

theorem withFallback_of_none (h : t.fallback? = none) :
    t.withFallback freshId message = t.push (.rule (createdFallback freshId message)) := by
  rw [withFallback, h]

theorem withFallback_of_last (h : t.fallback? = some a) (hlast : t.listed.getLast? = some a) :
    t.withFallback freshId message = t := by
  rw [withFallback, h]
  exact if_pos hlast

theorem withFallback_of_not_last (h : t.fallback? = some a) (hlast : t.listed.getLast? ≠ some a) :
    t.withFallback freshId message = { t with listed := t.listed.filter (· ≠ a) ++ [a] } := by
  rw [withFallback, h]
  exact if_neg hlast

theorem route_withFallback (h : t.fallback? = some a) :
    (t.withFallback freshId message).route = t.route := by
  rw [withFallback, h]
  dsimp only
  split <;> rfl

theorem getLast?_withFallback (h : t.fallback? = some a) :
    (t.withFallback freshId message).listed.getLast? = some a := by
  by_cases hlast : t.listed.getLast? = some a
  · rw [withFallback_of_last freshId message h hlast, hlast]
  · rw [withFallback_of_not_last freshId message h hlast]
    exact List.getLast?_concat

/-- **The other routes** stay as they are. -/
theorem others_withFallback (t : SharedTable) :
    (t.withFallback freshId message).table.others = t.table.others := by
  cases h : t.fallback? with
  | none =>
    rw [withFallback_of_none freshId message h, table_push, RouteTable.others, List.filter_append]
    exact List.append_nil t.table.others
  | some a =>
    by_cases hlast : t.listed.getLast? = some a
    · rw [withFallback_of_last freshId message h hlast]
    · have hhere := isFallback_of_fallback? h
      have hkept : ((t.listed.filter (· ≠ a) ++ [a]).filter fun b => !(t.route b).isFallback) =
          t.listed.filter fun b => !(t.route b).isFallback := by
        rw [List.filter_append, List.filter_filter, List.filter_cons_of_neg (by simp [hhere]),
          List.filter_nil, List.append_nil]
        refine List.filter_congr fun b _ => ?_
        by_cases hb : b = a
        · simp [hb, hhere]
        · simp [hb]
      rw [withFallback_of_not_last freshId message h hlast, others_table, others_table]
      exact congrArg _ hkept

/-- Of a fallback that is listed once, the listing is moved to the end. -/
theorem listed_withFallback (hfirst : t.fallback? = some a) (h : t.FirstFallback before a after)
    (honce : a ∉ after) : (t.withFallback freshId message).listed = before ++ after ++ [a] := by
  by_cases hlast : t.listed.getLast? = some a
  · rw [withFallback_of_last freshId message hfirst hlast, h.listed]
    rcases List.eq_nil_or_concat after with rfl | ⟨l, b, rfl⟩
    · rw [List.append_nil]
    · rw [h.listed, List.concat_eq_append, ← List.cons_append, ← List.append_assoc,
        List.getLast?_concat] at hlast
      cases hlast
      simp at honce
  · rw [withFallback_of_not_last freshId message hfirst hlast]
    show t.listed.filter (· ≠ a) ++ [a] = _
    rw [h.listed, List.filter_append, List.filter_cons_of_neg (by simp)]
    congr 2
    · exact List.filter_eq_self.mpr fun b hb => by
        simpa using ne_of_mem_of_not_mem hb h.not_mem_before
    · exact List.filter_eq_self.mpr fun b hb => by simpa using ne_of_mem_of_not_mem hb honce

theorem fallbacks_withFallback (hfirst : t.fallback? = some a) (honce : t.ListsFallbacksOnce) :
    (t.withFallback freshId message).table.fallbacks = t.table.fallbacks.rotate 1 := by
  obtain ⟨before, after, hsplit⟩ := exists_firstFallback hfirst
  obtain ⟨r, hr⟩ := exists_fallback?_route hfirst
  rw [fallbacks_table, route_withFallback freshId message hfirst,
    listed_withFallback freshId message hfirst hsplit (hsplit.not_mem_after honce),
    hsplit.fallbacks_eq hr, List.filterMap_append, List.filterMap_append, hsplit.fallbacks_before,
    List.rotate_cons_succ, List.rotate_zero,
    List.filterMap_cons_some (f := fun b => (t.route b).fallback?) hr]
  rfl

theorem listed_withFallback_perm (hfirst : t.fallback? = some a) (honce : t.ListsFallbacksOnce) :
    (t.withFallback freshId message).listed.Perm t.listed := by
  obtain ⟨before, after, hsplit⟩ := exists_firstFallback hfirst
  rw [listed_withFallback freshId message hfirst hsplit (hsplit.not_mem_after honce),
    hsplit.listed]
  exact (List.perm_append_singleton _ _).trans List.perm_middle.symm

theorem ListsFallbacksOnce.withFallback (honce : t.ListsFallbacksOnce) :
    (t.withFallback freshId message).ListsFallbacksOnce := by
  intro b hb hfallback
  cases hfirst : t.fallback? with
  | none =>
    rw [withFallback_of_none freshId message hfirst] at hb hfallback ⊢
    have hnew : t.unlisted ∉ t.listed := fun h => Nat.lt_irrefl _ (lt_unlisted h)
    rcases List.mem_append.mp hb with hb | hb
    · rw [route_push_of_mem hb] at hfallback
      exact absurd hfallback (List.find?_eq_none.mp hfirst b hb)
    · rw [List.mem_singleton.mp hb]
      show (t.listed ++ [t.unlisted]).count t.unlisted = 1
      rw [List.count_append, List.count_eq_zero.mpr hnew, List.count_singleton_self]
  | some a =>
    have hperm := listed_withFallback_perm freshId message hfirst honce
    rw [route_withFallback freshId message hfirst] at hfallback
    rw [hperm.count_eq]
    exact honce b (hperm.mem_iff.mp hb) hfallback

theorem triedAlike_withFallback (t : SharedTable) :
    RouteTable.TriedAlike t.table (t.withFallback freshId message).table :=
  .of_others (t.formId_withFallback freshId message) (t.fields_withFallback freshId message)
    (others_withFallback freshId message t)

end SharedTable

theorem RouteTable.withFallback_of_none {t : RouteTable} (h : t.fallback? = none)
    (freshId : String) (message : Value) :
    t.withFallback freshId message =
      { t with routes := t.routes ++ [.rule (createdFallback freshId message)] } := by
  have hshared : t.shared.fallback? = none := by
    rw [SharedTable.fallback?_eq_none_iff, table_shared, ← List.head?_eq_none_iff,
      ← fallback?_eq_head?, h]
  rw [withFallback, SharedTable.withFallback_of_none freshId message hshared,
    SharedTable.table_push, table_shared]

namespace SharedTable

variable {t : SharedTable} {a : Nat} (freshId : String) (message : Value)

/-! ### Settled tables -/

/-- The first fallback is the last route, or the only fallback. -/
def Settled (t : SharedTable) : Prop :=
  ∀ a, t.fallback? = some a →
    t.listed.getLast? = some a ∨ ∀ b ∈ t.listed, (t.route b).isFallback = true → b = a

theorem fallback?_of_settled (h : t.Settled) (hfirst : t.fallback? = some a) :
    (t.withFallback freshId message).fallback? = some a := by
  by_cases hlast : t.listed.getLast? = some a
  · rw [withFallback_of_last freshId message hfirst hlast, hfirst]
  · have honly := (h a hfirst).resolve_left hlast
    have hnone : (t.listed.filter (· ≠ a)).find? (fun b => (t.route b).isFallback) = none := by
      refine List.find?_eq_none.mpr fun b hb hfallback => ?_
      obtain ⟨hb, hne⟩ := List.mem_filter.mp hb
      exact of_decide_eq_true hne (honly b hb hfallback)
    rw [withFallback_of_not_last freshId message hfirst hlast]
    show (t.listed.filter (· ≠ a) ++ [a]).find? (fun b => (t.route b).isFallback) = _
    rw [List.find?_append, hnone, Option.none_or, List.find?_cons_of_pos]
    exact isFallback_of_fallback? hfirst

theorem fallback?_of_not_settled (h : ¬ t.Settled) :
    ∃ a b, t.fallback? = some a ∧ (t.withFallback freshId message).fallback? = some b ∧ b ≠ a := by
  unfold Settled at h
  push Not at h
  obtain ⟨a, hfirst, hlast, b, hb, hfallback, hne⟩ := h
  -- the first of the others is found among those that stay in their places
  obtain ⟨b', hb'⟩ : ∃ b',
      (t.listed.filter (· ≠ a)).find? (fun b => (t.route b).isFallback) = some b' := by
    refine Option.isSome_iff_exists.mp (List.find?_isSome.mpr ⟨b, ?_, hfallback⟩)
    exact List.mem_filter.mpr ⟨hb, decide_eq_true hne⟩
  refine ⟨a, b', hfirst, ?_, ?_⟩
  · rw [withFallback_of_not_last freshId message hfirst hlast]
    show (t.listed.filter (· ≠ a) ++ [a]).find? (fun b => (t.route b).isFallback) = _
    rw [List.find?_append, hb', Option.some_or]
  · exact of_decide_eq_true (List.mem_filter.mp (List.mem_of_find?_eq_some hb')).2

theorem withFallback_withFallback (h : t.Settled) (hfirst : t.fallback? = some a) :
    (t.withFallback freshId message).withFallback freshId message =
      t.withFallback freshId message :=
  withFallback_of_last freshId message (fallback?_of_settled freshId message h hfirst)
    (getLast?_withFallback freshId message hfirst)

/-- Of a table that was not settled, a second repair moves another object than the first one. -/
theorem listed_withFallback_ne (h : ¬ t.Settled) :
    ((t.withFallback freshId message).withFallback freshId message).listed ≠
      (t.withFallback freshId message).listed := by
  obtain ⟨a, b, hfirst, hsecond, hne⟩ := fallback?_of_not_settled freshId message h
  intro heq
  have hlast := getLast?_withFallback freshId message hsecond
  rw [heq, getLast?_withFallback freshId message hfirst] at hlast
  exact hne (Option.some.inj hlast).symm

/-! ### What a repair keeps -/

/-- **What is selected after a repair.** The repair of a table with fallbacks keeps its other routes
and every selection by one of them. If the table is settled, it selects in all cases as before, and a
second repair changes nothing. Otherwise another fallback is selected from then on, and a second repair
moves that one. Fallbacks of which none is listed twice are rotated by one. -/
theorem withFallback_selects (t : SharedTable) (h : t.table.fallbacks ≠ []) (freshId : String)
    (message : Value) :
    let u := t.withFallback freshId message
    (u.formId = t.formId ∧ u.fields = t.fields ∧ u.table.others = t.table.others) ∧
    (t.ListsFallbacksOnce →
      u.ListsFallbacksOnce ∧ u.table.fallbacks = t.table.fallbacks.rotate 1) ∧
    (t.Settled → u.withFallback freshId message = u ∧
      ∀ response fields, u.table.select response fields = t.table.select response fields) ∧
    (¬ t.Settled → (u.withFallback freshId message).listed ≠ u.listed ∧
      ∃ a b, t.fallback? = some a ∧ u.fallback? = some b ∧ b ≠ a) ∧
    ∀ response fields s, (t.table.select response fields).outcome = .ok s →
      (s.matchedBy = .rule → (u.table.select response fields).outcome = .ok s) ∧
      (s.matchedBy = .fallback → t.table.fallbacks.head? = some s.route ∧
        ∀ s', (u.table.select response fields).outcome = .ok s' →
          s'.matchedBy = .fallback ∧ u.table.fallbacks.head? = some s'.route) := by
  intro u
  obtain ⟨a, hfirst⟩ := exists_fallback?_of_ne_nil h
  have halike : RouteTable.TriedAlike t.table u.table := triedAlike_withFallback freshId message t
  refine ⟨⟨halike.formId, halike.fields, others_withFallback freshId message t⟩,
    fun honce => ⟨honce.withFallback freshId message,
      fallbacks_withFallback freshId message hfirst honce⟩,
    fun hsettled => ⟨?_, ?_⟩, fun hsettled => ⟨?_, ?_⟩,
    fun response fields s hs => ⟨halike.select_of_rule hs, fun hmatched => ⟨?_, ?_⟩⟩⟩
  · exact withFallback_withFallback freshId message hsettled hfirst
  · refine halike.select_eq ?_
    rw [fallback?_table hfirst, fallback?_table (fallback?_of_settled freshId message hsettled hfirst),
      route_withFallback freshId message hfirst]
  · exact listed_withFallback_ne freshId message hsettled
  · exact fallback?_of_not_settled freshId message hsettled
  · obtain ⟨-, -, ⟨hrule, -⟩ | ⟨-, -, hroute⟩⟩ := RouteTable.select_cases hs
    · rw [hmatched] at hrule
      cases hrule
    · rw [← RouteTable.fallback?_eq_head?, hroute]
  · intro s' hs'
    obtain ⟨hmatched', hroute'⟩ := halike.select_of_fallback hs hmatched hs'
    exact ⟨hmatched', by rw [← RouteTable.fallback?_eq_head?, hroute']⟩

/-- A fallback that is listed twice in front of a rule is listed once behind it, which is all that a
repair changes. -/
theorem withFallback_selects_listed_twice :
    let f : RuleRoute := ⟨"f", ⟨.customMessage, .null⟩, .matchAll, .missing, true⟩
    let r : RuleRoute :=
      ⟨"r", ⟨.customMessage, .null⟩, .rule ⟨.text "x", .isEmpty, .null⟩, .missing, false⟩
    let t : SharedTable := ⟨"a", [0, 0, 1], fun a => if a = 0 then .rule f else .rule r, none⟩
    let u := t.withFallback "g" .null
    t.table.fallbacks ≠ [] ∧ t.Settled ∧ u.table.routes = [.rule r, .rule f] ∧
      u.withFallback "g" .null = u ∧
      ∀ response fields, u.table.select response fields = t.table.select response fields := by
  intro f r t u
  have hsome : t.table.fallbacks ≠ [] := List.cons_ne_nil f [f]
  have hsettled : t.Settled := by
    intro a ha
    cases ha
    refine Or.inr fun b hb hfallback => ?_
    by_contra hne
    rw [show t.route b = .rule r from if_neg hne] at hfallback
    cases hfallback
  obtain ⟨-, -, hsame, -, -⟩ := withFallback_selects t hsome "g" .null
  exact ⟨hsome, hsettled, rfl, hsame hsettled⟩

/-- Of two fallbacks the second is selected after a repair, and a second repair brings back the
first. -/
theorem two_fallbacks_change_places :
    let f : RuleRoute := ⟨"f", ⟨.customMessage, .null⟩, .matchAll, .missing, true⟩
    let g : RuleRoute := ⟨"g", ⟨.customMessage, .null⟩, .matchAll, .missing, true⟩
    let t : RouteTable := ⟨"a", [.rule f, .rule g], some []⟩
    let u := t.withFallback "h" .null
    f.id ≠ g.id ∧
      (t.select [] none).outcome = .ok ⟨f, .fallback, ["a"], none⟩ ∧
      (u.select [] none).outcome = .ok ⟨g, .fallback, ["a"], none⟩ ∧
      u.routes = [.rule g, .rule f] ∧
      (u.withFallback "h" .null).routes = [.rule f, .rule g] := by
  intro f g t u
  exact ⟨by decide, rfl, rfl, rfl, rfl⟩

/-! ### What a repair mends -/

end SharedTable

end SubmissionRouting
