import SubmissionRouting.Json.KeyOrder
import Mathlib.Data.List.Chain
import Mathlib.Data.List.Nodup
import Mathlib.Data.String.Basic

/-! # Sorting by halving

Keys that are texts are told apart by an order without ties, and then it makes no difference in which
way they are sorted. `insertHalving` puts an item between those that are not greater and those that
are (`exists_insertHalving`), the run at the start is in order once it is turned
(`ordered_startingRun`), and so `sortedByHalving` leaves a list in order with the same items. There is
only one such list, which a merge sort finds as well (`sortedByHalving_eq_mergeSort`). -/

namespace SubmissionRouting.Json

variable {α : Type} {less : α → α → Bool} {name : α → String}

/-- The items are in the order of their names. -/
def OrderedBy (name : α → String) (l : List α) : Prop := l.Pairwise fun a b => name a ≤ name b

/-- The items of the list are compared by their names. -/
def ComparesBy (less : α → α → Bool) (name : α → String) (l : List α) : Prop :=
  ∀ a ∈ l, ∀ b ∈ l, (less a b = true ↔ name a < name b)

/-! ### Insertion -/

/-- A list in order around the item at a place. -/
theorem OrderedBy.around {l right : List α} {b : α} {n : ℕ} (hl : OrderedBy name l)
    (h : l.drop n = b :: right) :
    l = l.take n ++ b :: right ∧ OrderedBy name (l.take n) ∧ OrderedBy name (b :: right) ∧
      ∀ x ∈ l.take n, ∀ y ∈ b :: right, name x ≤ name y := by
  have hsplit : l = l.take n ++ b :: right := by rw [← h, List.take_append_drop]
  unfold OrderedBy at hl
  rw [hsplit] at hl
  exact ⟨hsplit, List.pairwise_append.mp hl⟩

theorem exists_insertHalving {a : α} {l : List α}
    (hless : ∀ b ∈ l, (less a b = true ↔ name a < name b)) (hl : OrderedBy name l) :
    ∃ before after, l = before ++ after ∧ insertHalving less a l = before ++ a :: after ∧
      (∀ b ∈ before, name b ≤ name a) ∧ ∀ b ∈ after, name a ≤ name b := by
  fun_induction insertHalving less a l with
  | case1 l h =>
    have hempty : l = [] := by
      have hlength := congrArg List.length h
      rw [List.length_drop, List.length_nil] at hlength
      exact List.length_eq_zero_iff.mp (by omega)
    rw [hempty]
    exact ⟨[], [], rfl, rfl, List.forall_mem_nil _, List.forall_mem_nil _⟩
  | case2 l b right h hlt ih =>
    obtain ⟨hsplit, hleft, hright, -⟩ := hl.around h
    have hb : b ∈ l := by rw [hsplit]; simp
    obtain ⟨before, after, hcut, hinsert, hbefore, hafter⟩ :=
      ih (fun x hx => hless x (List.mem_of_mem_take hx)) hleft
    refine ⟨before, after ++ b :: right, ?_, ?_, hbefore, ?_⟩
    · rw [← List.append_assoc, ← hcut]
      exact hsplit
    · rw [hinsert, List.append_assoc, List.cons_append]
    · intro x hx
      have hab : name a ≤ name b := le_of_lt ((hless b hb).mp hlt)
      rcases List.mem_append.mp hx with hx | hx
      · exact hafter x hx
      · rcases List.mem_cons.mp hx with rfl | hx
        · exact hab
        · exact le_trans hab ((List.pairwise_cons.mp hright).1 x hx)
  | case3 l b right h hge ih =>
    obtain ⟨hsplit, -, hright, hcross⟩ := hl.around h
    have hmem : ∀ x ∈ right, x ∈ l := by
      intro x hx
      rw [hsplit]
      simp [hx]
    have hb : b ∈ l := by rw [hsplit]; simp
    have hba : name b ≤ name a := not_lt.mp fun hlt => hge ((hless b hb).mpr hlt)
    obtain ⟨before, after, hcut, hinsert, hbefore, hafter⟩ :=
      ih (fun x hx => hless x (hmem x hx)) (List.pairwise_cons.mp hright).2
    refine ⟨l.take (l.length / 2) ++ b :: before, after, ?_, ?_, ?_, hafter⟩
    · rw [List.append_assoc, List.cons_append, ← hcut]
      exact hsplit
    · rw [hinsert, List.append_assoc, List.cons_append]
    · intro x hx
      rcases List.mem_append.mp hx with hx | hx
      · exact le_trans (hcross x hx b List.mem_cons_self) hba
      · rcases List.mem_cons.mp hx with rfl | hx
        · exact hba
        · exact hbefore x hx

theorem ordered_insertHalving {a : α} {l : List α}
    (hless : ∀ b ∈ l, (less a b = true ↔ name a < name b)) (hl : OrderedBy name l) :
    OrderedBy name (insertHalving less a l) ∧ (insertHalving less a l).Perm (a :: l) := by
  obtain ⟨before, after, hcut, hinsert, hbefore, hafter⟩ := exists_insertHalving hless hl
  unfold OrderedBy at hl ⊢
  rw [hcut, List.pairwise_append] at hl
  obtain ⟨hleft, hright, hcross⟩ := hl
  rw [hinsert, hcut]
  refine ⟨?_, List.perm_middle⟩
  refine List.pairwise_append.mpr ⟨hleft, List.pairwise_cons.mpr ⟨hafter, hright⟩, ?_⟩
  intro x hx y hy
  rcases List.mem_cons.mp hy with rfl | hy
  · exact hbefore x hx
  · exact hcross x hx y hy

theorem ordered_foldl_insertHalving {rest run : List α} (hless : ComparesBy less name (run ++ rest))
    (hrun : OrderedBy name run) :
    OrderedBy name (rest.foldl (fun sorted a => insertHalving less a sorted) run) ∧
      (rest.foldl (fun sorted a => insertHalving less a sorted) run).Perm (run ++ rest) := by
  induction rest generalizing run with
  | nil => exact ⟨hrun, by rw [List.append_nil]; exact List.Perm.refl run⟩
  | cons a rest ih =>
    have ha : ∀ b ∈ run, (less a b = true ↔ name a < name b) :=
      fun b hb => hless a (by simp) b (by simp [hb])
    obtain ⟨hordered, hperm⟩ := ordered_insertHalving ha hrun
    have hmoved : (insertHalving less a run ++ rest).Perm (run ++ a :: rest) :=
      (hperm.append_right rest).trans List.perm_middle.symm
    have hcompares : ComparesBy less name (insertHalving less a run ++ rest) :=
      fun x hx y hy => hless x (hmoved.mem_iff.mp hx) y (hmoved.mem_iff.mp hy)
    obtain ⟨hsorted, hall⟩ := ih hcompares hordered
    exact ⟨hsorted, hall.trans hmoved⟩

/-! ### The run at the start -/

theorem takeRun_append (goesOn : α → α → Bool) (last : α) (l : List α) :
    (takeRun goesOn last l).1 ++ (takeRun goesOn last l).2 = l := by
  induction l generalizing last with
  | nil => rfl
  | cons b l ih =>
    unfold takeRun
    split
    · exact congrArg (b :: ·) (ih b)
    · rfl

theorem isChain_takeRun {goesOn : α → α → Bool} {r : α → α → Prop} {last : α} {l : List α}
    (h : ∀ a ∈ last :: l, ∀ b ∈ last :: l, goesOn a b = true → r a b) :
    (last :: (takeRun goesOn last l).1).IsChain r := by
  induction l generalizing last with
  | nil => exact List.isChain_singleton last
  | cons b l ih =>
    unfold takeRun
    split
    · next hgoes =>
      have hrest : (b :: (takeRun goesOn b l).1).IsChain r :=
        ih fun x hx y hy => h x (List.mem_cons_of_mem last hx) y (List.mem_cons_of_mem last hy)
      exact List.isChain_cons_cons.mpr ⟨h last (by simp) b (by simp) hgoes, hrest⟩
    · exact List.isChain_singleton last

theorem ordered_startingRun {l : List α} (hless : ComparesBy less name l) :
    OrderedBy name (startingRun less l).1 ∧
      ((startingRun less l).1 ++ (startingRun less l).2).Perm l := by
  match l with
  | [] => exact ⟨List.Pairwise.nil, List.Perm.refl _⟩
  | [a] => exact ⟨List.pairwise_singleton _ a, List.Perm.refl _⟩
  | a :: b :: l =>
    by_cases hfalls : less b a = true
    · have happend := takeRun_append (fun x y => less y x) a (b :: l)
      have hchain : (a :: (takeRun (fun x y => less y x) a (b :: l)).1).IsChain
          fun x y => name y ≤ name x :=
        isChain_takeRun fun x hx y hy hgoes => le_of_lt ((hless y hy x hx).mp hgoes)
      have htrans : Trans (fun x y : α => name y ≤ name x) (fun x y => name y ≤ name x)
          (fun x y => name y ≤ name x) := ⟨fun hab hbc => le_trans hbc hab⟩
      have hpairs := List.isChain_iff_pairwise.mp hchain
      simp only [startingRun, hfalls, if_true]
      refine ⟨List.pairwise_reverse.mpr hpairs, ?_⟩
      refine ((List.reverse_perm _).append_right _).trans ?_
      rw [List.cons_append, happend]
    · have happend := takeRun_append (fun x y => !less y x) a (b :: l)
      have hchain : (a :: (takeRun (fun x y => !less y x) a (b :: l)).1).IsChain
          fun x y => name x ≤ name y := by
        refine isChain_takeRun fun x hx y hy hgoes => not_lt.mp fun hlt => ?_
        rw [(hless y hy x hx).mpr hlt] at hgoes
        cases hgoes
      have htrans : Trans (fun x y : α => name x ≤ name y) (fun x y => name x ≤ name y)
          (fun x y => name x ≤ name y) := ⟨le_trans⟩
      have hpairs := List.isChain_iff_pairwise.mp hchain
      simp only [startingRun, hfalls, if_false, Bool.false_eq_true]
      refine ⟨hpairs, ?_⟩
      rw [List.cons_append, happend]

/-! ### The sort -/

/-- **Sorting by halving** leaves the same items in order. -/
theorem ordered_sortedByHalving {l : List α} (hless : ComparesBy less name l) :
    OrderedBy name (sortedByHalving less l) ∧ (sortedByHalving less l).Perm l := by
  obtain ⟨hrun, hperm⟩ := ordered_startingRun hless
  have hcompares : ComparesBy less name ((startingRun less l).1 ++ (startingRun less l).2) :=
    fun a ha b hb => hless a (hperm.mem_iff.mp ha) b (hperm.mem_iff.mp hb)
  obtain ⟨hsorted, hall⟩ := ordered_foldl_insertHalving hcompares hrun
  exact ⟨hsorted, hall.trans hperm⟩

/-- Items are in the order of their names or have the same. -/
def nameLe (name : α → String) (a b : α) : Bool := decide (name a ≤ name b)

theorem ordered_mergeSort (name : α → String) (l : List α) :
    OrderedBy name (l.mergeSort (nameLe name)) := by
  have htrans : ∀ a b c : α, nameLe name a b = true → nameLe name b c = true →
      nameLe name a c = true := by
    intro a b c hab hbc
    exact decide_eq_true (le_trans (of_decide_eq_true hab) (of_decide_eq_true hbc))
  have htotal : ∀ a b : α, (nameLe name a b || nameLe name b a) = true := by
    intro a b
    rw [Bool.or_eq_true]
    rcases le_total (name a) (name b) with h | h
    · exact Or.inl (decide_eq_true h)
    · exact Or.inr (decide_eq_true h)
  exact (List.pairwise_mergeSort htrans htotal l).imp of_decide_eq_true

/-- **Different names can be in one order only**, however they are sorted. -/
theorem sortedByHalving_eq_mergeSort {l : List α} (hless : ComparesBy less name l)
    (hnames : (l.map name).Nodup) : sortedByHalving less l = l.mergeSort (nameLe name) := by
  obtain ⟨hsorted, hperm⟩ := ordered_sortedByHalving hless
  have hmerge := List.mergeSort_perm l (nameLe name)
  refine List.Perm.eq_of_pairwise ?_ hsorted (ordered_mergeSort name l) (hperm.trans hmerge.symm)
  intro a b ha hb hab hba
  exact List.inj_on_of_nodup_map hnames (hperm.mem_iff.mp ha) (hmerge.mem_iff.mp hb)
    (le_antisymm hab hba)

end SubmissionRouting.Json
