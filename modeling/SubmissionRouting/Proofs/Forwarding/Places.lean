import SubmissionRouting.Forwarding
import SubmissionRouting.Proofs.FirstFault
import SubmissionRouting.Proofs.Number.Numerals
import Mathlib.Data.List.Perm.Basic
import Mathlib.Data.String.Basic

/-! # Sorting texts by their places

A text that denotes a whole number has its place by the number, any other text by itself. The sort
keeps texts of one number in the order they came in (`filter_sortedByPlace`), so their order can show
in a line of sorted texts. It does show: the texts of numbers are found again in the line, as they have
no comma in them (`eq_of_line_eq`), and two different texts of one number at the front change the line
when they change places (`eq_of_placedLine_swap`). Otherwise the order is of no account
(`placedLine_perm`).

A whole number is read back from its own text (`wholeNumber?_wholeText`). -/

namespace SubmissionRouting

/-! ### Whole numbers -/

/-- Whether a text starts with the sign of negative numbers, and what follows it. -/
def unsigned : List Char → Bool × List Char
  | '-' :: digits => (true, digits)
  | digits => (false, digits)

theorem wholeNumber?_eq (cs : List Char) :
    wholeNumber? cs =
      if !Text.isDecimal (unsigned cs).2 then .ok none
      else if (unsigned cs).2.length > Text.digitLimit then .error .tooManyDigits
      else
        let n : Int := Text.decimalValue (unsigned cs).2
        .ok (some (if (unsigned cs).1 then -n else n)) := rfl

theorem unsigned_cases (cs : List Char) :
    (∃ digits, cs = '-' :: digits ∧ unsigned cs = (true, digits)) ∨ unsigned cs = (false, cs) := by
  unfold unsigned
  split
  · exact .inl ⟨_, rfl, rfl⟩
  · exact .inr rfl

theorem wholeNumber?_of_unsigned {cs digits : List Char} {negative : Bool}
    (hsigned : unsigned cs = (negative, digits)) (hdecimal : Text.isDecimal digits = true)
    (hlength : digits.length ≤ Text.digitLimit) :
    wholeNumber? cs = .ok (some (if negative then -(Text.decimalValue digits : Int)
      else Text.decimalValue digits)) := by
  rw [wholeNumber?_eq, hsigned, if_neg (by rw [hdecimal]; decide), if_neg (Nat.not_lt.mpr hlength)]

theorem isDecimal_of_wholeNumber? {cs : List Char} {n : Int} (h : wholeNumber? cs = .ok (some n)) :
    Text.isDecimal cs = true ∨ ∃ digits, cs = '-' :: digits ∧ Text.isDecimal digits = true := by
  have hdecimal : Text.isDecimal (unsigned cs).2 = true := by
    by_contra hnot
    rw [wholeNumber?_eq, if_pos (by simpa using hnot)] at h
    cases h
  rcases unsigned_cases cs with ⟨digits, hcs, hsigned⟩ | hsigned
  · rw [hsigned] at hdecimal
    exact .inr ⟨digits, hcs, hdecimal⟩
  · rw [hsigned] at hdecimal
    exact .inl hdecimal

theorem wholeNumber?_wholeText {n : Int} {s : String} (h : wholeText n = .ok s) :
    wholeNumber? s.toList = .ok (some n) := by
  unfold wholeText at h
  split_ifs at h with hlength
  cases h
  have hdecimal := isDecimal_toDigits n.natAbs
  rw [decimalText, String.toList_ofList]
  by_cases hn : n < 0
  · have hsigned : unsigned ('-' :: Nat.toDigits 10 n.natAbs) =
        (true, Nat.toDigits 10 n.natAbs) := rfl
    have hvalue : -(n.natAbs : Int) = n := by omega
    rw [if_pos hn, wholeNumber?_of_unsigned hsigned hdecimal hlength, decimalValue_toDigits]
    exact congrArg (fun k => Except.ok (some k)) hvalue
  · have hsigned : unsigned (Nat.toDigits 10 n.natAbs) = (false, Nat.toDigits 10 n.natAbs) := by
      rcases unsigned_cases (Nat.toDigits 10 n.natAbs) with ⟨digits, hcs, -⟩ | hsigned
      · have hdash : '-' ∈ Nat.toDigits 10 n.natAbs := hcs ▸ List.mem_cons_self
        exact absurd (isDigit_of_mem_toDigits hdash) (by decide)
      · exact hsigned
    have hvalue : (n.natAbs : Int) = n := by omega
    rw [if_neg hn, wholeNumber?_of_unsigned hsigned hdecimal hlength, decimalValue_toDigits]
    exact congrArg (fun k => Except.ok (some k)) hvalue

/-! ### Places -/

namespace HostPlace

theorem atMost_trans : ∀ {p q r : HostPlace},
    p.atMost q = true → q.atMost r = true → p.atMost r = true
  | number _, number _, number _, hpq, hqr =>
    decide_eq_true (le_trans (of_decide_eq_true hpq) (of_decide_eq_true hqr))
  | number _, _, name _, _, _ => rfl
  | name _, name _, name _, hpq, hqr =>
    decide_eq_true (le_trans (of_decide_eq_true hpq) (of_decide_eq_true hqr))

theorem atMost_total : ∀ p q : HostPlace, (p.atMost q || q.atMost p) = true
  | number m, number n => by simpa [atMost] using le_total m n
  | number _, name _ => rfl
  | name _, number _ => rfl
  | name s, name t => by simpa [atMost] using le_total s t

theorem atMost_antisymm : ∀ {p q : HostPlace}, p.atMost q = true → q.atMost p = true → p = q
  | number _, number _, hpq, hqp =>
    congrArg number (le_antisymm (of_decide_eq_true hpq) (of_decide_eq_true hqp))
  | name _, name _, hpq, hqp =>
    congrArg name (le_antisymm (of_decide_eq_true hpq) (of_decide_eq_true hqp))

/-- The place of some number. -/
def isNumeric : HostPlace → Bool
  | number _ => true
  | name _ => false

/-- The place of a number. -/
def isNumber (n : Int) : HostPlace → Bool
  | number m => m == n
  | name _ => false

theorem isNumber_iff {n : Int} : ∀ {p : HostPlace}, p.isNumber n = true ↔ p = number n
  | number m => by rw [isNumber, beq_iff_eq, number.injEq]
  | name s => by simp [isNumber]

end HostPlace

/-- The place of a host with a text. -/
def textPlace (s : String) : Except Misuse HostPlace := do
  match ← wholeNumber? s.toList with
  | some n => pure (.number n)
  | none => pure (.name s)

theorem textPlace_eq_number_iff {s : String} {n : Int} :
    textPlace s = .ok (.number n) ↔ wholeNumber? s.toList = .ok (some n) := by
  rw [textPlace]
  cases wholeNumber? s.toList with
  | error e => exact ⟨nofun, nofun⟩
  | ok n? =>
    cases n? with
    | none => exact ⟨nofun, nofun⟩
    | some m =>
      refine ⟨fun h => ?_, fun h => ?_⟩
      all_goals cases h
      all_goals rfl

theorem eq_of_textPlace_eq_name {s t : String} (h : textPlace s = .ok (.name t)) : s = t := by
  obtain ⟨n?, -, h⟩ := exists_of_bind_eq_ok h
  cases n? with
  | none => cases h; rfl
  | some n => cases h

/-! ### Sorted texts -/

section Sorted

variable {ps qs : List (HostPlace × String)}

/-- Texts in the order of their places. -/
def sortedByPlace (ps : List (HostPlace × String)) : List (HostPlace × String) :=
  ps.mergeSort fun p q => p.1.atMost q.1

/-- The line of texts. -/
def placedLine (ps : List (HostPlace × String)) : String :=
  ",".intercalate ((sortedByPlace ps).map (·.2))

theorem sortedByPlace_perm (ps : List (HostPlace × String)) : (sortedByPlace ps).Perm ps :=
  List.mergeSort_perm ps _

theorem ordered_sortedByPlace (ps : List (HostPlace × String)) :
    (sortedByPlace ps).Pairwise fun p q => p.1.atMost q.1 = true :=
  List.pairwise_mergeSort (fun p q r => HostPlace.atMost_trans (p := p.1) (q := q.1) (r := r.1))
    (fun p q => HostPlace.atMost_total p.1 q.1) ps

theorem placedLine_perm (hone : ∀ p ∈ ps, ∀ q ∈ ps, p.1 = q.1 → p.2 = q.2) (hperm : qs.Perm ps) :
    placedLine qs = placedLine ps := by
  have hsorted := ((sortedByPlace_perm qs).trans hperm).trans (sortedByPlace_perm ps).symm
  have hsame : sortedByPlace qs = sortedByPlace ps := by
    refine List.Perm.eq_of_pairwise ?_ (ordered_sortedByPlace qs) (ordered_sortedByPlace ps) hsorted
    intro p q hp hq hpq hqp
    have hplace := HostPlace.atMost_antisymm hpq hqp
    exact Prod.ext hplace (hone p (hperm.mem_iff.mp ((sortedByPlace_perm qs).mem_iff.mp hp)) q
      ((sortedByPlace_perm ps).mem_iff.mp hq) hplace)
  rw [placedLine, placedLine, hsame]

/-- **Texts of one number keep their order.** -/
theorem filter_sortedByPlace (ps : List (HostPlace × String)) (n : Int) :
    (sortedByPlace ps).filter (fun p => p.1.isNumber n) = ps.filter fun p => p.1.isNumber n := by
  have hequal : (ps.filter fun p => p.1.isNumber n).Pairwise fun p q => p.1.atMost q.1 = true := by
    refine List.pairwise_of_forall_mem_list fun p hp q hq => ?_
    rw [HostPlace.isNumber_iff.mp (List.mem_filter.mp hp).2,
      HostPlace.isNumber_iff.mp (List.mem_filter.mp hq).2]
    exact decide_eq_true (le_refl n)
  have hsub : (ps.filter fun p => p.1.isNumber n).Sublist (sortedByPlace ps) :=
    List.sublist_mergeSort (fun p q r => HostPlace.atMost_trans (p := p.1) (q := q.1) (r := r.1))
      (fun p q => HostPlace.atMost_total p.1 q.1) hequal List.filter_sublist
  have hkept : (ps.filter fun p => p.1.isNumber n).Sublist
      ((sortedByPlace ps).filter fun p => p.1.isNumber n) := by
    rw [← List.filter_eq_self.mpr fun p hp => (List.mem_filter.mp hp).2]
    exact hsub.filter _
  exact (hkept.eq_of_length ((sortedByPlace_perm ps).filter _).length_eq.symm).symm

theorem eq_numbers_append_names {l : List (HostPlace × String)}
    (h : l.Pairwise fun p q => p.1.atMost q.1 = true) :
    l = (l.filter fun p => p.1.isNumeric) ++ l.filter fun p => !p.1.isNumeric := by
  induction l with
  | nil => rfl
  | cons p l ih =>
    obtain ⟨hfirst, hrest⟩ := List.pairwise_cons.mp h
    obtain ⟨place, s⟩ := p
    cases place with
    | number n =>
      rw [List.filter_cons_of_pos rfl, List.filter_cons_of_neg (by simp [HostPlace.isNumeric]),
        List.cons_append, ← ih hrest]
    | name t =>
      have hnames : ∀ q ∈ l, q.1.isNumeric = false := by
        intro q hq
        have hq := hfirst q hq
        obtain ⟨place, s⟩ := q
        cases place with
        | number n => cases hq
        | name t => rfl
      rw [List.filter_cons_of_neg (by simp [HostPlace.isNumeric]), List.filter_cons_of_pos rfl,
        List.filter_eq_nil_iff.mpr fun q hq => by simp [hnames q hq],
        List.filter_eq_self.mpr fun q hq => by simp [hnames q hq], List.nil_append]

/-! ### Finding the numbers in a line -/

theorem takeWhile_intercalate {x : List Char} (hx : ',' ∉ x) (l : List (List Char)) :
    ([','].intercalate (x :: l)).takeWhile (· != ',') = x := by
  have hall : ∀ c ∈ x, (c != ',') = true := fun c hc => bne_iff_ne.mpr fun h => hx (h ▸ hc)
  cases l with
  | nil =>
    rw [List.intercalate_singleton, ← List.append_nil x, List.takeWhile_append_of_pos hall]
    rfl
  | cons y l =>
    rw [List.intercalate_cons_cons, List.append_assoc, List.takeWhile_append_of_pos hall]
    exact List.append_nil x

theorem intercalate_singleton_ne (x y : List Char) (l : List (List Char)) :
    [','].intercalate [x] ≠ [','].intercalate (x :: y :: l) := by
  intro h
  have hlength := congrArg List.length h
  rw [List.intercalate_singleton, List.intercalate_cons_cons] at hlength
  simp at hlength

theorem intercalate_eq_of_cons {x : List Char} {l m : List (List Char)}
    (h : [','].intercalate (x :: l) = [','].intercalate (x :: m)) :
    [','].intercalate l = [','].intercalate m := by
  cases l with
  | nil =>
    cases m with
    | nil => rfl
    | cons z m => exact absurd h (intercalate_singleton_ne x z m)
  | cons y l =>
    cases m with
    | nil => exact absurd h.symm (intercalate_singleton_ne x y l)
    | cons z m =>
      rw [List.intercalate_cons_cons, List.intercalate_cons_cons] at h
      exact List.append_cancel_left h

theorem eq_of_intercalate_eq {xs ys vs ws : List (List Char)} (hlength : xs.length = ys.length)
    (hxs : ∀ x ∈ xs, ',' ∉ x) (hys : ∀ y ∈ ys, ',' ∉ y)
    (h : [','].intercalate (xs ++ vs) = [','].intercalate (ys ++ ws)) : xs = ys := by
  induction xs generalizing ys with
  | nil => exact (List.length_eq_zero_iff.mp hlength.symm).symm
  | cons x xs ih =>
    cases ys with
    | nil => cases hlength
    | cons y ys =>
      obtain ⟨hx, hxs⟩ := List.forall_mem_cons.mp hxs
      obtain ⟨hy, hys⟩ := List.forall_mem_cons.mp hys
      have hfirst : x = y := by
        rw [← takeWhile_intercalate hx (xs ++ vs), ← takeWhile_intercalate hy (ys ++ ws)]
        exact congrArg _ h
      rw [hfirst] at h ⊢
      rw [ih (Nat.succ.inj hlength) hxs hys (intercalate_eq_of_cons h)]

/-- **Texts without commas can be found again** at the beginning of a line. -/
theorem eq_of_line_eq {xs ys vs ws : List String} (hlength : xs.length = ys.length)
    (hxs : ∀ x ∈ xs, ',' ∉ x.toList) (hys : ∀ y ∈ ys, ',' ∉ y.toList)
    (h : ",".intercalate (xs ++ vs) = ",".intercalate (ys ++ ws)) : xs = ys := by
  have hchars := congrArg String.toList h
  rw [String.toList_intercalate, String.toList_intercalate, List.map_append, List.map_append] at hchars
  have hlists : xs.map String.toList = ys.map String.toList := by
    refine eq_of_intercalate_eq ?_ ?_ ?_ hchars
    · rwa [List.length_map, List.length_map]
    · exact List.forall_mem_map.mpr hxs
    · exact List.forall_mem_map.mpr hys
  exact List.map_injective_iff.mpr (fun _ _ => String.ext) hlists

theorem comma_not_mem_of_number {s : String} {n : Int} (h : textPlace s = .ok (.number n)) :
    ',' ∉ s.toList := by
  have hwhole := textPlace_eq_number_iff.mp h
  have hdecimal {cs : List Char} (hcs : Text.isDecimal cs = true) : ',' ∉ cs := by
    intro hcomma
    have hall := (Bool.and_eq_true_iff.mp hcs).2
    exact absurd (List.all_eq_true.mp hall ',' hcomma) (by decide)
  rcases isDecimal_of_wholeNumber? hwhole with hcs | ⟨digits, hcs, hdigits⟩
  · exact hdecimal hcs
  · rw [hcs]
    exact List.not_mem_cons_of_ne_of_not_mem (by decide) (hdecimal hdigits)

/-- Every text stands at its place. -/
def Placed (ps : List (HostPlace × String)) : Prop := ∀ p ∈ ps, textPlace p.2 = .ok p.1

theorem Placed.sorted (h : Placed ps) : Placed (sortedByPlace ps) :=
  fun p hp => h p ((sortedByPlace_perm ps).mem_iff.mp hp)

/-- The texts at their places are known from the texts. -/
theorem Placed.eq_of_texts (hps : Placed ps) (hqs : Placed qs)
    (h : ps.map (·.2) = qs.map (·.2)) : ps = qs := by
  induction ps generalizing qs with
  | nil => exact (List.map_eq_nil_iff.mp h.symm).symm
  | cons p ps ih =>
    cases qs with
    | nil => cases h
    | cons q qs =>
      obtain ⟨hp, hps⟩ := List.forall_mem_cons.mp hps
      obtain ⟨hq, hqs⟩ := List.forall_mem_cons.mp hqs
      obtain ⟨htext, hrest⟩ := List.cons.inj h
      have hplace : p.1 = q.1 := Except.ok.inj (hp.symm.trans ((congrArg textPlace htext).trans hq))
      rw [Prod.ext hplace htext, ih hps hqs hrest]

/-- The numbers in the order of a line. -/
def sortedNumbers (ps : List (HostPlace × String)) : List (HostPlace × String) :=
  (sortedByPlace ps).filter fun p => p.1.isNumeric

theorem Placed.comma_not_mem (h : Placed ps) : ∀ s ∈ (sortedNumbers ps).map (·.2), ',' ∉ s.toList := by
  intro s hs
  obtain ⟨⟨place, s⟩, hp, rfl⟩ := List.mem_map.mp hs
  obtain ⟨hp, hnumeric⟩ := List.mem_filter.mp hp
  cases place with
  | number n => exact comma_not_mem_of_number (h.sorted _ hp)
  | name t => cases hnumeric

/-- **The numbers can be found again** in a line of hosts. -/
theorem sortedNumbers_eq_of_placedLine_eq (hps : Placed ps) (hperm : qs.Perm ps)
    (h : placedLine qs = placedLine ps) : sortedNumbers qs = sortedNumbers ps := by
  have hqs : Placed qs := fun p hp => hps p (hperm.mem_iff.mp hp)
  have hsorted := ((sortedByPlace_perm qs).trans hperm).trans (sortedByPlace_perm ps).symm
  have hlength : (sortedNumbers qs).length = (sortedNumbers ps).length :=
    (hsorted.filter _).length_eq
  have hline (l : List (HostPlace × String)) : placedLine l =
      ",".intercalate ((sortedNumbers l).map (·.2) ++
        ((sortedByPlace l).filter fun p => !p.1.isNumeric).map (·.2)) := by
    rw [← List.map_append, sortedNumbers, ← eq_numbers_append_names (ordered_sortedByPlace l),
      placedLine]
  rw [hline, hline] at h
  have htexts := eq_of_line_eq (by rwa [List.length_map, List.length_map]) hqs.comma_not_mem
    hps.comma_not_mem h
  exact Placed.eq_of_texts (fun p hp => hqs.sorted p (List.mem_of_mem_filter hp))
    (fun p hp => hps.sorted p (List.mem_of_mem_filter hp)) htexts

/-- **Two texts of one number that come first change places in the line**, unless they are the same. -/
theorem eq_of_placedLine_swap {p q : HostPlace × String} {n : Int} (hps : Placed (p :: q :: ps))
    (hp : p.1 = .number n) (hq : q.1 = .number n)
    (h : placedLine (q :: p :: ps) = placedLine (p :: q :: ps)) : p = q := by
  have hnumbers := sortedNumbers_eq_of_placedLine_eq hps (List.Perm.swap p q ps) h
  have hone (l : List (HostPlace × String)) :
      (sortedNumbers l).filter (fun r => r.1.isNumber n) = l.filter fun r => r.1.isNumber n := by
    rw [sortedNumbers, List.filter_filter, ← filter_sortedByPlace]
    refine List.filter_congr fun r _ => ?_
    obtain ⟨place, s⟩ := r
    cases place with
    | number m => exact Bool.and_true _
    | name t => rfl
  have hkept := congrArg (List.filter fun r => r.1.isNumber n) hnumbers
  have hpos {r : HostPlace × String} (hr : r.1 = .number n) (l : List (HostPlace × String)) :
      (r :: l).filter (fun r => r.1.isNumber n) = r :: l.filter fun r => r.1.isNumber n :=
    List.filter_cons_of_pos (HostPlace.isNumber_iff.mpr hr)
  rw [hone, hone, hpos hq, hpos hp, hpos hp, hpos hq] at hkept
  exact (List.cons.inj hkept).1.symm

end Sorted

end SubmissionRouting
