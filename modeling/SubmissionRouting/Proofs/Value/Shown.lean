import SubmissionRouting.Proofs.Number.Numerals
import SubmissionRouting.Proofs.Value.Written

/-! # Empty texts and missing texts

The literal form of a value is never empty: numbers and dates have digits, and collections have
brackets, so only the empty text has an empty text (`Value.shown_ne_empty`). This is said of values that
start somewhere (`Value.Rooted`), as all values do that are not inside a strand.

An integer with too many digits has no text (`Value.shown_of_many_digits`). -/

namespace SubmissionRouting

/-! ### Numbers and dates -/

theorem append_ne_empty (s : String) {t : String} (h : t ≠ "") : s ++ t ≠ "" :=
  fun hempty => h (String.append_eq_empty_iff.mp hempty).2

theorem decimalText_ne_empty (n : Int) : decimalText n ≠ "" := by
  unfold decimalText
  rw [Ne, String.ofList_eq_empty_iff]
  split_ifs
  · nofun
  · exact Nat.toDigits_ne_nil

theorem Binary64.setDigits_ne_nil (layout : Layout) (digits : List Char) (point : Int) :
    setDigits layout digits point ≠ [] := by
  unfold setDigits
  dsimp only
  split_ifs <;> simp

/-- A number has a text if infinity and what is not a number have one. -/
theorem Binary64.text_ne_empty {layout : Layout} (hnan : layout.nan ≠ "")
    (hinfinity : layout.infinity ≠ "") (x : Binary64) : x.text layout ≠ "" := by
  cases x with
  | nan m => exact hnan
  | ranked negative rank =>
    rw [text]
    generalize (if negative = true then "-" else "") = sign
    by_cases hinfinite : rank.val = infinityRank
    · rw [if_pos hinfinite]
      exact append_ne_empty sign hinfinity
    rw [if_neg hinfinite]
    by_cases hzero : rank.val = 0
    · rw [if_pos hzero]
      exact append_ne_empty sign (by decide)
    · rw [if_neg hzero]
      generalize shortest rank.val = set
      obtain ⟨digits, point⟩ := set
      refine append_ne_empty sign ?_
      rw [Ne, String.ofList_eq_empty_iff]
      exact setDigits_ne_nil layout _ _

theorem Date.text_ne_empty (d : Date) : d.text ≠ "" := by
  unfold Date.text
  simp

theorem Moment.text_ne_empty (m : Moment) : m.text ≠ "" := by
  unfold Moment.text
  simp

namespace Value

/-! ### Collections -/

/-- A value that holds other values. -/
def IsCollection : Value → Prop
  | list _ | tuple _ | set _ | map _ => True
  | _ => False

/-- The value starts somewhere: it is no link without strands, and a knot starts at a strand. All values
that can be handed in do; only a term that leads nowhere does not, and it has no literal form of its
own. -/
def Rooted : Value → Prop
  | knot strands start => ∃ s, strands[start]? = some s ∧ s.IsCollection
  | link _ => False
  | _ => True

theorem tupleLiteral_ne_empty (items : List String) : tupleLiteral items ≠ "" := by
  unfold tupleLiteral
  split <;> simp

theorem setLiteral_ne_empty (items : List String) : setLiteral items ≠ "" := by
  unfold setLiteral braced
  split <;> simp

theorem literal_ne_empty_of_isCollection {v : Value} (hv : v.IsCollection)
    {links : Nat → Except Misuse String} {s : String} (h : linkedLiteral v links = .ok s) :
    s ≠ "" := by
  have hform {α : Type} {f : α → String} (hf : ∀ a, f a ≠ "") {x : Except Misuse α}
      (hx : f <$> x = .ok s) : s ≠ "" := by
    obtain ⟨a, -, rfl⟩ := exists_of_map_eq_ok hx
    exact hf a
  cases v with
  | list items => exact hform (fun items => by simp [listLiteral]) h
  | tuple items => exact hform tupleLiteral_ne_empty h
  | set items => exact hform setLiteral_ne_empty h
  | map entries => exact hform (fun parts => by simp [braced]) h
  | _ => exact hv.elim

/-! ### Texts of values -/

theorem shown_int (n : Int) : (int n).shown = wholeText n := by
  rw [shown, literal, linkedLiteral]
  all_goals nofun

/-- **An integer with too many digits has no text.** -/
theorem shown_of_many_digits {n : Nat} (h : Nat.pow 10 Text.digitLimit ≤ n) :
    (int n).shown = .error .tooManyDigits := by
  have hlong (k : Nat) (hk : 0 < k) (hn : Nat.pow 10 k ≤ n) : ¬ (Nat.toDigits 10 n).length ≤ k := by
    rw [Nat.length_toDigits_le_iff (by decide) hk]
    exact Nat.not_lt.mpr hn
  rw [shown_int, wholeText, Int.natAbs_natCast, if_neg (hlong Text.digitLimit (by decide) h)]

/-- **Only the empty text has an empty text**, among values that start somewhere. -/
theorem shown_ne_empty {v : Value} (hv : v.Rooted) (hne : v ≠ text "") {s : String}
    (h : v.shown = .ok s) : s ≠ "" := by
  cases v with
  | null => cases h; decide
  | bool b => cases h; cases b <;> decide
  | int n =>
    rw [shown_int, wholeText] at h
    split_ifs at h
    cases h
    exact decimalText_ne_empty n
  | float x =>
    cases h
    exact Binary64.text_ne_empty (by decide) (by decide) x
  | text t =>
    cases h
    exact fun ht => hne (congrArg text ht)
  | date d =>
    have hs : d.text = s := Except.ok.inj h
    exact hs ▸ d.text_ne_empty
  | moment m =>
    have hs : m.text = s := Except.ok.inj h
    exact hs ▸ m.text_ne_empty
  | knot strands start =>
    obtain ⟨strand, hstrand, hcollection⟩ := hv
    have hform : (strandForms strands)[start]? = some fun links => linkedLiteral strand links := by
      rw [strandForms_eq_map, List.getElem?_map, hstrand]
      rfl
    have hliteral : strandLiteral strands (strandForms strands) (strands.length + 1) [] start = .ok s := h
    rw [strandLiteral, if_neg (by simp), List.getD_eq_getElem?_getD, hform] at hliteral
    exact literal_ne_empty_of_isCollection hcollection hliteral
  | link n => exact hv.elim
  | list items => exact literal_ne_empty_of_isCollection (v := list items) trivial h
  | tuple items => exact literal_ne_empty_of_isCollection (v := tuple items) trivial h
  | set items => exact literal_ne_empty_of_isCollection (v := set items) trivial h
  | map entries => exact literal_ne_empty_of_isCollection (v := map entries) trivial h

end Value

end SubmissionRouting
