import SubmissionRouting.Condition.Operator
import SubmissionRouting.Proofs.Failure
import SubmissionRouting.Proofs.Number.Rounding
import SubmissionRouting.Proofs.Value.Parts

/-! # Values as texts and numbers

A value has a text unless one of its parts is a whole number with too many digits
(`failsOnly_literal`, `failsOnly_shown`); where it contains itself, points stand. It denotes a
number, or none, unless it is a whole number beyond the range of double precision. So a value whose
whole numbers are all within this range can be read either way (`InRange.exists_shown`,
`InRange.exists_number`), and so can all that it lists (`InRange.of_mem_asList`). -/

namespace SubmissionRouting.Value

/-! ### Literal forms -/

section
variable {P : Misuse → Prop}

theorem linkedLiterals_eq_mapM (vs : List Value) (links : Nat → Except Misuse String) :
    linkedLiterals vs links = vs.mapM fun v => linkedLiteral v links := by
  induction vs with
  | nil => rfl
  | cons v vs ih => rw [linkedLiterals, List.mapM_cons, ih]

theorem failsOnly_linkedLiterals {vs : List Value} {links : Nat → Except Misuse String}
    (h : ∀ v ∈ vs, FailsOnly P (linkedLiteral v links)) :
    FailsOnly P (linkedLiterals vs links) := by
  rw [linkedLiterals_eq_mapM]
  exact failsOnly_mapM h

theorem failsOnly_entryLiterals {es : List (Value × Value)} {links : Nat → Except Misuse String}
    (h : ∀ e ∈ es, FailsOnly P (linkedLiteral e.1 links) ∧ FailsOnly P (linkedLiteral e.2 links)) :
    FailsOnly P (entryLiterals es links) := by
  induction es with
  | nil => exact failsOnly_ok []
  | cons e es ih =>
    obtain ⟨hkey, hvalue⟩ := h e List.mem_cons_self
    rw [entryLiterals]
    refine hkey.bind fun key _ => hvalue.bind fun value _ => ?_
    refine (ih fun e' he' => h e' (List.mem_cons_of_mem e he')).bind fun others _ => ?_
    exact failsOnly_ok _

theorem strandForms_eq_map (vs : List Value) :
    strandForms vs = vs.map fun v links => linkedLiteral v links := by
  induction vs with
  | nil => rfl
  | cons v vs ih => rw [strandForms, List.map_cons, ih]

theorem failsOnly_strandLiteral {strands : List Value} {forms : List LinkedLiteral}
    (h : ∀ form ∈ forms, ∀ links, (∀ n, FailsOnly P (links n)) → FailsOnly P (form links))
    (fuel : Nat) (path : List Nat) (n : Nat) :
    FailsOnly P (strandLiteral strands forms fuel path n) := by
  induction fuel generalizing path n with
  | zero => exact failsOnly_ok _
  | succ fuel ih =>
    unfold strandLiteral
    split
    · exact failsOnly_ok _
    · rw [List.getD_eq_getElem?_getD]
      cases hform : forms[n]? with
      | none => exact failsOnly_ok ""
      | some form => exact h form (List.mem_of_getElem? hform) _ fun m => ih (n :: path) m

/-- **A literal form fails only with what the whole numbers in the value fail with**, if the links
do. -/
theorem failsOnly_linkedLiteral (v : Value) (h : ∀ n, Part (int n) v → FailsOnly P (wholeText n))
    (links : Nat → Except Misuse String) (hlinks : ∀ n, FailsOnly P (links n)) :
    FailsOnly P (linkedLiteral v links) := by
  induction v using Value.induction generalizing links with
  | step v ih =>
    have hinside (w : Value) (hw : w ∈ v.inside) (links : Nat → Except Misuse String)
        (hlinks : ∀ n, FailsOnly P (links n)) : FailsOnly P (linkedLiteral w links) :=
      ih w hw (fun n hn => h n (.of_inside hw hn)) links hlinks
    cases v with
    | int n => exact h n (Part.refl _)
    | list vs => exact (failsOnly_linkedLiterals fun w hw => hinside w hw links hlinks).map _
    | tuple vs => exact (failsOnly_linkedLiterals fun w hw => hinside w hw links hlinks).map _
    | set vs => exact (failsOnly_linkedLiterals fun w hw => hinside w hw links hlinks).map _
    | map es =>
      refine (failsOnly_entryLiterals fun e he => ⟨?_, ?_⟩).map _
      · exact hinside e.1 (mem_inside_map.mpr ⟨e, he, .inl rfl⟩) links hlinks
      · exact hinside e.2 (mem_inside_map.mpr ⟨e, he, .inr rfl⟩) links hlinks
    | knot strands start =>
      refine failsOnly_strandLiteral (fun form hform links' hlinks' => ?_) _ _ _
      rw [strandForms_eq_map] at hform
      obtain ⟨w, hw, rfl⟩ := List.mem_map.mp hform
      exact hinside w hw links' hlinks'
    | link n => exact hlinks n
    | _ => exact failsOnly_ok _

end

/-- A part of the value is a whole number with too many digits to be written. -/
def HoldsTooLong (v : Value) : Prop :=
  ∃ n, Part (int n) v ∧ Text.digitLimit < (Nat.toDigits 10 n.natAbs).length

theorem HoldsTooLong.of_part {x v : Value} (h : x.HoldsTooLong) (hx : Part x v) :
    v.HoldsTooLong := by
  obtain ⟨n, hn, hlong⟩ := h
  exact ⟨n, hn.trans hx, hlong⟩

/-- **A value has a literal form** unless it holds a whole number with too many digits. -/
theorem failsOnly_literal (v : Value) :
    FailsOnly (fun m => m = .tooManyDigits ∧ v.HoldsTooLong) v.literal := by
  refine failsOnly_linkedLiteral v (fun n hn => ?_) _ fun _ => failsOnly_ok ""
  unfold wholeText
  split
  · exact failsOnly_ok _
  · next hlong => exact failsOnly_error ⟨rfl, n, hn, Nat.lt_of_not_le hlong⟩

theorem failsOnly_shown (v : Value) :
    FailsOnly (fun m => m = .tooManyDigits ∧ v.HoldsTooLong) v.shown := by
  cases v with
  | text s => exact failsOnly_ok s
  | date d => exact failsOnly_ok _
  | moment m => exact failsOnly_ok _
  | _ => exact failsOnly_literal _

/-! ### Numbers in range -/

/-- All whole numbers that are parts of the value are within the range of double precision. -/
def InRange (v : Value) : Prop := ∀ n, Part (int n) v → (Binary64.ofInt? n).isSome

namespace InRange

variable {v : Value}

theorem of_part {x : Value} (h : v.InRange) (hx : Part x v) : x.InRange :=
  fun n hn => h n (hn.trans hx)

theorem iff_inside :
    v.InRange ↔ (∀ n, v = int n → (Binary64.ofInt? n).isSome) ∧ ∀ w ∈ v.inside, w.InRange := by
  constructor
  · intro h
    exact ⟨fun n hn => h n (hn ▸ Part.refl v), fun w hw => h.of_part (.of_inside hw (Part.refl w))⟩
  · rintro ⟨hself, hinside⟩ n hn
    rcases hn.eq_or_inside with rfl | ⟨w, hw, hn⟩
    · exact hself n rfl
    · exact hinside w hw n hn

@[simp] theorem null : Value.null.InRange := iff_inside.mpr ⟨nofun, nofun⟩

@[simp] theorem text (s : String) : (Value.text s).InRange := iff_inside.mpr ⟨nofun, nofun⟩

@[simp] theorem int_iff {n : Int} : (int n).InRange ↔ (Binary64.ofInt? n).isSome := by
  rw [iff_inside]
  simp [inside]

@[simp] theorem list_iff {vs : List Value} : (list vs).InRange ↔ ∀ w ∈ vs, w.InRange := by
  rw [iff_inside]
  simp [inside]

@[simp] theorem map_iff {es : List (Value × Value)} :
    (map es).InRange ↔ ∀ e ∈ es, e.1.InRange ∧ e.2.InRange := by
  rw [iff_inside]
  simp only [mem_inside_map]
  constructor
  · rintro ⟨-, h⟩ e he
    exact ⟨h e.1 ⟨e, he, .inl rfl⟩, h e.2 ⟨e, he, .inr rfl⟩⟩
  · refine fun h => ⟨nofun, ?_⟩
    rintro w ⟨e, he, rfl | rfl⟩
    · exact (h e he).1
    · exact (h e he).2

/-- What a knot starts from makes no difference to the whole numbers in it. -/
theorem knot_iff {strands : List Value} {start : Nat} :
    (knot strands start).InRange ↔ ∀ w ∈ strands, w.InRange := by
  rw [iff_inside]
  simp [inside]

theorem tied {strands : List Value} (hstrands : ∀ w ∈ strands, w.InRange) {x : Value}
    (hx : x.InRange) : (Value.tied strands x).InRange := by
  cases x with
  | link n => exact knot_iff.mpr hstrands
  | _ => exact hx

theorem inside_tiedItems {strands : List Value} (hstrands : ∀ w ∈ strands, w.InRange) {s : Value}
    (hs : s.InRange) : ∀ u ∈ (tiedItems strands s).inside, u.InRange := by
  have hinside := (iff_inside.mp hs).2
  intro u hu
  cases s with
  | list vs =>
    obtain ⟨x, hx, rfl⟩ := List.mem_map.mp hu
    exact tied hstrands (hinside x hx)
  | tuple vs =>
    obtain ⟨x, hx, rfl⟩ := List.mem_map.mp hu
    exact tied hstrands (hinside x hx)
  | map es =>
    obtain ⟨e, he, hu⟩ := mem_inside_map.mp hu
    obtain ⟨f, hf, rfl⟩ := List.mem_map.mp he
    rcases hu with rfl | rfl
    · exact hinside _ (mem_inside_map.mpr ⟨f, hf, .inl rfl⟩)
    · exact tied hstrands (hinside _ (mem_inside_map.mpr ⟨f, hf, .inr rfl⟩))
  | _ => exact hinside u hu

theorem inside_opened (h : v.InRange) : ∀ u ∈ v.opened.inside, u.InRange := by
  cases v with
  | knot strands start =>
    have hstrands := knot_iff.mp h
    refine inside_tiedItems hstrands ?_
    rw [List.getD_eq_getElem?_getD]
    cases hs : strands[start]? with
    | none => exact null
    | some s => exact hstrands s (List.mem_of_getElem? hs)
  | _ => exact (iff_inside.mp h).2

theorem of_mem_asList (h : v.InRange) {w : Value} (hw : w ∈ v.asList) : w.InRange := by
  have hopened := h.inside_opened
  unfold asList at hw
  cases hv : v.opened with
  | null => rw [hv] at hw; cases hw
  | list vs => rw [hv] at hw hopened; exact hopened w hw
  | tuple vs => rw [hv] at hw hopened; exact hopened w hw
  | set vs => rw [hv] at hw hopened; exact hopened w hw
  | _ =>
    rw [hv] at hw
    rw [List.mem_singleton.mp hw]
    exact h

theorem fixed (h : v.InRange) : v.fixed.InRange := by
  unfold Value.fixed
  cases hv : v.opened with
  | list vs =>
    refine iff_inside.mpr ⟨nofun, fun w hw => h.of_mem_asList ?_⟩
    unfold asList
    rw [hv]
    exact hw
  | _ => exact h

theorem not_holdsTooLong (h : v.InRange) : ¬ v.HoldsTooLong := by
  rintro ⟨n, hn, hlong⟩
  obtain ⟨y, hy⟩ := Option.isSome_iff_exists.mp (h n hn)
  exact Nat.not_le_of_lt hlong (Binary64.length_toDigits_of_ofInt? hy)

/-- **A value in range has a text.** -/
theorem exists_shown (h : v.InRange) : ∃ s, v.shown = .ok s :=
  exists_ok_of_failsOnly (failsOnly_shown v) fun _ hm => h.not_holdsTooLong hm.2

theorem exists_number (h : v.InRange) : ∃ x, v.number = .ok x := by
  cases v with
  | int n =>
    obtain ⟨y, hy⟩ := Option.isSome_iff_exists.mp (h n (Part.refl _))
    exact ⟨some y, by rw [number, hy]⟩
  | _ => exact ⟨_, rfl⟩

end InRange

end SubmissionRouting.Value
