import SubmissionRouting.Proofs.Condition.Numeric
import SubmissionRouting.Proofs.Response.Normalized

/-! # Verdicts on typed answers

The answers of a response are put into the types of their fields before the rules read them, the
attributes of hosts are read as they are. The verdicts are the same
(`Field.keepsVerdict_of_kind`), for this reason: an operator sees little of a value.

* No operator sees more than whether the value is empty, the values that it lists, and the number
  that it denotes (`Operator.holds_congr`). Putting a list into the type of a text changes none of
  these.
* The operators of numbers see the signed rank of the number (`Operator.holds_of_numbers`), and that
  of a text stays the same when the text is read as a whole number (`Value.numeral_cases`).
* The operators of choices see the ids of the choices (`Operator.holds_of_choices`). A choice that
  is named by its id is this choice (`Slot.idOfText_idOfText`), so ids read once more stay. -/

namespace SubmissionRouting

/-! ### What operators see -/

/-- **A verdict depends** on whether the value is empty, on what it lists and on its number. -/
theorem Operator.holds_congr (o : Operator) {v w : Value} (hempty : v.isEmpty = w.isEmpty)
    (hlist : v.asList = w.asList) (hnumber : v.number = w.number) (comparand : Value)
    (slot : Slot) : o.holds v comparand slot = o.holds w comparand slot := by
  have htexts : v.comparisonTexts = w.comparisonTexts := by
    unfold Value.comparisonTexts
    rw [hlist]
  have hids : slot.choiceIds v = slot.choiceIds w := by
    unfold Slot.choiceIds
    rw [hlist]
  cases o <;>
    simp only [holds, equalsHolds, containsHolds, choicesEqualHolds, firstChoiceEquals, textEquals,
      textContains, anyText, allInHolds, someInHolds, selectAnyInHolds, compare, compareBounds,
      hempty, htexts, hids, hnumber]

namespace Value

variable {v : Value} {items : List Value}

theorem asList_of_sequence? (h : v.sequence? = some items) : v.asList = items := by
  unfold sequence? at h
  unfold asList
  cases hv : v.opened with
  | list vs => rw [hv] at h; cases h; rfl
  | tuple vs => rw [hv] at h; cases h; rfl
  | _ => rw [hv] at h; cases h

theorem isEmpty_of_sequence? (h : v.sequence? = some items) : v.isEmpty = items.isEmpty := by
  unfold sequence? at h
  unfold isEmpty
  cases hv : v.opened with
  | list vs => rw [hv] at h; cases h; rfl
  | tuple vs => rw [hv] at h; cases h; rfl
  | _ => rw [hv] at h; cases h

theorem number_of_sequence? (h : v.sequence? = some items) : v.number = .ok none := by
  cases v with
  | list vs => rfl
  | tuple vs => rfl
  | knot strands start => rfl
  | _ => cases h

end Value

/-! ### Numbers -/

/-- The operators that compare numbers, and those that ask whether there is an answer. -/
def Operator.ofNumbers : List Operator :=
  [equals, notEquals, greater, greaterOrEqual, less, lessOrEqual, between, notBetween, isEmpty,
    isNotEmpty]

namespace Binary64

variable {r : Int → Int → Bool} {x y : Binary64}

theorem related_congr_left (h : x.key? = y.key?) (z : Binary64) :
    related r x z = related r y z := by
  unfold related
  rw [h]

theorem related_congr_right (h : x.key? = y.key?) (z : Binary64) :
    related r z x = related r z y := by
  unfold related
  rw [h]

end Binary64

namespace Operator

section
variable {v w : Value} {x y : Binary64}

theorem compare_congr {relation : Binary64 → Binary64 → Bool} (hv : v.number = .ok (some x))
    (hw : w.number = .ok (some y)) (h : ∀ z, relation x z = relation y z) (comparand : Value) :
    compare relation v comparand = compare relation w comparand := by
  unfold compare
  rw [hv, hw, ok_bind, ok_bind]
  cases comparand.number with
  | error e => rfl
  | ok right =>
    cases right with
    | none => rfl
    | some z => exact congrArg Except.ok (h z)

theorem compareBounds_congr (inside : Bool) (hv : v.number = .ok (some x))
    (hw : w.number = .ok (some y)) (hkey : x.key? = y.key?) (comparand : Value) :
    compareBounds inside v comparand = compareBounds inside w comparand := by
  unfold compareBounds
  rw [hv, hw, ok_bind, ok_bind]
  cases bounds comparand with
  | error e => rfl
  | ok limits =>
    cases limits with
    | none => rfl
    | some limits =>
      obtain ⟨low, high⟩ := limits
      have hlow : low.atMost x = low.atMost y := Binary64.related_congr_right hkey low
      have hhigh : x.atMost high = y.atMost high := Binary64.related_congr_left hkey high
      exact congrArg Except.ok (by rw [hlow, hhigh])

end

/-- **The operators of numbers see signed ranks.** -/
theorem holds_of_numbers {o : Operator} (ho : o ∈ ofNumbers) {v w : Value} {x y : Binary64}
    (hv : v.number = .ok (some x)) (hw : w.number = .ok (some y)) (hkey : x.key? = y.key?)
    {slot : Slot} (hkind : slot.kind = .number) (comparand : Value) :
    o.holds v comparand slot = o.holds w comparand slot := by
  have hempty : v.isEmpty = w.isEmpty := by
    rw [Value.isEmpty_of_number hv, Value.isEmpty_of_number hw]
  have hmulti : slot.kind.isMultiChoice = false := by rw [hkind]; rfl
  have hchoices : slot.kind.hasChoices = false := by rw [hkind]; rfl
  have hleft (r : Int → Int → Bool) (z : Binary64) :
      Binary64.related r x z = Binary64.related r y z := Binary64.related_congr_left hkey z
  have hright (r : Int → Int → Bool) (z : Binary64) :
      Binary64.related r z x = Binary64.related r z y := Binary64.related_congr_right hkey z
  have hsame : compare Binary64.same v comparand = compare Binary64.same w comparand :=
    compare_congr hv hw (hleft _) comparand
  have hequals : equalsHolds v comparand slot = equalsHolds w comparand slot := by
    unfold equalsHolds
    rw [hempty, hmulti, hchoices, if_pos hkind, if_pos hkind, hsame]
    rfl
  cases o with
  | equals => exact hequals
  | notEquals => exact congrArg negated hequals
  | greater => exact compare_congr hv hw (hright _) comparand
  | greaterOrEqual => exact compare_congr hv hw (hright _) comparand
  | less => exact compare_congr hv hw (hleft _) comparand
  | lessOrEqual => exact compare_congr hv hw (hleft _) comparand
  | between => exact compareBounds_congr true hv hw hkey comparand
  | notBetween => exact compareBounds_congr false hv hw hkey comparand
  | isEmpty => exact congrArg pure hempty
  | isNotEmpty => exact congrArg (fun b => pure !b) hempty
  | _ => exact absurd ho (by decide)

end Operator

theorem Value.numeral_cases (s : String) :
    Field.numeral s = .text s ∨ ∃ x y, (text s).number = .ok (some x) ∧
      (Field.numeral s).number = .ok (some y) ∧ y.key? = x.key? := by
  cases hx : numberInText? s with
  | none =>
    left
    unfold Field.numeral
    rw [hx]
  | some x =>
    right
    have hnumber : (text s).number = .ok (some x) := congrArg Except.ok hx
    cases hn : x.toInt? with
    | some n =>
      have hnumeral : Field.numeral s = .int n := by
        unfold Field.numeral
        rw [hx]
        dsimp only
        rw [hn]
      obtain ⟨y, hy, hkey⟩ := Binary64.ofInt?_of_toInt? hn
      refine ⟨x, y, hnumber, ?_, hkey⟩
      rw [hnumeral, number, hy]
    | none =>
      have hnumeral : Field.numeral s = .float x := by
        unfold Field.numeral
        rw [hx]
        dsimp only
        rw [hn]
      have hreal : x.isNaN = false := by
        simpa using (Option.filter_eq_some_iff.mp hx).2
      refine ⟨x, x, hnumber, ?_, rfl⟩
      rw [hnumeral, number, hreal]
      rfl

/-! ### Choices -/

/-- The operators that compare choices, and those that ask whether there is an answer. -/
def Operator.ofChoices : List Operator :=
  [equals, notEquals, contains, notContains, selectAnyIn, selectNotAnyIn, multiselectSomeIn,
    multiselectAllIn, multiselectEquals, multiselectNotEquals, isEmpty, isNotEmpty]

/-- **The operators of choices see the ids of the choices**, and whether the value is empty. -/
theorem Operator.holds_of_choices {o : Operator} (ho : o ∈ ofChoices) {v w : Value} {slot : Slot}
    (hempty : v.isEmpty = w.isEmpty) (hids : slot.choiceIds v = slot.choiceIds w)
    (hkind : slot.kind.hasChoices = true) (comparand : Value) :
    o.holds v comparand slot = o.holds w comparand slot := by
  have hequal : choicesEqualHolds v comparand slot = choicesEqualHolds w comparand slot := by
    unfold choicesEqualHolds
    rw [hids]
  have hequals : equalsHolds v comparand slot = equalsHolds w comparand slot := by
    unfold equalsHolds firstChoiceEquals
    rw [hempty, hequal, if_pos hkind, if_pos hkind, hids]
  have hall : allInHolds v comparand slot = allInHolds w comparand slot := by
    unfold allInHolds
    rw [hids]
  have hcontains : containsHolds v comparand slot = containsHolds w comparand slot := by
    unfold containsHolds
    rw [hempty, if_pos hkind, if_pos hkind, hall]
  have hany : selectAnyInHolds v comparand slot = selectAnyInHolds w comparand slot := by
    unfold selectAnyInHolds
    rw [hids]
  have hsome : someInHolds v comparand slot = someInHolds w comparand slot := by
    unfold someInHolds
    rw [hids]
  cases o with
  | equals => exact hequals
  | notEquals => exact congrArg negated hequals
  | contains => exact hcontains
  | notContains => exact congrArg negated hcontains
  | selectAnyIn => exact hany
  | selectNotAnyIn => exact congrArg negated hany
  | multiselectSomeIn => exact hsome
  | multiselectAllIn => exact hall
  | multiselectEquals => exact hequal
  | multiselectNotEquals => exact congrArg negated hequal
  | isEmpty => exact congrArg pure hempty
  | isNotEmpty => exact congrArg (fun b => pure !b) hempty
  | _ => exact absurd ho (by decide)

namespace Slot

variable (slot : Slot)

/-- **The id of a choice names the choice of this id**, so an id that is read once more stays. -/
theorem idOfText_idOfText (s : String) : slot.idOfText (slot.idOfText s) = slot.idOfText s := by
  cases hc : slot.choice? s with
  | none =>
    have hid : slot.idOfText s = s := by unfold idOfText; rw [hc]
    rw [hid, hid]
  | some c =>
    have hid : slot.idOfText s = c.id := by unfold idOfText; rw [hc]
    have hmem : c ∈ slot.choices := by
      rcases Option.or_eq_some_iff.mp hc with h | ⟨-, h⟩ <;> exact List.mem_of_find?_eq_some h
    obtain ⟨d, hd⟩ : ∃ d, choiceById? slot.choices c.id = some d :=
      Option.isSome_iff_exists.mp (List.find?_isSome.mpr ⟨c, hmem, beq_self_eq_true c.id⟩)
    have hdid : d.id = c.id := by
      have hfound : slot.choices.find? (fun e => e.id == c.id) = some d := hd
      simpa using List.find?_some hfound
    rw [hid]
    unfold idOfText choice?
    rw [hd]
    exact hdid

theorem idOfText_ne_empty {slot : Slot} (h : ∀ c ∈ slot.choices, c.id ≠ "") {s : String}
    (hs : s ≠ "") : slot.idOfText s ≠ "" := by
  unfold idOfText
  cases hc : slot.choice? s with
  | none => exact hs
  | some c =>
    rcases Option.or_eq_some_iff.mp hc with hfound | ⟨-, hfound⟩ <;>
      exact h c (List.mem_of_find?_eq_some hfound)

end Slot

namespace Value

/-- The value names choices by texts: it is nothing, a text that is not empty, or a list or tuple of
such texts. -/
inductive Names : List String → Value → Prop where
  | nothing : Names [] null
  | one {s : String} (h : s ≠ "") : Names [s] (text s)
  | several {texts : List String} {v : Value} (items : v.sequence? = some (texts.map text))
      (h : ∀ s ∈ texts, s ≠ "") : Names texts v

namespace Names

variable {texts : List String} {v : Value}

theorem ne_empty (h : Names texts v) : ∀ s ∈ texts, s ≠ "" := by
  cases h with
  | nothing => exact nofun
  | one hs =>
    intro s hmem
    rw [List.mem_singleton.mp hmem]
    exact hs
  | several _ hs => exact hs

theorem asList_eq (h : Names texts v) : v.asList = texts.map text := by
  cases h with
  | nothing => rfl
  | one hs => rfl
  | several items _ => exact asList_of_sequence? items

theorem isEmpty_eq (h : Names texts v) : v.isEmpty = texts.isEmpty := by
  cases h with
  | nothing => rfl
  | one hs => exact beq_eq_false_iff_ne.mpr hs
  | several items _ => rw [isEmpty_of_sequence? items, List.isEmpty_map]

theorem choiceIds_eq (h : Names texts v) (slot : Slot) :
    slot.choiceIds v = .ok (texts.map slot.idOfText) := by
  have hkept : (texts.map text).filter (fun w => !w.isEmpty) = texts.map text := by
    refine List.filter_eq_self.mpr fun w hw => ?_
    obtain ⟨s, hs, rfl⟩ := List.mem_map.mp hw
    have hne : (text s).isEmpty = false := beq_eq_false_iff_ne.mpr (h.ne_empty s hs)
    rw [hne]
    rfl
  unfold Slot.choiceIds
  rw [h.asList_eq, hkept, List.mapM_map]
  show texts.mapM (fun s => (pure (slot.idOfText s) : Except Misuse String)) = _
  exact List.mapM_pure

/-- **Texts and the ids of the choices that they name** have the same verdicts. -/
theorem holds_eq (h : Names texts v) {w : Value} {slot : Slot}
    (hw : Names (texts.map slot.idOfText) w) {o : Operator} (ho : o ∈ Operator.ofChoices)
    (hkind : slot.kind.hasChoices = true) (comparand : Value) :
    o.holds w comparand slot = o.holds v comparand slot := by
  refine Operator.holds_of_choices ho ?_ ?_ hkind comparand
  · rw [hw.isEmpty_eq, h.isEmpty_eq, List.isEmpty_map]
  · rw [hw.choiceIds_eq, h.choiceIds_eq, List.map_map]
    simp only [Function.comp_def, Slot.idOfText_idOfText]

end Names

end Value

/-! ### Answers in the types of fields -/

namespace Field

variable {f : Field} {texts : List String} {v : Value}

theorem normalize_of_free (hkind : f.kind ∈ [.text, .textarea, .email, .phone]) (v : Value) :
    (f.normalize v).outcome = .ok v ∨
      ∃ items, v.sequence? = some items ∧ (f.normalize v).outcome = .ok (.tuple items) := by
  rw [outcome_normalize_free hkind]
  cases v.sequence? with
  | none => exact .inl rfl
  | some items => exact .inr ⟨items, rfl, rfl⟩

/-- **Texts in the type of several choices** are a tuple of the ids of the choices they name. -/
theorem normalize_of_multiChoice (hkind : f.kind.isMultiChoice = true)
    (hids : ∀ c ∈ f.choices, c.id ≠ "") (h : v.Names texts) :
    ∃ w, (f.normalize v).outcome = .ok w ∧ w.Names (texts.map f.slot.idOfText) := by
  have hne : ∀ s ∈ texts.map f.slot.idOfText, s ≠ "" := by
    intro id hid
    obtain ⟨s, hs, rfl⟩ := List.mem_map.mp hid
    exact Slot.idOfText_ne_empty hids (h.ne_empty s hs)
  have hfilled : texts.filter (fun s => s ≠ "") = texts :=
    List.filter_eq_self.mpr fun s hs => decide_eq_true (h.ne_empty s hs)
  have hseveral (hnull : v.isNull = false) (hitems : v.sequence?.getD [v] = texts.map .text) :
      (f.normalize v).outcome = .ok (.tuple ((texts.map f.slot.idOfText).map .text)) := by
    rw [outcome_normalize_texts hkind hnull hitems, hfilled]
  cases h with
  | nothing => exact ⟨.null, rfl, .nothing⟩
  | one hs => exact ⟨_, hseveral rfl rfl, .several rfl hne⟩
  | several items hs =>
    have hitems : v.sequence?.getD [v] = texts.map .text := by rw [items]; rfl
    exact ⟨_, hseveral (Value.isNull_of_sequence? items) hitems, .several rfl hne⟩

/-- **A text in the type of one choice** is the id of the choice that it names. -/
theorem normalize_of_singleChoice (hkind : f.kind.isSingleChoice = true)
    (hids : ∀ c ∈ f.choices, c.id ≠ "") (h : v.Names texts) (hone : texts.length ≤ 1) :
    ∃ w, (f.normalize v).outcome = .ok w ∧ w.Names (texts.map f.slot.idOfText) := by
  have hchoice {s : String} (hs : s ≠ "") (hfirst : first v = .text s) :
      (f.normalize v).outcome = .ok (.text (f.slot.idOfText s)) := by
    rw [outcome_normalize_singleChoice hkind, hfirst, isBlank_text hs]
    rfl
  cases h with
  | nothing => exact ⟨.null, rfl, .nothing⟩
  | one hs => exact ⟨_, hchoice hs rfl, .one (Slot.idOfText_ne_empty hids hs)⟩
  | several items hs =>
    have hfirst : first v = (texts.map Value.text).headD .null := by
      unfold first
      rw [items]
    match texts, hone with
    | [], _ =>
      refine ⟨.null, ?_, .nothing⟩
      rw [outcome_normalize_singleChoice hkind, hfirst]
      rfl
    | [s], _ =>
      have hne : s ≠ "" := hs s List.mem_cons_self
      exact ⟨_, hchoice hne hfirst, .one (Slot.idOfText_ne_empty hids hne)⟩

/-! ### Verdicts -/

/-- The verdict of an operator on an answer stays the same when the answer is put into the type of
the field, which does not fail. -/
def KeepsVerdict (f : Field) (o : Operator) (answer comparand : Value) : Prop :=
  ∃ v, (f.normalize answer).outcome = .ok v ∧
    o.holds v comparand f.slot = o.holds answer comparand f.slot

/-- **Typed answers have the verdicts of the answers as they were given**: for texts all verdicts on
all answers, for numbers those of the operators of numbers on all answers, and for choices those of
the operators of choices on texts that may name choices, if no choice has an empty id; a field with
one choice takes one text at most. -/
theorem keepsVerdict_of_kind (f : Field) (o : Operator) (answer comparand : Value) :
    (f.kind ∈ [.text, .textarea, .email, .phone] → f.KeepsVerdict o answer comparand) ∧
    (f.kind = .number → o ∈ Operator.ofNumbers → f.KeepsVerdict o answer comparand) ∧
    (f.kind.isMultiChoice = true → (∀ c ∈ f.choices, c.id ≠ "") → o ∈ Operator.ofChoices →
      (∃ texts, answer.Names texts) → f.KeepsVerdict o answer comparand) ∧
    (f.kind.isSingleChoice = true → (∀ c ∈ f.choices, c.id ≠ "") → o ∈ Operator.ofChoices →
      (∃ texts, answer.Names texts ∧ texts.length ≤ 1) → f.KeepsVerdict o answer comparand) := by
  refine ⟨fun hkind => ?_, fun hkind ho => ?_, fun hkind hids ho htexts => ?_,
    fun hkind hids ho htexts => ?_⟩
  · rcases normalize_of_free hkind answer with h | ⟨items, hitems, h⟩
    · exact ⟨answer, h, rfl⟩
    · refine ⟨.tuple items, h, o.holds_congr ?_ ?_ ?_ comparand f.slot⟩
      · exact (Value.isEmpty_of_sequence? hitems).symm
      · exact (Value.asList_of_sequence? hitems).symm
      · exact (Value.number_of_sequence? hitems).symm
  · rcases normalize_of_number hkind answer with h | ⟨s, hs, h⟩
    · exact ⟨answer, h, rfl⟩
    · subst hs
      refine ⟨numeral s, h, ?_⟩
      rcases Value.numeral_cases s with hsame | ⟨x, y, hx, hy, hkey⟩
      · rw [hsame]
      · exact Operator.holds_of_numbers ho hy hx hkey hkind comparand
  · obtain ⟨texts, hnames⟩ := htexts
    obtain ⟨v, h, hv⟩ := normalize_of_multiChoice hkind hids hnames
    have hchoices : f.slot.kind.hasChoices = true := (Bool.or_eq_true _ _).mpr (.inr hkind)
    exact ⟨v, h, hnames.holds_eq hv ho hchoices comparand⟩
  · obtain ⟨texts, hnames, hone⟩ := htexts
    obtain ⟨v, h, hv⟩ := normalize_of_singleChoice hkind hids hnames hone
    have hchoices : f.slot.kind.hasChoices = true := (Bool.or_eq_true _ _).mpr (.inl hkind)
    exact ⟨v, h, hnames.holds_eq hv ho hchoices comparand⟩

/-- One field of each sort: a list of texts, a number in a text, labels and ids among texts, and a
single label. -/
theorem keepsVerdict_of_four_kinds :
    let color (kind : FieldKind) : Field :=
      ⟨.text "c", .text "Color", kind, .text "", [⟨"r", .text "Red"⟩, ⟨"g", .text "Green"⟩]⟩
    (color .text).KeepsVerdict .startsWith (.list [.text "Red", .null]) (.text "re") ∧
    (color .number).KeepsVerdict .between (.text " 1e2 ") (.list [.int 7, .text "inf"]) ∧
    (color .checkbox).KeepsVerdict .multiselectAllIn (.list [.text "Red", .text "g", .text "blue"])
      (.list [.text "Green", .text "r"]) ∧
    (color .select).KeepsVerdict .notEquals (.tuple [.text "Red"]) (.text "g") := by
  intro color
  have hids (kind : FieldKind) : ∀ c ∈ (color kind).choices, c.id ≠ "" := by
    show ∀ c ∈ [Choice.mk "r" (.text "Red"), Choice.mk "g" (.text "Green")], c.id ≠ ""
    decide
  have hseveral : (Value.list [.text "Red", .text "g", .text "blue"]).Names ["Red", "g", "blue"] :=
    .several rfl (by decide)
  have hone : (Value.tuple [.text "Red"]).Names ["Red"] := .several rfl (by decide)
  refine ⟨?_, ?_, ?_, ?_⟩
  · exact (keepsVerdict_of_kind (color .text) _ _ _).1 (by decide)
  · exact (keepsVerdict_of_kind (color .number) _ _ _).2.1 rfl (by decide)
  · exact (keepsVerdict_of_kind (color .checkbox) _ _ _).2.2.1 rfl (hids _) (by decide)
      ⟨_, hseveral⟩
  · exact (keepsVerdict_of_kind (color .select) _ _ _).2.2.2 rfl (hids _) (by decide)
      ⟨_, hone, by decide⟩

end Field

end SubmissionRouting
