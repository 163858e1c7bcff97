import SubmissionRouting.Proofs.Forwarding.Parameters
import SubmissionRouting.Proofs.Response.Answers
import SubmissionRouting.Proofs.Response.Typed

/-! # Responses in the types of their fields

What is handed in lists answers: one by one, or by field, where an answer may stand in a mapping
(`RawResponse.Lists`). Each answer to a field that the form has is typed and put under the id of the
field, and a later answer replaces an earlier one without changing its place. So the keys of the
response are the ids that were answered, each at the place of its first answer, with what the last
answer became (`TypedAnswers`); there is a response if and only if every answer can be typed
(`normalizeResponse_stable`). -/

namespace SubmissionRouting

/-! ### What is handed in -/

/-- The fields of a form have different ids, which can stand as keys. -/
structure DistinctFields (fields : List Field) : Prop where
  keys : ∀ f ∈ fields, f.id.isKey = true
  distinct : fields.Pairwise fun f g => f.id.alike g.id = false

/-- What an answer is: what stands under the key `value` if it is a mapping with this key, and else the
answer as it stands there. -/
inductive Unwraps : Value → Value → Prop where
  | wrapped {v w : Value} {es : List (Value × Value)} (hv : v.opened = .map es)
    (hw : Value.member? es "value" = some w) : Unwraps v w
  | bare {v : Value} (h : ∀ es, v.opened = .map es → Value.member? es "value" = none) : Unwraps v v

theorem Unwraps.eq {v w : Value} (h : Unwraps v w) : RawResponse.unwrapped v = w := by
  unfold RawResponse.unwrapped
  cases h with
  | wrapped hv hw =>
    rw [hv]
    dsimp only
    rw [hw]
    rfl
  | bare hbare =>
    split
    · next es hes => rw [hbare es hes]; rfl
    · rfl

namespace RawResponse

/-- The answers that are handed in, with the ids of the fields: an answer is unwrapped once if answers are
handed in by field. -/
inductive Lists : RawResponse → List (Value × Value) → Prop where
  | inTurn (answers : List (Value × Value)) : Lists (.inTurn answers) answers
  | byField {es : Mapping Value} {answers : List (Value × Value)}
    (h : List.Forall₂ (fun e a => a.1 = e.1 ∧ Unwraps e.2 a.2) es answers) : Lists (.byField es) answers

theorem Lists.answers_eq {raw : RawResponse} {answers : List (Value × Value)}
    (h : raw.Lists answers) : raw.answers = .ok answers := by
  cases h with
  | inTurn => rfl
  | byField h =>
    refine congrArg Except.ok ?_
    induction h with
    | nil => rfl
    | cons hea _ ih =>
      rw [List.map_cons, ih, hea.2.eq, ← hea.1]

end RawResponse

/-! ### One answer after the other -/

section
variable {catalog : Mapping Field} {answers : List (Value × Value)}

theorem outcome_addAnswer (response : Response) {answer : Value × Value}
    (hkey : answer.1.isKey = true) :
    (addAnswer catalog response answer).outcome =
      match catalog.get? answer.1 with
      | none => .ok response
      | some f => (f.normalize answer.2).outcome.map fun n => response.put answer.1 n := by
  unfold addAnswer
  rw [Journaled.outcome_bind, Journaled.outcome_liftM_misuse, Value.asKey_of_isKey hkey]
  show Journaled.outcome (match catalog.get? answer.1 with
    | none => _
    | some f => _) = _
  cases catalog.get? answer.1 with
  | none =>
    dsimp only
    rw [Journaled.outcome_bind, Journaled.outcome_note]
    rfl
  | some f =>
    dsimp only
    rw [Journaled.outcome_bind]
    cases (f.normalize answer.2).outcome <;> rfl

theorem exists_addAnswer_iff (catalog : Mapping Field) (response : Response) {answer : Value × Value}
    (hkey : answer.1.isKey = true) :
    (∃ response', (addAnswer catalog response answer).outcome = .ok response') ↔
      ∀ f, catalog.get? answer.1 = some f → ∃ n, (f.normalize answer.2).outcome = .ok n := by
  rw [outcome_addAnswer response hkey]
  cases catalog.get? answer.1 with
  | none => exact iff_of_true ⟨response, rfl⟩ nofun
  | some f =>
    dsimp only
    rw [exists_ok_map_iff]
    simp

theorem keys_of_addAnswer {response response' : Response} {answer : Value × Value}
    (hkey : answer.1.isKey = true)
    (h : (addAnswer catalog response answer).outcome = .ok response') :
    response'.keys =
      if (catalog.get? answer.1).isSome then Value.noted response.keys answer.1 else response.keys := by
  rw [outcome_addAnswer response hkey] at h
  cases hf : catalog.get? answer.1 with
  | none =>
    rw [hf] at h
    rw [← Except.ok.inj h]
    rfl
  | some f =>
    rw [hf] at h
    dsimp only at h
    obtain ⟨n, -, rfl⟩ := exists_of_map_eq_ok h
    exact Mapping.keys_put_eq_noted response answer.1 n

/-- **A run through the answers** notes the ids of the fields that are answered. -/
theorem keys_of_addAnswers (hkeys : ∀ a ∈ answers, a.1.isKey = true) {response response' : Response}
    (h : answers.foldlM (fun response a => (addAnswer catalog response a).outcome) response =
      .ok response') :
    response'.keys =
      ((answers.map (·.1)).filter fun id => (catalog.get? id).isSome).foldl Value.noted
        response.keys := by
  induction answers generalizing response with
  | nil =>
    rw [← Except.ok.inj h]
    rfl
  | cons a answers ih =>
    obtain ⟨ha, hanswers⟩ := List.forall_mem_cons.mp hkeys
    rw [List.foldlM_cons] at h
    obtain ⟨next, hnext, h⟩ := exists_of_bind_eq_ok h
    rw [ih hanswers h, keys_of_addAnswer ha hnext, List.map_cons, List.filter_cons]
    split_ifs <;> rfl

end

/-! ### Whole responses -/

namespace DistinctFields

variable {fields : List Field} {f g : Field}

theorem eq_of_alike (h : DistinctFields fields) (hf : f ∈ fields) (hg : g ∈ fields)
    (hid : f.id.alike g.id = true) : f = g := by
  obtain ⟨hkeys, hdistinct⟩ := h
  have hapart {f g : Field} (hfg : f.id.alike g.id = false) (hid : f.id.alike g.id = true) :
      f = g := by
    rw [hfg] at hid
    cases hid
  induction hdistinct with
  | nil => cases hf
  | cons hhead _ ih =>
    rcases List.mem_cons.mp hf with rfl | hf'
    · rcases List.mem_cons.mp hg with rfl | hg'
      · rfl
      · exact hapart (hhead g hg') hid
    · rcases List.mem_cons.mp hg with rfl | hg'
      · rw [Value.alike_comm (hkeys f hf)] at hid
        exact (hapart (hhead f hf') hid).symm
      · exact ih hf' hg' fun x hx => hkeys x (List.mem_cons_of_mem _ hx)

theorem lastField?_eq_some_iff (h : DistinctFields fields) {x : Value} :
    lastField? fields x = some f ↔ f ∈ fields ∧ f.id.alike x = true := by
  have hfound {g : Field} (hg : lastField? fields x = some g) : g ∈ fields ∧ g.id.alike x = true := by
    have hfind : (fields.reverse.find? fun g => g.id.alike x) = some g := hg
    exact ⟨List.mem_reverse.mp (List.mem_of_find?_eq_some hfind), by simpa using List.find?_some hfind⟩
  constructor
  · exact hfound
  · rintro ⟨hmem, hid⟩
    have hsome : (fields.reverse.find? fun g => g.id.alike x).isSome = true :=
      List.find?_isSome.mpr ⟨f, List.mem_reverse.mpr hmem, hid⟩
    obtain ⟨g, hg⟩ := Option.isSome_iff_exists.mp hsome
    obtain ⟨hgmem, hgid⟩ := hfound hg
    have hfg : f.id.alike g.id = true := by
      rw [Value.alike_congr_left (h.keys f hmem) hid, ← Value.alike_comm (h.keys g hgmem)]
      exact hgid
    rw [h.eq_of_alike hmem hgmem hfg]
    exact hg

end DistinctFields

/-- A response holds, under each id that was answered, what the last answer to it has become. -/
structure TypedAnswers (fields : List Field) (answers : List (Value × Value)) (response : Response) :
    Prop where
  /-- The keys are the ids of fields that were answered, in the order of the first answers. -/
  keys : response.keys =
    Value.distinct ((answers.map (·.1)).filter fun id => fields.any fun f => f.id.alike id)
  /-- Under the id of a field stands its last answer in the type of the field. -/
  last : ∀ f ∈ fields, ∀ v, Mapping.get? answers.reverse f.id = some v →
    ∃ n, (f.normalize v).outcome = .ok n ∧ response.get? f.id = some n

section
variable {fields : List Field} {raw : RawResponse} {answers : List (Value × Value)}

theorem exists_normalizeResponse_eq (hfields : DistinctFields fields) (hraw : raw.Lists answers) :
    ∃ catalog : Mapping Field,
      (∀ x f, catalog.get? x = some f ↔ f ∈ fields ∧ f.id.alike x = true) ∧
      (normalizeResponse fields raw).outcome =
        answers.foldlM (fun response a => (addAnswer catalog response a).outcome) [] := by
  obtain ⟨catalog, hcatalog, hget⟩ := fieldsById_eq hfields.keys
  refine ⟨catalog, fun x f => ?_, ?_⟩
  · rw [hget]
    exact hfields.lastField?_eq_some_iff
  · unfold normalizeResponse
    rw [Journaled.outcome_bind, Journaled.outcome_liftM_misuse, hcatalog]
    show Journaled.outcome (liftM raw.answers >>= _) = _
    rw [Journaled.outcome_bind, Journaled.outcome_liftM_misuse, hraw.answers_eq]
    exact Journaled.outcome_foldlM _ _ _

/-- **There is a response** if and only if every answer to a field can be put into its type. -/
theorem exists_normalizeResponse_iff (hfields : DistinctFields fields) (hraw : raw.Lists answers)
    (hids : ∀ a ∈ answers, a.1.isKey = true) :
    (∃ response, (normalizeResponse fields raw).outcome = .ok response) ↔
      ∀ a ∈ answers, ∀ f ∈ fields, f.id.alike a.1 = true → f.Readable a.2 := by
  obtain ⟨catalog, hget, houtcome⟩ := exists_normalizeResponse_eq hfields hraw
  have hsteps := fun a (ha : a ∈ answers) (response : Response) =>
    exists_addAnswer_iff catalog response (hids a ha)
  rw [houtcome]
  refine (exists_ok_foldlM_iff hsteps []).trans ?_
  simp only [hget, Field.exists_normalize_iff, and_imp]

/-- **A response holds the last answers**, typed, in the order of the first answers. -/
theorem typedAnswers_of_normalizeResponse (hfields : DistinctFields fields)
    (hraw : raw.Lists answers) (hids : ∀ a ∈ answers, a.1.isKey = true) {response : Response}
    (h : (normalizeResponse fields raw).outcome = .ok response) :
    TypedAnswers fields answers response := by
  have hread := (exists_normalizeResponse_iff hfields hraw hids).mp ⟨response, h⟩
  obtain ⟨catalog, hget, houtcome⟩ := exists_normalizeResponse_eq hfields hraw
  rw [houtcome] at h
  constructor
  · have hknown : (fun id => (catalog.get? id).isSome) = fun id => fields.any fun f => f.id.alike id := by
      funext id
      rw [Bool.eq_iff_iff, Option.isSome_iff_exists, List.any_eq_true]
      simp only [hget]
    rw [keys_of_addAnswers hids h, hknown]
    rfl
  · intro f hf v hv
    have hfield : catalog.get? f.id = some f :=
      (hget f.id f).mpr ⟨hf, Value.alike_self (hfields.keys f hf)⟩
    obtain ⟨a, ha, hav⟩ := Option.map_eq_some_iff.mp hv
    have hmem : a ∈ answers := List.mem_reverse.mp (List.mem_of_find?_eq_some ha)
    have hid : f.id.alike a.1 = true := by
      rw [Value.alike_comm (hfields.keys f hf)]
      simpa using List.find?_some ha
    obtain ⟨n, hn⟩ := (f.exists_normalize_iff a.2).mpr (hread a hmem f hf hid)
    rw [hav] at hn
    refine ⟨n, hn, ?_⟩
    rw [get?_of_addAnswers h f.id, hv]
    exact typedAnswer?_of_some hfield hn

end

/-- **Responses are typed, and stay so.** There is a response if and only if every answer to a field can
be put into its type, and it holds the last answers. An answer can be put into the type of a field if
and only if every value considered has a text, which only integers with too many digits take from it;
then it has the form that the type says, and typing it again drops empty ids and nothing else. -/
theorem normalizeResponse_stable :
    (∀ (fields : List Field) (raw : RawResponse) (answers : List (Value × Value)),
      DistinctFields fields → raw.Lists answers → (∀ a ∈ answers, a.1.isKey = true) →
      ((∃ response, (normalizeResponse fields raw).outcome = .ok response) ↔
        ∀ a ∈ answers, ∀ f ∈ fields, f.id.alike a.1 = true → f.Readable a.2) ∧
      ∀ response, (normalizeResponse fields raw).outcome = .ok response →
        TypedAnswers fields answers response) ∧
    ∀ (f : Field) (v : Value),
      ((∃ n, (f.normalize v).outcome = .ok n) ↔ f.Readable v) ∧
      (¬ f.Readable v → ∃ w ∈ f.considered v, w.HoldsTooLong) ∧
      ∀ n, (f.normalize v).outcome = .ok n → f.Typed n ∧ f.Retyped v n := by
  refine ⟨fun fields raw answers hfields hraw hids => ⟨?_, ?_⟩, fun f v => ⟨?_, ?_, ?_⟩⟩
  · exact exists_normalizeResponse_iff hfields hraw hids
  · intro response h
    exact typedAnswers_of_normalizeResponse hfields hraw hids h
  · exact f.exists_normalize_iff v
  · exact Field.exists_holdsTooLong
  · intro n h
    exact ⟨Field.typed_of_normalize h, Field.retyped_of_normalize h⟩

/-- A field where several choices are made, and one of them has an empty id. -/
def someOrNone : Field :=
  ⟨.text "c", .text "C", .multiselect, .text "", [⟨"", .text "none"⟩, ⟨"a", .text "A"⟩]⟩

/-- Both choices, by their labels. -/
def bothLabels : Value := .list [.text "none", .text "A"]

/-- Labels become ids, and of these the empty one is dropped the second time. -/
theorem normalizeResponse_stable_of_labels :
    DistinctFields [someOrNone] ∧
    RawResponse.Lists (.byField [(.text "c", .map [(.text "value", bothLabels)])])
      [(.text "c", bothLabels)] ∧
    (∃ response, (normalizeResponse [someOrNone]
        (.byField [(.text "c", .map [(.text "value", bothLabels)])])).outcome = .ok response ∧
      TypedAnswers [someOrNone] [(.text "c", bothLabels)] response) ∧
    (someOrNone.normalize bothLabels).outcome = .ok (.tuple [.text "", .text "a"]) ∧
    (someOrNone.normalize (.tuple [.text "", .text "a"])).outcome = .ok (.tuple [.text "a"]) := by
  obtain ⟨hresponses, hvalues⟩ := normalizeResponse_stable
  have hfields : DistinctFields [someOrNone] := ⟨by decide, List.pairwise_singleton _ _⟩
  have hraw : RawResponse.Lists (.byField [(.text "c", .map [(.text "value", bothLabels)])])
      [(.text "c", bothLabels)] :=
    .byField (.cons ⟨rfl, .wrapped rfl rfl⟩ .nil)
  obtain ⟨hexists, htyped⟩ := hresponses _ _ _ hfields hraw (by decide)
  have hids : (someOrNone.normalize bothLabels).outcome = .ok (.tuple [.text "", .text "a"]) := rfl
  have hread : someOrNone.Readable bothLabels := (hvalues _ _).1.mp ⟨_, hids⟩
  obtain ⟨response, h⟩ := hexists.mpr (by simpa using fun _ => hread)
  obtain ⟨-, hagain⟩ := (hvalues _ _).2.2 _ hids
  exact ⟨hfields, hraw, ⟨response, h, htyped response h⟩, hids, hagain.dropped rfl ["", "a"] rfl⟩

/-- A field where one choice is made. -/
def oneOfNone : Field := ⟨.text "c", .text "C", .select, .text "", []⟩

/-- An integer with too many digits has no text to be a choice, so there is no response. -/
theorem no_response_of_many_digits :
    DistinctFields [oneOfNone] ∧
    ¬ ∃ response, (normalizeResponse [oneOfNone]
      (.byField [(.text "c", .int (Nat.pow 10 Text.digitLimit))])).outcome = .ok response := by
  have hfields : DistinctFields [oneOfNone] := ⟨by decide, List.pairwise_singleton _ _⟩
  generalize hn : Nat.pow 10 Text.digitLimit = n
  have hraw : RawResponse.Lists (.byField [(.text "c", .int n)]) [(.text "c", .int n)] :=
    .byField (.cons ⟨rfl, .bare nofun⟩ .nil)
  refine ⟨hfields, fun h => ?_⟩
  have hread := (exists_normalizeResponse_iff hfields hraw (by simp [Value.isKey])).mp h
  have hconsidered : oneOfNone.considered (.int n) = [.int n] := rfl
  obtain ⟨s, hs⟩ := hread (.text "c", .int n) (by simp) oneOfNone (by simp) rfl (.int n)
    (by simp [hconsidered])
  rw [Value.shown_of_many_digits hn.le] at hs
  cases hs

end SubmissionRouting
