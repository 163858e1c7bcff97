import SubmissionRouting.Proofs.FirstFault
import SubmissionRouting.Proofs.Value.Keys
import SubmissionRouting.Response
import Mathlib.Data.List.Induction

/-! # Answers

Of several answers to one field the last counts (`RawResponse.answer?`). A response that was put into
the types of the fields holds at every field the answer to that field in the type of the field, and
nothing where there is no answer or no such field (`get?_of_normalizeResponse`). So it depends, at
each field, on the answer to this field alone, and not on the order of the answers. -/

namespace SubmissionRouting

/-- The answer to a field; of several the last. -/
def RawResponse.answer? (raw : RawResponse) (x : Value) : Option Value :=
  match raw.answers with
  | .ok answers => Mapping.get? answers.reverse x
  | .error _ => none

/-- An answer in the type of the field that the catalog has. -/
def typedAnswer? (catalog : Mapping Field) (x answer : Value) : Option Value :=
  match catalog.get? x with
  | none => none
  | some f => (f.normalize answer).outcome.toOption

section
variable {catalog : Mapping Field}

theorem typedAnswer?_of_none {x : Value} (h : catalog.get? x = none) (answer : Value) :
    typedAnswer? catalog x answer = none := by
  unfold typedAnswer?
  rw [h]

theorem typedAnswer?_of_some {x answer v : Value} {f : Field} (h : catalog.get? x = some f)
    (hv : (f.normalize answer).outcome = .ok v) : typedAnswer? catalog x answer = some v := by
  unfold typedAnswer?
  rw [h]
  dsimp only
  rw [hv]
  rfl

/-- **One answer more** counts at the field that it is for, if there is such a field. -/
theorem get?_of_addAnswer {response response' : Response} {answer : Value × Value}
    (h : (addAnswer catalog response answer).outcome = .ok response') (x : Value) :
    response'.get? x =
      if answer.1.alike x && (catalog.get? x).isSome then typedAnswer? catalog x answer.2
      else response.get? x := by
  unfold addAnswer at h
  rw [Journaled.outcome_bind] at h
  obtain ⟨id, hid, h⟩ := exists_of_bind_eq_ok h
  obtain ⟨hkey, hid⟩ := Value.isKey_of_asKey (orFault_eq_ok_iff.mp hid)
  rw [hid] at h
  have hfield (halike : answer.1.alike x = true) : catalog.get? x = catalog.get? answer.1 :=
    (Mapping.get?_congr hkey halike catalog).symm
  cases hf : catalog.get? answer.1 with
  | none =>
    rw [hf, Journaled.outcome_bind, Journaled.outcome_note] at h
    have hsame : response = response' := Except.ok.inj h
    rw [hsame, if_neg]
    intro hcond
    rw [Bool.and_eq_true] at hcond
    rw [hfield hcond.1, hf] at hcond
    cases hcond.2
  | some f =>
    rw [hf, Journaled.outcome_bind] at h
    obtain ⟨v, hv, h⟩ := exists_of_bind_eq_ok h
    have hput : Mapping.put response answer.1 v = response' := Except.ok.inj h
    rw [← hput, Mapping.get?_put hkey]
    by_cases halike : answer.1.alike x = true
    · have hsome : catalog.get? x = some f := (hfield halike).trans hf
      rw [typedAnswer?_of_some hsome hv, hsome, halike]
      rfl
    · rw [if_neg halike, Bool.eq_false_iff.mpr halike]
      rfl

/-- **A run through the answers** leaves at each field the last answer to it, typed. -/
theorem get?_of_addAnswers {answers : List (Value × Value)} {response : Response}
    (h : answers.foldlM (fun response a => (addAnswer catalog response a).outcome) [] =
      .ok response) (x : Value) :
    response.get? x = (Mapping.get? answers.reverse x).bind (typedAnswer? catalog x) := by
  -- from the end, since the last answer is the one that counts
  induction answers using List.reverseRecOn generalizing response with
  | nil =>
    have hnil : [] = response := Except.ok.inj h
    rw [← hnil]
    rfl
  | append_singleton answers answer ih =>
    rw [List.foldlM_append] at h
    obtain ⟨before, hbefore, h⟩ := exists_of_bind_eq_ok h
    rw [List.foldlM_cons] at h
    obtain ⟨after, hafter, h⟩ := exists_of_bind_eq_ok h
    have hlast : after = response := Except.ok.inj h
    have hstep := get?_of_addAnswer hafter x
    rw [ih hbefore, hlast] at hstep
    rw [hstep, List.reverse_append, List.reverse_singleton, List.singleton_append,
      Mapping.get?_cons]
    cases hf : catalog.get? x with
    | none =>
      have hnothing : typedAnswer? catalog x = fun _ => none :=
        funext (typedAnswer?_of_none hf)
      simp [hnothing]
    | some f =>
      rw [Option.isSome_some, Bool.and_true]
      split <;> rfl

end

/-- **A response holds the typed answers.** -/
theorem get?_of_normalizeResponse {fields : List Field} {raw : RawResponse} {response : Response}
    (h : (normalizeResponse fields raw).outcome = .ok response) :
    ∃ catalog, fieldsById fields = .ok catalog ∧
      ∀ x, response.get? x = (raw.answer? x).bind (typedAnswer? catalog x) := by
  unfold normalizeResponse at h
  rw [Journaled.outcome_bind] at h
  obtain ⟨catalog, hcatalog, h⟩ := exists_of_bind_eq_ok h
  rw [Journaled.outcome_bind] at h
  obtain ⟨answers, hanswers, h⟩ := exists_of_bind_eq_ok h
  rw [Journaled.outcome_foldlM] at h
  refine ⟨catalog, orFault_eq_ok_iff.mp hcatalog, fun x => ?_⟩
  have hraw : raw.answers = .ok answers := orFault_eq_ok_iff.mp hanswers
  unfold RawResponse.answer?
  rw [hraw]
  exact get?_of_addAnswers h x

/-- **At a field that was answered alike, two responses hold the same.** -/
theorem get?_eq_of_answer?_eq {fields : List Field} {raw raw' : RawResponse}
    {response response' : Response} (h : (normalizeResponse fields raw).outcome = .ok response)
    (h' : (normalizeResponse fields raw').outcome = .ok response') {x : Value}
    (hx : raw.answer? x = raw'.answer? x) : response.get? x = response'.get? x := by
  obtain ⟨catalog, hcatalog, hget⟩ := get?_of_normalizeResponse h
  obtain ⟨catalog', hcatalog', hget'⟩ := get?_of_normalizeResponse h'
  have hsame : catalog = catalog' := Except.ok.inj (hcatalog.symm.trans hcatalog')
  rw [hget, hget', hx, hsame]

end SubmissionRouting
