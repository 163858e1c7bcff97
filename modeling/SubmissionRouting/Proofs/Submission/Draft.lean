import SubmissionRouting.Routing.Submission
import SubmissionRouting.Proofs.FirstFault

/-! # Drafts of decisions

Up to the question whether a host remains, deciding on a submission makes a *draft*
(`Submission.draft`): the response is put into the types of the form, a route is selected, hosts are
filtered, and the parameters are put together. The draft is the decision, or the fault that no host
remains (`outcome_decide`). `Drafted` holds all that a draft was made from. -/

namespace SubmissionRouting

namespace Submission

/-- The decision before it is asked whether a host remains. -/
def draft (s : Submission) : Result Decision := do
  let response ← (normalizeResponse s.form.fields s.raw).outcome
  let selection ← (s.select response).outcome
  let hosts ← (s.eligibleHosts selection.route).outcome
  let parameters ← orFault (forwardParameters response s.form.fields s.address hosts
    s.settings.hostsParam s.settings.controlParams)
  pure ⟨selection.route.action, selection.route.id, selection.matchedBy, selection.chain, hosts,
    parameters⟩

/-- What becomes of a draft: it is a fault if no host remains but one must. -/
def conclude (s : Submission) (d : Decision) : Result Decision :=
  if !d.hasEligibleHosts && s.settings.requireEligibleHost.isTruthy then
    .error (.routing (.noEligibleHost d))
  else .ok d

/-- **Deciding makes a draft and concludes it.** -/
theorem outcome_decide (s : Submission) : s.decide.outcome = s.draft >>= s.conclude := by
  have hconclude (d : Decision) : Journaled.outcome
      (if !d.hasEligibleHosts && s.settings.requireEligibleHost.isTruthy then do
        Journaled.write .warning .submission
          ("No eligible host for route " ++ d.routeId ++ " of form " ++ s.form.id)
        Journaled.fail (.routing (.noEligibleHost d))
      else pure d) = s.conclude d := by
    unfold conclude
    split <;> rfl
  unfold decide draft
  simp only [Journaled.outcome_bind, Journaled.outcome_liftM_misuse, bind_assoc, pure_bind]
  simp only [← hconclude]

/-- What a draft was made from: the response in the types of the form, and the selection for it. -/
structure Drafted (s : Submission) (response : Response) (selection : Selection) (d : Decision) :
    Prop where
  normalized : (normalizeResponse s.form.fields s.raw).outcome = .ok response
  selected : (s.select response).outcome = .ok selection
  action : d.action = selection.route.action
  routeId : d.routeId = selection.route.id
  matchedBy : d.matchedBy = selection.matchedBy
  chain : d.chain = selection.chain
  hosts : (s.eligibleHosts selection.route).outcome = .ok d.matchedHosts
  parameters : forwardParameters response s.form.fields s.address d.matchedHosts
    s.settings.hostsParam s.settings.controlParams = .ok d.parameters

theorem exists_drafted {s : Submission} {d : Decision} (h : s.draft = .ok d) :
    ∃ response selection, s.Drafted response selection d := by
  obtain ⟨response, hresponse, h⟩ := exists_of_bind_eq_ok h
  obtain ⟨selection, hselection, h⟩ := exists_of_bind_eq_ok h
  obtain ⟨hosts, hhosts, h⟩ := exists_of_bind_eq_ok h
  obtain ⟨parameters, hparameters, h⟩ := exists_of_bind_eq_ok h
  cases h
  exact ⟨response, selection, hresponse, hselection, rfl, rfl, rfl, rfl, hhosts,
    orFault_eq_ok_iff.mp hparameters⟩

end Submission

end SubmissionRouting
