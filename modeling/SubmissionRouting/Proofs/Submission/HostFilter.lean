import SubmissionRouting.Proofs.Forwarding.Hosts
import SubmissionRouting.Proofs.Submission.Draft

/-! # The hosts that remain

Going through a roster keeps the ids of exactly those hosts that satisfy the condition, each once
(`KeptHosts`); this is what one host does to the ids kept so far (`KeptHosts.step`), and so what a
roster does (`KeptHosts.run`). A decision hands the ids on in one text (`ListsHosts`), which nothing
else replaces.

Whether a host must remain makes no difference before the very end (`decide_requiring`): the same
faults come up, the same hosts remain, and only a decision without a host turns into the fault that
carries it. -/

namespace SubmissionRouting

/-! ### Filtering a roster -/

/-- The ids are those of the hosts that satisfy a condition, each once. -/
structure KeptHosts (attributes : List Attribute) (query : Condition) (hosts : List Host)
    (ids : List Value) : Prop where
  sound : ∀ id ∈ ids, ∃ h ∈ hosts, h.id = id ∧ (h.satisfies attributes query).outcome = .ok true
  complete : ∀ h ∈ hosts, (h.satisfies attributes query).outcome = .ok true →
    h.id.isIn ids = true
  distinct : ids.Pairwise fun a b => Value.alike a b = false

section Filter
variable {attributes : List Attribute} {query : Condition}

/-- A host that satisfies the condition has its id added if it is new, and must have a key as its id;
any other host changes nothing. -/
theorem addSatisfying_cases {ids ids' : List Value} {h : Host}
    (hadd : (addSatisfying attributes query ids h).outcome = .ok ids') :
    ((h.satisfies attributes query).outcome = .ok false ∧ ids' = ids) ∨
      ((h.satisfies attributes query).outcome = .ok true ∧ h.id.isKey = true ∧
        ids' = if h.id.isIn ids then ids else ids ++ [h.id]) := by
  unfold addSatisfying at hadd
  rw [Journaled.outcome_bind] at hadd
  obtain ⟨verdict, hverdict, hadd⟩ := exists_of_bind_eq_ok hadd
  cases verdict with
  | false =>
    have hsame : ids = ids' := Except.ok.inj hadd
    exact Or.inl ⟨hverdict, hsame.symm⟩
  | true =>
    replace hadd : (liftM h.id.asKey >>= fun id : Value =>
      (pure (if id.isIn ids then ids else ids ++ [id]) : Journaled (List Value))).outcome =
        .ok ids' := hadd
    rw [Journaled.outcome_bind] at hadd
    obtain ⟨id, hid, hadd⟩ := exists_of_bind_eq_ok hadd
    obtain ⟨hkey, rfl⟩ := Value.isKey_of_asKey (orFault_eq_ok_iff.mp hid)
    have hids : (if h.id.isIn ids then ids else ids ++ [h.id]) = ids' := Except.ok.inj hadd
    exact Or.inr ⟨hverdict, hkey, hids.symm⟩

theorem isIn_append (v : Value) (vs ws : List Value) :
    v.isIn (vs ++ ws) = (v.isIn vs || v.isIn ws) := List.any_append

namespace KeptHosts

theorem nil (attributes : List Attribute) (query : Condition) :
    KeptHosts attributes query [] [] := ⟨nofun, nofun, List.Pairwise.nil⟩

/-- **One host** more leaves exactly those that satisfy the condition. -/
theorem step {hosts : List Host} {ids ids' : List Value} {h : Host}
    (hkept : KeptHosts attributes query hosts ids)
    (hadd : (addSatisfying attributes query ids h).outcome = .ok ids') :
    KeptHosts attributes query (hosts ++ [h]) ids' := by
  have hlater {g : Host} (hg : g ∈ hosts) : g ∈ hosts ++ [h] := List.mem_append_left _ hg
  have hlast : h ∈ hosts ++ [h] := List.mem_append_right _ List.mem_cons_self
  have hsound : ∀ id ∈ ids, ∃ g ∈ hosts ++ [h], g.id = id ∧
      (g.satisfies attributes query).outcome = .ok true := by
    intro id hid
    obtain ⟨g, hg, hgid, hsat⟩ := hkept.sound id hid
    exact ⟨g, hlater hg, hgid, hsat⟩
  rcases addSatisfying_cases hadd with ⟨hfalse, rfl⟩ | ⟨htrue, hkey, rfl⟩
  · refine ⟨hsound, fun g hg hsat => ?_, hkept.distinct⟩
    rcases List.mem_append.mp hg with hg | hg
    · exact hkept.complete g hg hsat
    · rw [List.mem_singleton.mp hg, hfalse] at hsat
      cases hsat
  · by_cases hin : h.id.isIn ids = true
    · rw [if_pos hin]
      refine ⟨hsound, fun g hg hsat => ?_, hkept.distinct⟩
      rcases List.mem_append.mp hg with hg | hg
      · exact hkept.complete g hg hsat
      · rw [List.mem_singleton.mp hg]; exact hin
    · rw [if_neg hin]
      have hself : h.id.isIn [h.id] = true := by
        simp [Value.isIn, Value.alike_self hkey]
      refine ⟨fun id hid => ?_, fun g hg hsat => ?_, ?_⟩
      · rcases List.mem_append.mp hid with hid | hid
        · exact hsound id hid
        · exact ⟨h, hlast, (List.mem_singleton.mp hid).symm, htrue⟩
      · rw [isIn_append, Bool.or_eq_true]
        rcases List.mem_append.mp hg with hg | hg
        · exact Or.inl (hkept.complete g hg hsat)
        · rw [List.mem_singleton.mp hg]; exact Or.inr hself
      · refine List.pairwise_append.mpr ⟨hkept.distinct, List.pairwise_singleton _ _, ?_⟩
        intro a ha b hb
        rw [List.mem_singleton.mp hb]
        have hnew : ids.any (fun w => Value.alike w h.id) = false := Bool.eq_false_iff.mpr hin
        exact Bool.eq_false_iff.mpr (List.any_eq_false.mp hnew a ha)

/-- **A roster** leaves exactly the hosts that satisfy the condition. -/
theorem run {hosts rest : List Host} {ids ids' : List Value}
    (hkept : KeptHosts attributes query hosts ids)
    (hrun : rest.foldlM (fun ids h => (addSatisfying attributes query ids h).outcome) ids =
      .ok ids') :
    KeptHosts attributes query (hosts ++ rest) ids' := by
  induction rest generalizing hosts ids with
  | nil =>
    have hsame : ids = ids' := Except.ok.inj hrun
    rw [List.append_nil, ← hsame]
    exact hkept
  | cons h rest ih =>
    rw [List.foldlM_cons] at hrun
    obtain ⟨mid, hmid, hrun⟩ := exists_of_bind_eq_ok hrun
    have hnext := ih (hkept.step hmid) hrun
    rwa [List.append_assoc] at hnext

end KeptHosts

theorem kept_of_filterHosts {hosts : List Host} {given : Option (List Attribute)}
    {ids : List Value} (h : (filterHosts query hosts given).outcome = .ok ids) :
    KeptHosts (given.getD (rosterAttributes hosts)) query hosts ids := by
  unfold filterHosts at h
  rw [Journaled.outcome_bind, Journaled.outcome_foldlM] at h
  obtain ⟨kept, hkept, h⟩ := exists_of_bind_eq_ok h
  have hsame : kept = ids := Except.ok.inj h
  rw [← hsame]
  exact (KeptHosts.nil _ query).run hkept

end Filter

/-! ### Handing the hosts on -/

/-- The text lists the ids: it holds their texts in some order, divided by commas. -/
def ListsHosts (ids : List Value) (line : String) : Prop :=
  ∃ (order : List Value) (texts : List String), order.Perm ids ∧
    order.mapM Value.shown = .ok texts ∧ line = ",".intercalate texts

theorem listsHosts_of_hostLine {ids : List Value} {line : String} (h : hostLine ids = .ok line) :
    ListsHosts ids line := by
  obtain ⟨order, _, texts, hperm, -, -, htexts, hline⟩ := linesUp_of_hostLine h
  exact ⟨order, texts, hperm, htexts, hline⟩

/-- **The hosts that remain are handed on** under the name for them. -/
theorem exists_hosts_parameter {response : Response} {fields : List Field}
    {address : List (Value × Value)} {ids : List Value} {hostsParam : Value}
    {controls : List Value} {params : Parameters}
    (h : forwardParameters response fields address (some ids) hostsParam controls = .ok params) :
    ∃ line, ListsHosts ids line ∧ Mapping.get? params hostsParam = some [.text line] := by
  obtain ⟨line, hline, hget⟩ := exists_hostLine_of_forwardParameters h
  exact ⟨line, listsHosts_of_hostLine hline, hget⟩

/-! ### With and without the demand for a host -/

namespace Submission

/-- The submission with the setting whether a host must remain. -/
def requiring (s : Submission) (required : Bool) : Submission :=
  { s with settings := { s.settings with requireEligibleHost := .bool required } }

theorem draft_requiring (s : Submission) (required : Bool) :
    (s.requiring required).draft = s.draft := rfl

theorem outcome_decide_requiring_false (s : Submission) :
    (s.requiring false).decide.outcome = s.draft := by
  rw [outcome_decide, draft_requiring]
  cases s.draft with
  | error e => rfl
  | ok d =>
    show (if !d.hasEligibleHosts && false then _ else _) = _
    rw [Bool.and_false, if_neg Bool.false_ne_true]

theorem outcome_decide_requiring_true (s : Submission) :
    (s.requiring true).decide.outcome = s.draft >>= fun d =>
      if d.hasEligibleHosts then .ok d else .error (.routing (.noEligibleHost d)) := by
  rw [outcome_decide, draft_requiring]
  cases s.draft with
  | error e => rfl
  | ok d =>
    show (if !d.hasEligibleHosts && true then Except.error (Fault.routing (.noEligibleHost d))
      else Except.ok d) =
        if d.hasEligibleHosts then Except.ok d else Except.error (Fault.routing (.noEligibleHost d))
    cases d.hasEligibleHosts <;> rfl

/-- **The two ways in which hosts are looked for**: nobody is filtered, as there is no roster or the
route leads to no event, or those remain that are left of the roster. -/
theorem eligibleHosts_cases {s : Submission} {r : RuleRoute} {remaining : Option (List Value)}
    (h : (s.eligibleHosts r).outcome = .ok remaining) :
    (remaining = none ∧ ¬ (s.hosts.isSome = true ∧ r.action.targetsEvent = true)) ∨
      ∃ hosts ids, s.hosts = some hosts ∧ r.action.targetsEvent = true ∧ remaining = some ids ∧
        (filterHosts r.attributesQuery hosts s.attributes).outcome = .ok ids := by
  unfold eligibleHosts at h
  cases hhosts : s.hosts with
  | none =>
    rw [hhosts] at h
    cases h
    exact .inl ⟨rfl, fun hboth => nomatch hboth.1⟩
  | some hosts =>
    simp only [hhosts] at h
    by_cases hevent : r.action.targetsEvent = true
    · rw [if_pos hevent] at h
      obtain ⟨ids, hids, h⟩ := exists_of_bind_eq_ok ((Journaled.outcome_bind _ _).symm.trans h)
      cases h
      exact .inr ⟨hosts, ids, rfl, hevent, rfl, hids⟩
    · rw [if_neg hevent] at h
      cases h
      exact .inl ⟨rfl, fun hboth => hevent hboth.2⟩

theorem eligibleHosts_isSome {s : Submission} {r : RuleRoute} {remaining : Option (List Value)}
    (h : (s.eligibleHosts r).outcome = .ok remaining) :
    remaining.isSome = true ↔ s.hosts.isSome = true ∧ r.action.targetsEvent = true := by
  rcases eligibleHosts_cases h with ⟨rfl, hnot⟩ | ⟨hosts, ids, hhosts, hevent, rfl, -⟩
  · exact iff_of_false nofun hnot
  · exact iff_of_true rfl ⟨Option.isSome_iff_exists.mpr ⟨hosts, hhosts⟩, hevent⟩

theorem kept_of_eligibleHosts {s : Submission} {r : RuleRoute} {hosts : List Host}
    {ids : List Value} (hhosts : s.hosts = some hosts)
    (h : (s.eligibleHosts r).outcome = .ok (some ids)) :
    KeptHosts (s.attributes.getD (rosterAttributes hosts)) r.attributesQuery hosts ids := by
  rcases eligibleHosts_cases h with ⟨hnone, -⟩ | ⟨roster, kept, hroster, -, hids, hkept⟩
  · cases hnone
  · cases hids
    cases hhosts.symm.trans hroster
    exact kept_of_filterHosts hkept

theorem hasEligibleHosts_eq_false_iff {d : Decision} :
    d.hasEligibleHosts = false ↔ d.matchedHosts = some [] := by
  unfold Decision.hasEligibleHosts
  cases d.matchedHosts with
  | none => simp
  | some ids => simp

/-- **The demand for a host changes a decision only if no host remains.** Without it and with it,
deciding fails alike, or neither fails before it is asked whether a host remains. A decision made
without the demand knows the hosts that remain if and only if there is a roster and the selected route
leads to an event; they are those that satisfy the route's condition on hosts, and they are handed on.
With the demand, the decision is the same, or it is carried by the fault that no host remains. -/
theorem decide_requiring (s : Submission) :
    (∀ e, (s.requiring false).decide.outcome = .error e →
      (s.requiring true).decide.outcome = .error e) ∧
    (∀ e, (s.requiring true).decide.outcome = .error e →
      (s.requiring false).decide.outcome = .error e ∨
        ∃ d, (s.requiring false).decide.outcome = .ok d ∧ e = .routing (.noEligibleHost d)) ∧
    ∀ d, (s.requiring false).decide.outcome = .ok d →
      (∃ response selection, s.Drafted response selection d ∧
        (d.matchedHosts.isSome = true ↔
          s.hosts.isSome = true ∧ selection.route.action.targetsEvent = true) ∧
        ∀ hosts ids, s.hosts = some hosts → d.matchedHosts = some ids →
          KeptHosts (s.attributes.getD (rosterAttributes hosts)) selection.route.attributesQuery
            hosts ids ∧
          ∃ line, ListsHosts ids line ∧
            Mapping.get? d.parameters s.settings.hostsParam = some [.text line]) ∧
      (d.matchedHosts = some [] →
        (s.requiring true).decide.outcome = .error (.routing (.noEligibleHost d))) ∧
      (d.matchedHosts ≠ some [] → (s.requiring true).decide.outcome = .ok d) := by
  rw [outcome_decide_requiring_false, outcome_decide_requiring_true]
  refine ⟨fun e he => by rw [he]; rfl, fun e he => ?_, fun d hd => ⟨?_, fun hnone => ?_,
    fun hsome => ?_⟩⟩
  · cases hdraft : s.draft with
    | error cause =>
      rw [hdraft] at he
      cases he
      exact Or.inl rfl
    | ok d =>
      rw [hdraft] at he
      replace he : (if d.hasEligibleHosts then Except.ok d
        else .error (.routing (.noEligibleHost d))) = .error e := he
      split at he
      · cases he
      · exact Or.inr ⟨d, rfl, (Except.error.inj he).symm⟩
  · obtain ⟨response, selection, hdrafted⟩ := exists_drafted hd
    refine ⟨response, selection, hdrafted, eligibleHosts_isSome hdrafted.hosts, ?_⟩
    intro hosts ids hhosts hids
    have heligible := hdrafted.hosts
    have hparameters := hdrafted.parameters
    rw [hids] at heligible hparameters
    exact ⟨kept_of_eligibleHosts hhosts heligible, exists_hosts_parameter hparameters⟩
  · have hfew : d.hasEligibleHosts = false := hasEligibleHosts_eq_false_iff.mpr hnone
    show (s.draft >>= _) = _
    rw [hd]
    show (if d.hasEligibleHosts then _ else _) = _
    rw [hfew]
    rfl
  · have hmany : d.hasEligibleHosts = true := by
      rw [← Bool.not_eq_false, hasEligibleHosts_eq_false_iff]
      exact hsome
    rw [hd]
    show (if d.hasEligibleHosts then _ else _) = _
    rw [if_pos hmany]

end Submission

end SubmissionRouting
