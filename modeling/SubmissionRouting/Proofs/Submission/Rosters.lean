import SubmissionRouting.Proofs.Condition.Mentioned
import SubmissionRouting.Proofs.Condition.Pruning
import SubmissionRouting.Proofs.Submission.HostFilter
import SubmissionRouting.Proofs.Value.Filling

/-! # Rosters, host by host

Every host of a roster is judged on its own, and the ids of those for which the judgement holds remain
(`FilteredBy`). So a roster in two parts leaves what its parts leave, and neither the order of the hosts
nor their number matters.

The judgement itself depends on the roster where the team does not say which attributes it has: an
attribute that some host has a value for is a text for all hosts (`Host.textContext`), and only rules on
attributes that nobody has are dropped (`Host.suits`). It does so by the attributes that are carried and
nothing else (`judgedAmong_congr`), and `filterHosts_per_host` says what follows. -/

namespace SubmissionRouting

/-! ### Lists of ids as sets -/

/-- The results are lists with the same members, or neither is a list. -/
structure SameMembers (x y : Result (List Value)) : Prop where
  defined : (∃ ids, x = .ok ids) ↔ ∃ ids, y = .ok ids
  same : ∀ ids ids', x = .ok ids → y = .ok ids' → ∀ v : Value, v.isIn ids = v.isIn ids'

/-- The first result is a list if the two others are, and then has the members of both. -/
structure UnionOf (x y z : Result (List Value)) : Prop where
  defined : (∃ ids, x = .ok ids) ↔ (∃ ids, y = .ok ids) ∧ ∃ ids, z = .ok ids
  union : ∀ ids ids₁ ids₂, x = .ok ids → y = .ok ids₁ → z = .ok ids₂ →
    ∀ v : Value, v.isIn ids = (v.isIn ids₁ || v.isIn ids₂)

/-! ### Judging hosts -/

/-- A judgement on a host is reached, and if the host stays, its id is a key. -/
def Host.Passes (judge : Host → Result Bool) (h : Host) : Prop :=
  ∃ b, judge h = .ok b ∧ (b = true → h.id.isKey = true)

/-- The result is the list of the ids of those hosts for which a judgement holds; there is none if a host
cannot be judged. -/
structure FilteredBy (judge : Host → Result Bool) (hosts : List Host) (x : Result (List Value)) :
    Prop where
  defined : (∃ ids, x = .ok ids) ↔ ∀ h ∈ hosts, h.Passes judge
  members : ∀ ids, x = .ok ids → ∀ v : Value,
    v.isIn ids = true ↔ ∃ h ∈ hosts, h.id.alike v = true ∧ judge h = .ok true

section
variable {judge judge' : Host → Result Bool} {hosts others : List Host}
  {x y z : Result (List Value)}

namespace FilteredBy

theorem congr (h : FilteredBy judge hosts x) (hsame : ∀ g ∈ hosts, judge g = judge' g) :
    FilteredBy judge' hosts x where
  defined := h.defined.trans <| forall₂_congr fun g hg => by
    unfold Host.Passes
    rw [hsame g hg]
  members := fun ids hids v => (h.members ids hids v).trans <|
    exists_congr fun g => and_congr_right fun hg => by rw [hsame g hg]

/-- **Two parts of a roster** leave what they leave together. -/
theorem append (h : FilteredBy judge (hosts ++ others) x) (hy : FilteredBy judge hosts y)
    (hz : FilteredBy judge others z) : UnionOf x y z where
  defined := by
    rw [h.defined, hy.defined, hz.defined]
    exact List.forall_mem_append
  union := by
    intro ids ids₁ ids₂ hids h₁ h₂ v
    rw [Bool.eq_iff_iff, Bool.or_eq_true, h.members ids hids, hy.members ids₁ h₁,
      hz.members ids₂ h₂]
    constructor
    · rintro ⟨g, hg, hkept⟩
      rcases List.mem_append.mp hg with hg | hg
      · exact .inl ⟨g, hg, hkept⟩
      · exact .inr ⟨g, hg, hkept⟩
    · rintro (⟨g, hg, hkept⟩ | ⟨g, hg, hkept⟩)
      · exact ⟨g, List.mem_append_left _ hg, hkept⟩
      · exact ⟨g, List.mem_append_right _ hg, hkept⟩

/-- **Rosters with the same hosts** leave the same, in whatever order and how often a host is listed. -/
theorem sameMembers (hx : FilteredBy judge hosts x) (hy : FilteredBy judge others y)
    (hmem : ∀ h, h ∈ hosts ↔ h ∈ others) : SameMembers x y where
  defined := by
    rw [hx.defined, hy.defined]
    exact forall_congr' fun h => by rw [hmem h]
  same := by
    intro ids ids' hids hids' v
    rw [Bool.eq_iff_iff, hx.members ids hids, hy.members ids' hids']
    exact exists_congr fun h => by rw [hmem h]

end FilteredBy

end

section
variable {attributes : List Attribute} {query : Condition} {h : Host} {hosts : List Host}

/-- The judgement of a condition on the values of a host, given the attributes. -/
def judged (attributes : List Attribute) (query : Condition) (h : Host) : Result Bool :=
  (h.satisfies attributes query).outcome

theorem exists_addSatisfying_iff (ids : List Value) :
    (∃ ids', (addSatisfying attributes query ids h).outcome = .ok ids') ↔
      h.Passes (judged attributes query) := by
  constructor
  · rintro ⟨ids', hadd⟩
    rcases addSatisfying_cases hadd with ⟨hfalse, -⟩ | ⟨htrue, hkey, -⟩
    · exact ⟨false, hfalse, nofun⟩
    · exact ⟨true, htrue, fun _ => hkey⟩
  · rintro ⟨b, hb, hkey⟩
    have houtcome : (h.satisfies attributes query).outcome = .ok b := hb
    unfold addSatisfying
    rw [Journaled.outcome_bind, houtcome, ok_bind]
    cases b with
    | false => exact ⟨ids, rfl⟩
    | true =>
      have hid : h.id.asKey = .ok h.id := Value.asKey_of_isKey (hkey rfl)
      rw [if_pos rfl, hid]
      exact ⟨_, rfl⟩

theorem exists_filterHosts_iff {given : Option (List Attribute)} :
    (∃ ids, (filterHosts query hosts given).outcome = .ok ids) ↔
      ∀ h ∈ hosts, h.Passes (judged (given.getD (rosterAttributes hosts)) query) := by
  have hsteps : ∀ h ∈ hosts, ∀ ids, (∃ ids',
      (addSatisfying (given.getD (rosterAttributes hosts)) query ids h).outcome = .ok ids') ↔
        h.Passes (judged (given.getD (rosterAttributes hosts)) query) :=
    fun h _ ids => exists_addSatisfying_iff ids
  rw [← exists_ok_foldlM_iff hsteps []]
  unfold filterHosts
  rw [Journaled.outcome_bind, Journaled.outcome_foldlM]
  cases hosts.foldlM (fun ids h =>
    (addSatisfying (given.getD (rosterAttributes hosts)) query ids h).outcome) [] with
  | error e => exact iff_of_false nofun nofun
  | ok ids => exact iff_of_true ⟨ids, rfl⟩ ⟨ids, rfl⟩

/-- **Filtering judges every host on its own**, given the attributes. -/
theorem filteredBy_judged (query : Condition) (hosts : List Host) (given : Option (List Attribute)) :
    FilteredBy (judged (given.getD (rosterAttributes hosts)) query) hosts
      (filterHosts query hosts given).outcome where
  defined := exists_filterHosts_iff
  members := by
    intro ids hids v
    have hkept := kept_of_filterHosts hids
    constructor
    · intro hv
      obtain ⟨w, hw, hwv⟩ := Value.isIn_iff.mp hv
      obtain ⟨h, hh, rfl, hsat⟩ := hkept.sound w hw
      exact ⟨h, hh, hwv, hsat⟩
    · rintro ⟨h, hh, hid, hsat⟩
      obtain ⟨b, hb, hkey⟩ := exists_filterHosts_iff.mp ⟨ids, hids⟩ h hh
      cases hsat.symm.trans hb
      rw [← Value.isIn_congr (hkey rfl) hid]
      exact hkept.complete h hh hsat

end

/-! ### Attributes that hosts carry -/

/-- Some host of a roster has a value for an attribute. -/
def Carries (hosts : List Host) (x : Value) : Bool := hosts.any fun g => g.values.contains x

/-- The ids under which the hosts of a roster have values. -/
def carriedIds (hosts : List Host) : List Value := hosts.flatMap fun g => g.values.keys

/-- The context of a host among the others: every attribute that some host has a value for is a text. -/
def Host.textContext (hosts : List Host) (h : Host) : Context :=
  ⟨h.values, (carriedIds hosts).map fun id => (id, ⟨.text, []⟩)⟩

/-- The judgement of a condition on a host among the others. -/
def judgedAmong (hosts : List Host) (query : Condition) (h : Host) : Result Bool :=
  (query.evaluate (h.textContext hosts)).outcome

/-- Hosts have values under keys. -/
def KeysOnly (hosts : List Host) : Prop := ∀ k ∈ carriedIds hosts, k.isKey = true

/-- The condition holds of a host among the others, once the rules on attributes that nobody has are
dropped. -/
def Host.suits (hosts : List Host) (query : Condition) (h : Host) : Bool :=
  ((query.prune (h.textContext hosts)).map
    (Condition.truth (Rule.holds (h.textContext hosts)))).getD true

section
variable {hosts others : List Host} {query : Condition}

theorem carries_eq_isIn (hosts : List Host) (x : Value) :
    Carries hosts x = x.isIn (carriedIds hosts) := by
  unfold Carries carriedIds Value.isIn
  rw [List.any_flatMap]
  congr 1
  funext g
  rw [Mapping.contains_eq_isIn]
  rfl

theorem get?_textContext (h : Host) (x : Value) :
    (h.textContext hosts).catalog.get? x = if Carries hosts x then some ⟨.text, []⟩ else none := by
  rw [carries_eq_isIn]
  exact Mapping.get?_map_const _ _ x

theorem catalogOfAttributes_roster (hosts : List Host) :
    Context.catalogOfAttributes (rosterAttributes hosts) =
      Mapping.ofPairs? ((Value.distinct (carriedIds hosts)).map fun id => (id, ⟨.text, []⟩)) := by
  unfold Context.catalogOfAttributes rosterAttributes
  rw [List.map_map]
  rfl

theorem exists_catalog_roster (hkeys : KeysOnly hosts) :
    ∃ catalog, Context.catalogOfAttributes (rosterAttributes hosts) = .ok catalog ∧
      ∀ h : Host, SameSlots catalog (h.textContext hosts).catalog := by
  have hpairs : ∀ p ∈ (Value.distinct (carriedIds hosts)).map fun id => (id, (⟨.text, []⟩ : Slot)),
      p.1.isKey = true := by
    refine List.forall_mem_map.mpr fun id hid => hkeys id (Value.mem_of_mem_distinct hid)
  refine ⟨_, (catalogOfAttributes_roster hosts).trans (if_pos (List.all_eq_true.mpr hpairs)), ?_⟩
  intro h x _
  have hreverse : x.isIn (Value.distinct (carriedIds hosts)).reverse =
      x.isIn (Value.distinct (carriedIds hosts)) := List.any_reverse
  rw [Mapping.get?_ofPairs hpairs, ← List.map_reverse, Mapping.get?_map_const, hreverse,
    Value.isIn_distinct_eq hkeys, get?_textContext, carries_eq_isIn]

/-- **Where the team does not say which attributes it has**, a host is judged among the others. -/
theorem judged_roster (hkeys : KeysOnly hosts) (query : Condition) (h : Host) :
    judged (rosterAttributes hosts) query h = judgedAmong hosts query h := by
  obtain ⟨catalog, hcatalog, hslots⟩ := exists_catalog_roster hkeys
  unfold judged Host.satisfies
  rw [hcatalog]
  show (query.evaluate ⟨h.values, catalog⟩).outcome = (query.evaluate (h.textContext hosts)).outcome
  exact Condition.outcome_evaluate_sameSlots h.values (hslots h) query

theorem keysOnly_of_judged {h : Host} {b : Bool}
    (hb : judged (rosterAttributes hosts) query h = .ok b) : KeysOnly hosts := by
  unfold judged Host.satisfies at hb
  rw [Journaled.outcome_bind, Journaled.outcome_liftM_misuse, catalogOfAttributes_roster] at hb
  obtain ⟨catalog, hcatalog, -⟩ := exists_of_bind_eq_ok hb
  rw [orFault_eq_ok_iff] at hcatalog
  unfold Mapping.ofPairs? at hcatalog
  split_ifs at hcatalog with hkeys
  refine Value.areKeys_of_distinct fun v hv => ?_
  exact List.all_eq_true.mp hkeys _ (List.mem_map_of_mem hv)

theorem keysOnly_of_filterHosts (h : ∃ ids, (filterHosts query hosts none).outcome = .ok ids) :
    KeysOnly hosts := by
  have hpasses := exists_filterHosts_iff.mp h
  cases hosts with
  | nil => exact nofun
  | cons g hosts =>
    obtain ⟨b, hb, -⟩ := hpasses g List.mem_cons_self
    exact keysOnly_of_judged hb

theorem filteredBy_judgedAmong (hkeys : KeysOnly hosts) (query : Condition) :
    FilteredBy (judgedAmong hosts query) hosts (filterHosts query hosts none).outcome :=
  (filteredBy_judged query hosts none).congr fun h _ => judged_roster hkeys query h

/-- **Only the attributes that are carried matter** for how a host is judged among others. -/
theorem judgedAmong_congr (hcarried : ∀ x, Carries hosts x = Carries others x) (query : Condition)
    (h : Host) : judgedAmong hosts query h = judgedAmong others query h := by
  have hslots : SameSlots (h.textContext hosts).catalog (h.textContext others).catalog := by
    intro x _
    rw [get?_textContext, get?_textContext, hcarried]
  exact Condition.outcome_evaluate_sameSlots h.values hslots query

/-! ### Parts of a roster -/

theorem carries_append (hosts others : List Host) (x : Value) :
    Carries (hosts ++ others) x = (Carries hosts x || Carries others x) := List.any_append

theorem keysOnly_append : KeysOnly (hosts ++ others) ↔ KeysOnly hosts ∧ KeysOnly others := by
  unfold KeysOnly carriedIds
  rw [List.flatMap_append]
  exact List.forall_mem_append

/-- **Two parts that carry the same attributes** leave together what they leave apart. -/
theorem unionOf_of_carried (query : Condition) (hcarried : ∀ x, Carries hosts x = Carries others x) :
    UnionOf (filterHosts query (hosts ++ others) none).outcome
      (filterHosts query hosts none).outcome (filterHosts query others none).outcome := by
  have hall (x : Value) : Carries (hosts ++ others) x = Carries hosts x := by
    rw [carries_append, ← hcarried, Bool.or_self]
  have hunion (hkeys : KeysOnly (hosts ++ others)) := by
    obtain ⟨hhosts, hothers⟩ := keysOnly_append.mp hkeys
    refine (filteredBy_judgedAmong hkeys query).append
      ((filteredBy_judgedAmong hhosts query).congr fun h _ => ?_)
      ((filteredBy_judgedAmong hothers query).congr fun h _ => ?_)
    · exact judgedAmong_congr (fun x => (hall x).symm) query h
    · exact judgedAmong_congr (fun x => ((hall x).trans (hcarried x)).symm) query h
  refine ⟨⟨fun h => (hunion (keysOnly_of_filterHosts h)).defined.mp h, fun h => ?_⟩, ?_⟩
  · have hkeys := keysOnly_append.mpr (h.imp keysOnly_of_filterHosts keysOnly_of_filterHosts)
    exact (hunion hkeys).defined.mpr h
  · intro ids ids₁ ids₂ hids
    exact (hunion (keysOnly_of_filterHosts ⟨ids, hids⟩)).union ids ids₁ ids₂ hids

/-! ### The same hosts -/

theorem carries_congr (hmem : ∀ h, h ∈ hosts ↔ h ∈ others) (x : Value) :
    Carries hosts x = Carries others x := by
  unfold Carries
  rw [Bool.eq_iff_iff, List.any_eq_true, List.any_eq_true]
  exact exists_congr fun h => by rw [hmem h]

theorem keysOnly_congr (hmem : ∀ h, h ∈ hosts ↔ h ∈ others) : KeysOnly hosts ↔ KeysOnly others := by
  unfold KeysOnly carriedIds
  simp only [List.mem_flatMap, hmem]

/-- **Neither the order of the hosts matters nor how often one is listed.** -/
theorem sameMembers_of_mem (query : Condition) (given : Option (List Attribute))
    (hmem : ∀ h, h ∈ hosts ↔ h ∈ others) :
    SameMembers (filterHosts query hosts given).outcome (filterHosts query others given).outcome := by
  cases given with
  | some attributes =>
    exact (filteredBy_judged query hosts (some attributes)).sameMembers
      (filteredBy_judged query others (some attributes)) hmem
  | none =>
    have hsame (hkeys : KeysOnly hosts) := by
      have hothers := (keysOnly_congr hmem).mp hkeys
      refine (filteredBy_judgedAmong hkeys query).sameMembers
        ((filteredBy_judgedAmong hothers query).congr fun h _ => ?_) hmem
      exact judgedAmong_congr (fun x => (carries_congr hmem x).symm) query h
    refine ⟨⟨fun h => (hsame (keysOnly_of_filterHosts h)).defined.mp h, fun h => ?_⟩, ?_⟩
    · have hkeys := (keysOnly_congr hmem).mpr (keysOnly_of_filterHosts h)
      exact (hsame hkeys).defined.mpr h
    · intro ids ids' hids
      exact (hsame (keysOnly_of_filterHosts ⟨ids, hids⟩)).same ids ids' hids

/-! ### Hosts that suit -/

/-- **The hosts that remain are those that suit the condition.** -/
theorem isIn_iff_suits {ids : List Value} (hids : (filterHosts query hosts none).outcome = .ok ids)
    (v : Value) :
    v.isIn ids = true ↔ ∃ h ∈ hosts, h.id.alike v = true ∧ h.suits hosts query = true := by
  have hfiltered := filteredBy_judgedAmong (keysOnly_of_filterHosts ⟨ids, hids⟩) query
  have hpasses := hfiltered.defined.mp ⟨ids, hids⟩
  rw [hfiltered.members ids hids]
  refine exists_congr fun h => and_congr_right fun hh => and_congr_right fun _ => ?_
  obtain ⟨b, hb, -⟩ := hpasses h hh
  have hsuits : b = h.suits hosts query := Condition.eq_truth_of_evaluate _ hb
  rw [hb, ← hsuits, Except.ok.injEq]

theorem isDangling_textContext_iff (h : Host) (r : Rule) :
    r.isDangling (h.textContext hosts) = true ↔
      r.field.isKey = true ∧ Carries hosts r.field = false := by
  unfold Rule.isDangling
  rw [Bool.and_eq_true, get?_textContext]
  cases Carries hosts r.field <;> simp

theorem verdict_textContext (h : Host) {r : Rule} (hkey : r.field.isKey = true)
    (hcarried : Carries hosts r.field = true) :
    r.verdict (h.textContext hosts) =
      orFault (r.operator.holds ((h.values.get? r.field).getD .null) r.comparand ⟨.text, []⟩) := by
  have hslot : (h.textContext hosts).catalog.get? r.field = some ⟨.text, []⟩ := by
    rw [get?_textContext, if_pos hcarried]
  unfold Rule.verdict
  simp only [Value.asKey_of_isKey hkey, liftM_ok, ok_bind, hslot]
  rfl

theorem isIn_iff_of_matchAll (hquery : query = .missing ∨ query = .matchAll)
    {given : Option (List Attribute)} {ids : List Value}
    (hids : (filterHosts query hosts given).outcome = .ok ids) (v : Value) :
    v.isIn ids = true ↔ ∃ h ∈ hosts, h.id.alike v = true := by
  have hfiltered := filteredBy_judged query hosts given
  have hpasses := hfiltered.defined.mp ⟨ids, hids⟩
  rw [hfiltered.members ids hids]
  refine exists_congr fun h => and_congr_right fun hh => and_iff_left ?_
  obtain ⟨b, hb, -⟩ := hpasses h hh
  rw [hb]
  unfold judged Host.satisfies at hb
  rw [Journaled.outcome_bind] at hb
  obtain ⟨catalog, -, hb⟩ := exists_of_bind_eq_ok hb
  rcases hquery with rfl | rfl
  · exact hb.symm
  · exact hb.symm

end

/-! ### Filtering a roster -/

/-- What remains of a roster under a condition. -/
structure FiltersPerHost (query : Condition) : Prop where
  /-- Ids remain if and only if every host can be judged. -/
  defined : ∀ hosts given, (∃ ids, (filterHosts query hosts given).outcome = .ok ids) ↔
    ∀ h ∈ hosts, h.Passes (judged (given.getD (rosterAttributes hosts)) query)
  /-- Given the attributes, two parts of a roster leave together what they leave apart. -/
  parts : ∀ attributes hosts others,
    UnionOf (filterHosts query (hosts ++ others) (some attributes)).outcome
      (filterHosts query hosts (some attributes)).outcome
      (filterHosts query others (some attributes)).outcome
  /-- Not given the attributes, so do parts that carry the same attributes. -/
  alikeParts : ∀ hosts others, (∀ x, Carries hosts x = Carries others x) →
    UnionOf (filterHosts query (hosts ++ others) none).outcome
      (filterHosts query hosts none).outcome (filterHosts query others none).outcome
  /-- Not given the attributes, those remain that suit the condition among the others. -/
  suited : ∀ hosts ids, (filterHosts query hosts none).outcome = .ok ids → ∀ v : Value,
    v.isIn ids = true ↔ ∃ h ∈ hosts, h.id.alike v = true ∧ h.suits hosts query = true
  /-- Among the others, the rules on attributes that nobody has are dropped, and no other ones. -/
  dropped : ∀ hosts (h : Host) (r : Rule), r.isDangling (h.textContext hosts) = true ↔
    r.field.isKey = true ∧ Carries hosts r.field = false
  /-- A rule that is not dropped compares the attribute as a text, and as nothing if the host has no
  value for it. -/
  compared : ∀ hosts (h : Host) (r : Rule), r.field.isKey = true → Carries hosts r.field = true →
    r.verdict (h.textContext hosts) =
      orFault (r.operator.holds ((h.values.get? r.field).getD .null) r.comparand ⟨.text, []⟩)
  /-- Neither the order of the hosts matters nor how often one is listed. -/
  members : ∀ given hosts others, (∀ h, h ∈ hosts ↔ h ∈ others) →
    SameMembers (filterHosts query hosts given).outcome (filterHosts query others given).outcome
  /-- Without a condition, or with the one that holds always, nobody is left out. -/
  full : query = .missing ∨ query = .matchAll → ∀ given hosts ids,
    (filterHosts query hosts given).outcome = .ok ids → ∀ v : Value,
      v.isIn ids = true ↔ ∃ h ∈ hosts, h.id.alike v = true

/-- **A roster is filtered host by host.** -/
theorem filterHosts_per_host (query : Condition) : FiltersPerHost query where
  defined := fun _ _ => exists_filterHosts_iff
  parts := fun attributes hosts others =>
    (filteredBy_judged query (hosts ++ others) (some attributes)).append
      (filteredBy_judged query hosts (some attributes))
      (filteredBy_judged query others (some attributes))
  alikeParts := fun _ _ hcarried => unionOf_of_carried query hcarried
  suited := fun _ _ hids => isIn_iff_suits hids
  dropped := fun _ h r => isDangling_textContext_iff h r
  compared := fun _ h _ hkey hcarried => verdict_textContext h hkey hcarried
  members := fun given _ _ hmem => sameMembers_of_mem query given hmem
  full := fun hquery _ _ _ hids => isIn_iff_of_matchAll hquery hids

/-- A host without a level remains where nobody has one, and goes where another host has one: parts that
do not carry the same attributes may leave more than they leave together. Parts that do carry the same
do not, and it is no matter if a host is listed twice. -/
theorem filterHosts_per_host_level :
    let senior : Host := ⟨.int 1, [(.text "level", .text "senior")]⟩
    let junior : Host := ⟨.int 2, [(.text "level", .text "")]⟩
    let newcomer : Host := ⟨.int 3, []⟩
    let query : Condition := .rule ⟨.text "level", .isNotEmpty, .null⟩
    (filterHosts query [newcomer] none).outcome = .ok [.int 3] ∧
      newcomer.suits [newcomer] query = true ∧
      (filterHosts query [senior, newcomer] none).outcome = .ok [.int 1] ∧
      newcomer.suits [senior, newcomer] query = false ∧
      UnionOf (filterHosts query [senior, junior] none).outcome
        (filterHosts query [senior] none).outcome (filterHosts query [junior] none).outcome ∧
      SameMembers (filterHosts query [senior, newcomer] none).outcome
        (filterHosts query [newcomer, senior, newcomer] none).outcome := by
  intro senior junior newcomer query
  have hfilter := filterHosts_per_host query
  have halone : (filterHosts query [newcomer] none).outcome = .ok [.int 3] := by rfl
  have htogether : (filterHosts query [senior, newcomer] none).outcome = .ok [.int 1] := by rfl
  have hstays := (hfilter.suited _ _ halone (.int 3)).mp rfl
  have hgoes := mt (hfilter.suited _ _ htogether (.int 3)).mpr (by decide)
  have hparts := hfilter.alikeParts [senior] [junior] fun _ => rfl
  refine ⟨halone, ?_, htogether, ?_, hparts, ?_⟩
  · obtain ⟨h, hh, -, hsuits⟩ := hstays
    rwa [List.mem_singleton.mp hh] at hsuits
  · exact Bool.eq_false_iff.mpr fun hsuits => hgoes ⟨newcomer, by simp, rfl, hsuits⟩
  · refine hfilter.members none _ _ fun h => ?_
    simp only [List.mem_cons, List.not_mem_nil, or_false]
    tauto

end SubmissionRouting
