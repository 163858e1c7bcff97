import SubmissionRouting.Proofs.Forwarding.Hosts

/-! # The parameters that are handed on

Three sources are merged: the values of the address, one by one under their names (`singleValues`);
the answers, under the external names of their fields (`answeredFields`); and, if hosts are given, the
line of hosts under the name reserved for it. The first are gathered name by name, the others replace
what stands under their name, and no entry ever changes its place (`forwardParameters_eq`).

So each parameter can be told without going through the merge: the names are the distinct ones of the
three sources in a row, without controls of the routing in the first, and the values of a name are
those of the last source that has it (`valuesFor`). This is all there is to the parameters, which
there are if and only if every value of the sources has a text (`forwardParameters_specified`). -/

namespace SubmissionRouting

/-! ### The sources -/

/-- The field with an id; of several the last. -/
def lastField? (fields : List Field) (id : Value) : Option Field :=
  fields.reverse.find? fun f => f.id.alike id

/-- The fields that are answered, with the answers, in the order of the response. -/
def answeredFields (fields : List Field) (response : Response) : List (Field × Value) :=
  response.filterMap fun a => (lastField? fields a.1).map (·, a.2)

section Sources

variable (response : Response) (fields : List Field) (address : List (Value × Value))
  (hosts : Option (List Value)) (hostsParam : Value) (controls : List Value)

/-- The values of the address that are handed on: not those of controls. -/
def passedValues : List (Value × Value) :=
  (singleValues address).filter fun p => !p.1.isIn controls

/-- The names of all sources in a row. -/
def sourceNames : List Value :=
  (passedValues address controls).map (·.1) ++
    ((answeredFields fields response).map (·.1.externalName) ++
      if hosts.isSome then [hostsParam] else [])

/-- The values of a name that is not the reserved one: under the name of an answered field its answer,
of several the last; under any other name all values of the address, in order. -/
def unreservedValues (name : Value) : Except Misuse (List Value) :=
  match (answeredFields fields response).reverse.find? fun a => a.1.externalName.alike name with
  | some a => a.1.displayed a.2
  | none => (Mapping.under (singleValues address) name).mapM Field.shownText

/-- The values of a parameter: under the reserved name the line of hosts, if hosts are given. -/
def valuesFor (name : Value) : Except Misuse (List Value) :=
  match hosts with
  | none => unreservedValues response fields address name
  | some ids =>
    if hostsParam.alike name then do pure [.text (← hostLine ids)]
    else unreservedValues response fields address name

/-- Every value of the three sources has a text. -/
structure AllShown : Prop where
  address : ∀ p ∈ singleValues address, ∃ s, p.2.shown = .ok s
  answers : ∀ a ∈ answeredFields fields response, ∃ values, a.1.displayed a.2 = .ok values
  hosts : ∀ ids, hosts = some ids → ∃ line, hostLine ids = .ok line

/-- All names and ids can stand as keys, as texts can. -/
structure AllKeys : Prop where
  address : ∀ p ∈ address, p.1.isKey = true
  fields : ∀ f ∈ fields, f.id.isKey = true ∧ f.externalName.isKey = true
  hostsParam : hostsParam.isKey = true
  controls : ∀ c ∈ controls, c.isKey = true

end Sources

/-! ### The merge -/

/-- A value of the address with its text. -/
def namedText : Value × Value → Except Misuse (Value × Value) :=
  named (·.1) fun p => Field.shownText p.2

/-- An answer as it is handed on, with the external name of its field. -/
def namedAnswer : Field × Value → Except Misuse (Value × List Value) :=
  named (·.1.externalName) fun a => a.1.displayed a.2

/-- The line of hosts with the name reserved for it, if hosts are given. -/
def namedHosts (hostsParam : Value) : Option (List Value) → Except Misuse (List (Value × List Value))
  | none => pure []
  | some ids => do pure [(hostsParam, [.text (← hostLine ids)])]

/-- Values that are gathered under their names, and entries put on top of them. -/
def merged (passed : List (Value × Value)) (entries : List (Value × List Value)) : Parameters :=
  entries.foldl (fun m p => Mapping.put m p.1 p.2) (passed.foldl Mapping.gather [])

section Merge

variable {response : Response} {fields : List Field} {address : List (Value × Value)}
  {hosts : Option (List Value)} {hostsParam : Value} {controls : List Value}

theorem mapM_asKey {vs : List Value} (h : ∀ v ∈ vs, v.isKey = true) :
    vs.mapM Value.asKey = .ok vs :=
  mapM_of_forall₂ (List.forall₂_same.mpr fun v hv => Value.asKey_of_isKey (h v hv))

theorem foldlM_addAddressValue {values : List (Value × Value)} (h : ∀ p ∈ values, p.1.isKey = true)
    (params : Parameters) :
    values.foldlM (addAddressValue controls) params =
      (fun texts => (texts.filter fun p => !p.1.isIn controls).foldl Mapping.gather params) <$>
        values.mapM namedText := by
  induction values generalizing params with
  | nil => rfl
  | cons p values ih =>
    obtain ⟨hp, hvalues⟩ := List.forall_mem_cons.mp h
    have hnamed : namedText p = Field.shownText p.2 >>= fun text => pure (p.1, text) := rfl
    rw [List.foldlM_cons, addAddressValue, List.mapM_cons, hnamed, Value.asKey_of_isKey hp]
    cases Field.shownText p.2 with
    | error e => rfl
    | ok text =>
      refine (ih hvalues _).trans ?_
      cases values.mapM namedText with
      | error e => rfl
      | ok texts =>
        refine congrArg Except.ok ?_
        dsimp only
        by_cases hcontrol : p.1.isIn controls = true
        · rw [if_pos hcontrol, List.filter_cons_of_neg (by simp [hcontrol])]
        · rw [if_neg hcontrol, List.filter_cons_of_pos (by simp [hcontrol])]
          rfl

theorem fieldsById_eq (h : ∀ f ∈ fields, f.id.isKey = true) :
    ∃ catalog, fieldsById fields = .ok catalog ∧ ∀ x, catalog.get? x = lastField? fields x := by
  have hkeys : ∀ p ∈ fields.map fun f => (f.id, f), p.1.isKey = true := by
    intro p hp
    obtain ⟨f, hf, rfl⟩ := List.mem_map.mp hp
    exact h f hf
  refine ⟨_, if_pos (List.all_eq_true.mpr hkeys), fun x => ?_⟩
  rw [Mapping.get?_ofPairs hkeys, ← List.map_reverse, Mapping.get?, List.find?_map, Option.map_map,
    lastField?]
  exact Option.map_id'

theorem foldlM_addDisplayed {catalog : Mapping Field}
    (hcatalog : ∀ x, catalog.get? x = lastField? fields x)
    (hnames : ∀ f ∈ fields, f.externalName.isKey = true) (params : Parameters) :
    response.foldlM (addDisplayed catalog) params =
      (fun answers => answers.foldl (fun m p => Mapping.put m p.1 p.2) params) <$>
        (answeredFields fields response).mapM namedAnswer := by
  induction response generalizing params with
  | nil => rfl
  | cons a response ih =>
    rw [List.foldlM_cons, addDisplayed, hcatalog]
    cases hf : lastField? fields a.1 with
    | none =>
      have hsame : answeredFields fields (a :: response) = answeredFields fields response :=
        List.filterMap_cons_none (by rw [hf]; rfl)
      rw [hsame]
      exact ih params
    | some f =>
      have hcons : answeredFields fields (a :: response) =
          (f, a.2) :: answeredFields fields response :=
        List.filterMap_cons_some (by rw [hf]; rfl)
      have hnamed : namedAnswer (f, a.2) =
          f.displayed a.2 >>= fun values => pure (f.externalName, values) := rfl
      have hname := Value.asKey_of_isKey
        (hnames f (List.mem_reverse.mp (List.mem_of_find?_eq_some hf)))
      rw [hcons, List.mapM_cons, hnamed]
      dsimp only
      rw [hname]
      cases f.displayed a.2 with
      | error e => rfl
      | ok values =>
        refine (ih _).trans ?_
        cases (answeredFields fields response).mapM namedAnswer <;> rfl

theorem AllKeys.isKey_of_singleValues (h : AllKeys fields address hostsParam controls)
    {p : Value × Value} (hp : p ∈ singleValues address) : p.1.isKey = true := by
  obtain ⟨q, hq, hp⟩ := List.mem_flatMap.mp hp
  obtain ⟨v, -, rfl⟩ := List.mem_map.mp hp
  exact h.address q hq

theorem AllKeys.isKey_of_texts (h : AllKeys fields address hostsParam controls)
    {f : Value × Value → Except Misuse Value} {texts : List (Value × Value)}
    (htexts : NamedBy (·.1) f (singleValues address) texts) : ∀ p ∈ texts, p.1.isKey = true := by
  intro p hp
  have hname : p.1 ∈ (singleValues address).map (·.1) := htexts.keys ▸ List.mem_map_of_mem hp
  obtain ⟨q, hq, hqp⟩ := List.mem_map.mp hname
  rw [← hqp]
  exact h.isKey_of_singleValues hq

theorem AllKeys.isKey_of_answered (h : AllKeys fields address hostsParam controls)
    {a : Field × Value} (ha : a ∈ answeredFields fields response) :
    a.1.externalName.isKey = true := by
  obtain ⟨answer, -, ha⟩ := List.mem_filterMap.mp ha
  obtain ⟨f, hf, rfl⟩ := Option.map_eq_some_iff.mp ha
  exact (h.fields f (List.mem_reverse.mp (List.mem_of_find?_eq_some hf))).2

/-- **The merge** of the three sources. -/
theorem forwardParameters_eq (h : AllKeys fields address hostsParam controls) :
    forwardParameters response fields address hosts hostsParam controls = (do
      let texts ← (singleValues address).mapM namedText
      let answers ← (answeredFields fields response).mapM namedAnswer
      let line ← namedHosts hostsParam hosts
      pure (merged (texts.filter fun p => !p.1.isIn controls) (answers ++ line))) := by
  obtain ⟨catalog, hcatalog, hget⟩ := fieldsById_eq fun f hf => (h.fields f hf).1
  rw [forwardParameters, mapM_asKey h.controls, ok_bind,
    foldlM_addAddressValue fun p hp => h.isKey_of_singleValues hp]
  cases (singleValues address).mapM namedText with
  | error e => rfl
  | ok texts =>
    show (fieldsById fields >>= _) = _
    rw [hcatalog, ok_bind,
      foldlM_addDisplayed hget fun f hf => (h.fields f hf).2]
    cases (answeredFields fields response).mapM namedAnswer with
    | error e => rfl
    | ok answers =>
      cases hosts with
      | none =>
        show Except.ok (merged _ answers) = Except.ok (merged _ (answers ++ []))
        rw [List.append_nil]
      | some ids =>
        dsimp only [namedHosts]
        cases hostLine ids with
        | error e => rfl
        | ok line =>
          show (hostsParam.asKey >>= fun name =>
            Except.ok (Mapping.put (merged _ answers) name [Value.text line])) =
              Except.ok (merged _ (answers ++ [(hostsParam, [Value.text line])]))
          rw [Value.asKey_of_isKey h.hostsParam, merged, merged, List.foldl_append]
          rfl

theorem exists_of_forwardParameters (h : AllKeys fields address hostsParam controls)
    {params : Parameters}
    (hparams : forwardParameters response fields address hosts hostsParam controls = .ok params) :
    ∃ texts answers line,
      NamedBy (·.1) (fun p => Field.shownText p.2) (singleValues address) texts ∧
      NamedBy (·.1.externalName) (fun a => a.1.displayed a.2) (answeredFields fields response)
        answers ∧
      namedHosts hostsParam hosts = .ok line ∧
      params = merged (texts.filter fun p => !p.1.isIn controls) (answers ++ line) := by
  rw [forwardParameters_eq h] at hparams
  obtain ⟨texts, htexts, hparams⟩ := exists_of_bind_eq_ok hparams
  obtain ⟨answers, hanswers, hparams⟩ := exists_of_bind_eq_ok hparams
  obtain ⟨line, hline, hparams⟩ := exists_of_bind_eq_ok hparams
  exact ⟨texts, answers, line, namedBy_of_mapM htexts, namedBy_of_mapM hanswers, hline,
    (Except.ok.inj hparams).symm⟩

/-- **There are parameters** if and only if every value that is handed on has a text. -/
theorem exists_forwardParameters_iff (h : AllKeys fields address hostsParam controls) :
    (∃ params, forwardParameters response fields address hosts hostsParam controls = .ok params) ↔
      AllShown response fields address hosts := by
  have haddress : (∃ texts, (singleValues address).mapM namedText = .ok texts) ↔
      ∀ p ∈ singleValues address, ∃ s, p.2.shown = .ok s :=
    exists_ok_mapM_iff.trans
      (forall₂_congr fun _ _ => exists_ok_named_iff.trans exists_ok_map_iff)
  have hanswers : (∃ answers, (answeredFields fields response).mapM namedAnswer = .ok answers) ↔
      ∀ a ∈ answeredFields fields response, ∃ values, a.1.displayed a.2 = .ok values :=
    exists_ok_mapM_iff.trans (forall₂_congr fun _ _ => exists_ok_named_iff)
  have hhosts : (∃ line, namedHosts hostsParam hosts = .ok line) ↔
      ∀ ids, hosts = some ids → ∃ line, hostLine ids = .ok line := by
    cases hosts with
    | none => exact ⟨fun _ => nofun, fun _ => ⟨[], rfl⟩⟩
    | some ids =>
      refine exists_ok_map_iff.trans ⟨fun hline _ hids => Option.some.inj hids ▸ hline,
        fun hline => hline ids rfl⟩
  rw [forwardParameters_eq h]
  constructor
  · rintro ⟨params, hparams⟩
    obtain ⟨texts, htexts, hparams⟩ := exists_of_bind_eq_ok hparams
    obtain ⟨answers, hanswered, hparams⟩ := exists_of_bind_eq_ok hparams
    obtain ⟨line, hline, -⟩ := exists_of_bind_eq_ok hparams
    exact ⟨haddress.mp ⟨texts, htexts⟩, hanswers.mp ⟨answers, hanswered⟩, hhosts.mp ⟨line, hline⟩⟩
  · intro hall
    obtain ⟨texts, htexts⟩ := haddress.mpr hall.address
    obtain ⟨answers, hanswered⟩ := hanswers.mpr hall.answers
    obtain ⟨line, hline⟩ := hhosts.mpr hall.hosts
    exact ⟨_, by rw [htexts, hanswered, hline]; rfl⟩

/-! ### Names and values -/

theorem keys_merged (passed : List (Value × Value)) (entries : List (Value × List Value)) :
    Mapping.keys (merged passed entries) =
      Value.distinct (passed.map (·.1) ++ entries.map (·.1)) := by
  rw [merged, Mapping.keys_foldl_put, Mapping.keys_foldl_gather, Value.distinct_append]
  rfl

theorem get?_merged {passed : List (Value × Value)} {entries : List (Value × List Value)}
    (hpassed : ∀ p ∈ passed, p.1.isKey = true) (hentries : ∀ p ∈ entries, p.1.isKey = true)
    (x : Value) :
    Mapping.get? (merged passed entries) x = (Mapping.get? entries.reverse x).or
      (if (Mapping.under passed x).isEmpty then none else some (Mapping.under passed x)) := by
  rw [merged, Mapping.get?_foldl_put _ hentries, Mapping.get?_foldl_gather _ hpassed]
  rfl

theorem map_fst_of_namedHosts {line : List (Value × List Value)}
    (h : namedHosts hostsParam hosts = .ok line) :
    line.map (·.1) = if hosts.isSome then [hostsParam] else [] := by
  cases hosts with
  | none => cases h; rfl
  | some ids =>
    obtain ⟨text, -, h⟩ := exists_of_bind_eq_ok h
    cases h
    rfl

theorem map_fst_passed {texts : List (Value × Value)} {f : Value × Value → Except Misuse Value}
    (h : NamedBy (·.1) f (singleValues address) texts) :
    (texts.filter fun p => !p.1.isIn controls).map (·.1) =
      (passedValues address controls).map (·.1) := by
  have hfilter (ps : List (Value × Value)) : (ps.filter fun p => !p.1.isIn controls).map (·.1) =
      (ps.map (·.1)).filter fun name => !name.isIn controls := by
    rw [List.filter_map]
    rfl
  rw [passedValues, hfilter, hfilter, h.keys]

/-- **The names of the parameters** are the distinct ones of the three sources in a row. -/
theorem keys_forwardParameters (h : AllKeys fields address hostsParam controls)
    {params : Parameters}
    (hparams : forwardParameters response fields address hosts hostsParam controls = .ok params) :
    Mapping.keys params =
      Value.distinct (sourceNames response fields address hosts hostsParam controls) := by
  obtain ⟨texts, answers, line, htexts, hanswers, hline, rfl⟩ :=
    exists_of_forwardParameters h hparams
  rw [keys_merged, map_fst_passed htexts, List.map_append, hanswers.keys,
    map_fst_of_namedHosts hline, sourceNames]

theorem isKey_of_sourceNames (h : AllKeys fields address hostsParam controls) {name : Value}
    (hname : name ∈ sourceNames response fields address hosts hostsParam controls) :
    name.isKey = true := by
  rcases List.mem_append.mp hname with hname | hname
  · obtain ⟨p, hp, rfl⟩ := List.mem_map.mp hname
    exact h.isKey_of_singleValues (List.mem_of_mem_filter hp)
  rcases List.mem_append.mp hname with hname | hname
  · obtain ⟨a, ha, rfl⟩ := List.mem_map.mp hname
    exact h.isKey_of_answered ha
  · split_ifs at hname
    · rw [List.mem_singleton.mp hname]; exact h.hostsParam
    · cases hname

theorem under_passed {texts : List (Value × Value)} (hkeys : ∀ p ∈ texts, p.1.isKey = true)
    {name : Value} (hsome : Mapping.under (texts.filter fun p => !p.1.isIn controls) name ≠ []) :
    Mapping.under (texts.filter fun p => !p.1.isIn controls) name =
      Mapping.under texts name := by
  obtain ⟨v, hv⟩ := List.exists_mem_of_ne_nil _ hsome
  obtain ⟨q, hq, -⟩ := List.mem_map.mp hv
  obtain ⟨hq, hqname⟩ := List.mem_filter.mp hq
  obtain ⟨hq, hpass⟩ := List.mem_filter.mp hq
  refine Mapping.under_filter (fun k => !k.isIn controls) fun p hp hpname => ?_
  rwa [Value.isIn_congr (hkeys p hp) hpname, ← Value.isIn_congr (hkeys q hq) hqname]

/-- What stands under a name that is not the reserved one. -/
theorem unreservedValues_eq {texts : List (Value × Value)} {answers : List (Value × List Value)}
    (htexts : NamedBy (·.1) (fun p => Field.shownText p.2) (singleValues address) texts)
    (hanswers : NamedBy (·.1.externalName) (fun a => a.1.displayed a.2)
      (answeredFields fields response) answers)
    (hkeys : ∀ p ∈ texts, p.1.isKey = true) {name : Value} {values : List Value}
    (hvalues : (Mapping.get? answers.reverse name).or
      (if (Mapping.under (texts.filter fun p => !p.1.isIn controls) name).isEmpty then none
        else some (Mapping.under (texts.filter fun p => !p.1.isIn controls) name)) = some values) :
    unreservedValues response fields address name = .ok values := by
  have hanswer := hanswers.reverse.get? name
  rw [unreservedValues]
  cases hfind : (answeredFields fields response).reverse.find?
      fun a => a.1.externalName.alike name with
  | some a =>
    rw [hfind] at hanswer
    generalize Mapping.get? answers.reverse name = found at hanswer hvalues
    cases hanswer with
    | some hdisplayed => cases hvalues; exact hdisplayed
  | none =>
    rw [hfind] at hanswer
    generalize Mapping.get? answers.reverse name = found at hanswer hvalues
    cases hanswer
    rw [Option.none_or] at hvalues
    split_ifs at hvalues with hempty
    have hunder := under_passed hkeys fun hnil => hempty (List.isEmpty_iff.mpr hnil)
    rw [← Option.some.inj hvalues, hunder, Mapping.under, List.mapM_map]
    exact htexts.under name

/-- **What stands under a name** is what the last source gives that has it. -/
theorem get?_forwardParameters (h : AllKeys fields address hostsParam controls)
    {params : Parameters}
    (hparams : forwardParameters response fields address hosts hostsParam controls = .ok params)
    {name : Value} (hname : name ∈ Mapping.keys params) :
    ∃ values, valuesFor response fields address hosts hostsParam name = .ok values ∧
      params.get? name = some values := by
  have hkey : name.isKey = true := by
    rw [keys_forwardParameters h hparams] at hname
    exact isKey_of_sourceNames h (Value.mem_of_mem_distinct hname)
  obtain ⟨values, hvalues⟩ := Mapping.exists_get?_of_mem_keys hkey hname
  refine ⟨values, ?_, hvalues⟩
  obtain ⟨texts, answers, line, htexts, hanswers, hline, rfl⟩ :=
    exists_of_forwardParameters h hparams
  have htextKeys := h.isKey_of_texts htexts
  have hnames : (answers ++ line).map (·.1) =
      (answeredFields fields response).map (·.1.externalName) ++
        if hosts.isSome then [hostsParam] else [] := by
    rw [List.map_append, hanswers.keys, map_fst_of_namedHosts hline]
  have hentryKeys : ∀ p ∈ answers ++ line, p.1.isKey = true := fun p hp =>
    isKey_of_sourceNames h (List.mem_append_right _ (hnames ▸ List.mem_map_of_mem hp))
  rw [get?_merged (fun p hp => htextKeys p (List.mem_of_mem_filter hp)) hentryKeys,
    List.reverse_append, Mapping.get?_append, Option.or_assoc] at hvalues
  cases hosts with
  | none =>
    cases hline
    exact unreservedValues_eq htexts hanswers htextKeys hvalues
  | some ids =>
    obtain ⟨text, htext, hline⟩ := exists_of_bind_eq_ok hline
    cases hline
    rw [List.reverse_singleton, Mapping.get?_cons] at hvalues
    rw [valuesFor]
    by_cases hreserved : hostsParam.alike name = true
    · rw [if_pos hreserved] at hvalues
      rw [if_pos hreserved, htext]
      exact congrArg Except.ok (Option.some.inj hvalues)
    · rw [if_neg hreserved] at hvalues
      rw [if_neg hreserved]
      exact unreservedValues_eq htexts hanswers htextKeys hvalues

end Merge

/-- **The parameters that are handed on, name by name.** There are parameters if and only if every value
of their sources has a text. Their names are, in this order and each once: the names of the address with a
value, other than controls of the routing; the external names of the answered fields; and, if hosts are
given, the name reserved for them. Under each name stands what is told of it (`valuesFor`). So a
control is a name among them only as the external name of an answered field or as the reserved name,
and no answered field is missing, whatever its external name. -/
theorem forwardParameters_specified (response : Response) (fields : List Field)
    (address : List (Value × Value)) (hosts : Option (List Value)) (hostsParam : Value)
    (controls : List Value) (h : AllKeys fields address hostsParam controls) :
    ((∃ params, forwardParameters response fields address hosts hostsParam controls = .ok params) ↔
      AllShown response fields address hosts) ∧
    ∀ params, forwardParameters response fields address hosts hostsParam controls = .ok params →
      Mapping.keys params =
        Value.distinct (sourceNames response fields address hosts hostsParam controls) ∧
      (∀ name ∈ Mapping.keys params,
        ∃ values, valuesFor response fields address hosts hostsParam name = .ok values ∧
          params.get? name = some values) ∧
      (∀ name ∈ Mapping.keys params, name.isIn controls = true →
        name ∈ (answeredFields fields response).map (·.1.externalName) ∨
          hosts.isSome = true ∧ name = hostsParam) ∧
      ∀ a ∈ answeredFields fields response, a.1.externalName.isIn (Mapping.keys params) = true := by
  refine ⟨exists_forwardParameters_iff h, fun params hparams => ?_⟩
  have hkeys := keys_forwardParameters h hparams
  refine ⟨hkeys, fun name => get?_forwardParameters h hparams, fun name hname hcontrol => ?_,
    fun a ha => ?_⟩
  · rw [hkeys] at hname
    rcases List.mem_append.mp (Value.mem_of_mem_distinct hname) with hname | hname
    · obtain ⟨p, hp, rfl⟩ := List.mem_map.mp hname
      have hpass := (List.mem_filter.mp hp).2
      rw [hcontrol] at hpass
      cases hpass
    rcases List.mem_append.mp hname with hname | hname
    · exact .inl hname
    · split_ifs at hname with hsome
      · exact .inr ⟨hsome, List.mem_singleton.mp hname⟩
      · cases hname
  · rw [hkeys]
    exact Value.isIn_distinct (h.isKey_of_answered ha)
      (List.mem_append_right _ (List.mem_append_left _ (List.mem_map_of_mem ha)))

/-- An address with a control, a name that comes twice and a name without a value. -/
def crowdedAddress : List (Value × Value) :=
  [(.text "form", .text "intake"), (.text "ref", .list [.text "mail", .int 7]),
    (.text "void", .list []), (.text "size", .int 9), (.text "ref", .text "web")]

/-- Fields one of which has the name of a control. -/
def crowdedFields : List Field :=
  [⟨.text "q1", .text "Size", .select, .text "size", [⟨"mid", .text "11-200"⟩]⟩,
    ⟨.text "q2", .text "form", .multiselect, .text "", []⟩,
    ⟨.text "q3", .text "Team", .multiselect, .text "team", [⟨"b", .text "Blue"⟩, ⟨"r", .text "Red"⟩]⟩]

def crowdedResponse : Response :=
  [(.text "q2", .list []), (.text "q1", .text "mid"), (.text "q3", .list [.text "r", .text "x"])]

/-- The hosts replace the answer that replaces a value of the address, in its place. The field with the
name of a control is answered, by no choice at all, and its name comes behind those of the address. The
last answer is shown under a name of its own, by a label and by an id that is no choice's. -/
theorem forwardParameters_crowded :
    ∃ params, forwardParameters crowdedResponse crowdedFields crowdedAddress
        (some [.int 9, .int 10, .text "b"]) (.text "size") defaultControlParams = .ok params ∧
      Mapping.keys params = [.text "ref", .text "size", .text "form", .text "team"] ∧
      params.get? (.text "ref") = some [.text "mail", .text "7", .text "web"] ∧
      params.get? (.text "size") = some [.text "9,10,b"] ∧
      params.get? (.text "form") = some [] ∧
      params.get? (.text "team") = some [.text "Red", .text "x"] := by
  have hkeys : AllKeys crowdedFields crowdedAddress (.text "size") defaultControlParams :=
    { address := by decide, fields := by decide, hostsParam := rfl, controls := by decide }
  have hline : hostLine [.int 9, .int 10, .text "b"] = .ok "9,10,b" :=
    hostLine_of_ordered [(.number 9, "9"), (.number 10, "10"), (.name "b", "b")] rfl (by decide)
  have hshown : AllShown crowdedResponse crowdedFields crowdedAddress
      (some [.int 9, .int 10, .text "b"]) :=
    { address := exists_ok_mapM_iff.mp ⟨[_, _, _, _, _], rfl⟩
      answers := exists_ok_mapM_iff.mp ⟨[_, _, _], rfl⟩
      hosts := fun ids hids => ⟨_, Option.some.inj hids ▸ hline⟩ }
  obtain ⟨hiff, hspec⟩ := forwardParameters_specified crowdedResponse crowdedFields crowdedAddress
    (some [.int 9, .int 10, .text "b"]) (.text "size") defaultControlParams hkeys
  obtain ⟨params, hparams⟩ := hiff.mpr hshown
  obtain ⟨hnames, hvalues, -, -⟩ := hspec params hparams
  replace hnames : Mapping.keys params =
      [.text "ref", .text "size", .text "form", .text "team"] := hnames
  refine ⟨params, hparams, hnames, ?_, ?_, ?_, ?_⟩
  · obtain ⟨values, hv, hget⟩ := hvalues (.text "ref") (by simp [hnames])
    cases hv
    exact hget
  · obtain ⟨values, hv, hget⟩ := hvalues (.text "size") (by simp [hnames])
    rw [valuesFor, if_pos (by decide), hline] at hv
    cases hv
    exact hget
  · obtain ⟨values, hv, hget⟩ := hvalues (.text "form") (by simp [hnames])
    cases hv
    exact hget
  · obtain ⟨values, hv, hget⟩ := hvalues (.text "team") (by simp [hnames])
    cases hv
    exact hget

end SubmissionRouting
