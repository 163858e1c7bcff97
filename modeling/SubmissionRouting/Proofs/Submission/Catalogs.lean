import SubmissionRouting.Proofs.Submission.Entry

/-! # The catalogs of a submission

A table that is entered over references has its rules evaluated with its own catalog. If it has none,
they are evaluated with the catalog of the last table on the way to it that has one, which is the
entry's only if no table in between has one (`rules_read_nearest_catalog`): a table in between hands
on its own catalog, and a rule on a field that only the entry has is skipped
(`entry_catalog_not_handed_on`). -/

namespace SubmissionRouting

namespace Stop

variable {ts : Tables} {first s : Stop}

theorem or_fields_of_reached (hfirst : first.table.fields.or first.fields = first.fields)
    (h : Reached ts first s) : s.table.fields.or s.fields = s.fields := by
  rcases Relation.ReflTransGen.cases_tail h with heq | ⟨before, -, hnext⟩
  · rw [heq]
    exact hfirst
  · obtain @⟨id, t, _, _⟩ := hnext
    show t.fields.or (t.fields.or before.fields) = t.fields.or before.fields
    rw [← Option.or_assoc, Option.or_self]

end Stop

theorem catalogOfFields_of_catalog {t : RouteTable} {fields : List Field} {catalog : Mapping Slot}
    {given : Option (List Field)} (hfields : t.fields.or given = some fields)
    (h : t.catalog given = .ok catalog) : Context.catalogOfFields fields = .ok catalog := by
  unfold RouteTable.catalog at h
  rw [hfields] at h
  exact orFault_eq_ok_iff.mp h

namespace Submission

/-- **A rule is evaluated with the nearest catalog.** A response is tried on the rules of the tables
along references, fallbacks left out. Each of them is evaluated with the fields of its own table if
the table has any, with those of the form if no table on the way to it has any, and always with those
of the last table on the way that has any. -/
theorem rules_read_nearest_catalog (s : Submission) :
    (∀ response, (s.select response).outcome =
      (s.items.findSome? (Item.verdict response)).getD
        (s.entry.fallbackOutcome response (some s.form.fields))) ∧
    ∀ r catalog chain, Item.rule r catalog chain ∈ s.items →
      ∃ ids t, Trail (s.tables.getD []) s.entry (s.form.id :: ids) t ∧ Route.rule r ∈ t.routes ∧
        r.isFallback = false ∧
        (∀ own, t.fields = some own → Context.catalogOfFields own = .ok catalog) ∧
        ((∀ id ∈ ids, Stop.ownFields? (s.tables.getD []) id = none) →
          Context.catalogOfFields s.form.fields = .ok catalog) ∧
        Context.catalogOfFields ((ids.filterMap (Stop.ownFields? (s.tables.getD []))).getLast?.getD
          s.form.fields) = .ok catalog := by
  refine ⟨s.outcome_select, fun r catalog chain hmem => ?_⟩
  obtain ⟨stop, hstop, hroute, hfallback, hcatalog⟩ := s.exists_stop_of_mem_items hmem
  obtain ⟨ids, hpath, hfields⟩ := Stop.fields_of_reached hstop
  have hfirst : s.start.table.fields.or s.start.fields = s.start.fields := by
    show s.entry.fields.or (some s.form.fields) = some s.form.fields
    rw [s.entry_fields]
    rfl
  have hleft : stop.table.fields.or stop.fields =
      some ((ids.filterMap (Stop.ownFields? (s.tables.getD []))).getLast?.getD s.form.fields) := by
    rw [Stop.or_fields_of_reached hfirst hstop, hfields]
    show Option.or _ (some s.form.fields) = _
    cases (ids.filterMap (Stop.ownFields? (s.tables.getD []))).getLast? <;> rfl
  have hnearest := catalogOfFields_of_catalog hleft hcatalog
  have htrail : Trail (s.tables.getD []) s.entry (s.form.id :: ids) stop.table := by
    have htrail := Stop.trail_of_reached (trail_root (s.tables.getD []) s.entry) hstop
    rw [hpath] at htrail
    rw [← s.entry_formId]
    exact htrail
  refine ⟨ids, stop.table, htrail, hroute, hfallback, ?_, ?_, hnearest⟩
  · intro own hown
    have hsame : stop.table.fields.or stop.fields = some own := by rw [hown]; rfl
    exact catalogOfFields_of_catalog hsame hcatalog
  · intro hnone
    have hnothing : ids.filterMap (Stop.ownFields? (s.tables.getD [])) = [] :=
      List.filterMap_eq_nil_iff.mpr hnone
    rw [hnothing] at hnearest
    exact hnearest

/-! ### A table between -/

section Between

/-- A field that is asked for its text. -/
def textField (id : String) : Field := ⟨.text id, .null, .text, .null, []⟩

/-- The question whether the answer to `x` is empty. -/
def asksForX : RuleRoute :=
  ⟨"r", ⟨.customMessage, .null⟩, .rule ⟨.text "x", .isEmpty, .null⟩, .missing, false⟩

/-- A form with the field `x` that routes over a table with or without fields to one that has none and
asks for `x`. -/
def overTwoTables (between : Option (List Field)) (answer : String) : Submission where
  form := ⟨"a", .null, .null, [textField "x"],
    [.reference ⟨"b", .null, .null⟩, .rule (createdFallback "f" .null)], .null, .null⟩
  raw := .byField [(.text "x", .text answer)]
  tables := some [("b", ⟨"b", [.reference ⟨"c", .null, .null⟩], between⟩),
    ("c", ⟨"c", [.rule asksForX], none⟩)]
  freshId := "g"

/-- The question is asked with the fields of the table between, if it has any. -/
theorem items_overTwoTables (between : Option (List Field)) (answer : String)
    {catalog : Mapping Slot}
    (h : Context.catalogOfFields (between.getD [textField "x"]) = .ok catalog) :
    (overTwoTables between answer).items = [.rule asksForX catalog ["a", "b", "c"]] := by
  let b : RouteTable := ⟨"b", [.reference ⟨"c", .null, .null⟩], between⟩
  let c : RouteTable := ⟨"c", [.rule asksForX], none⟩
  let ts : Tables := [("b", b), ("c", c)]
  have hgiven : between.or (some [textField "x"]) = some (between.getD [textField "x"]) := by
    cases between <;> rfl
  have hb : b.catalog (between.or (some [textField "x"])) = .ok catalog := by
    unfold RouteTable.catalog
    rw [← Option.or_assoc, Option.or_self, hgiven]
    exact orFault_eq_ok_iff.mpr h
  have hc : c.catalog (between.or (some [textField "x"])) = .ok catalog := by
    unfold RouteTable.catalog
    rw [Option.none_or, hgiven]
    exact orFault_eq_ok_iff.mpr h
  have hfollowB : ts.follow ["a"] "b" = .ok b := rfl
  have hfollowC : ts.follow ["a", "b"] "c" = .ok c := rfl
  have hlast : inlined ts ["a", "b", "c"] ["a", "b", "c"] c (between.or (some [textField "x"])) =
      [.rule asksForX catalog ["a", "b", "c"]] := inlined_of_ok hc
  have hmiddle : inlined ts ["a", "b"] ["a", "b"] b (between.or (some [textField "x"])) =
      [.rule asksForX catalog ["a", "b", "c"]] := by
    rw [inlined_of_ok hb]
    show inlinedReference ts ["a", "b"] ["a", "b"] _ ⟨"c", .null, .null⟩ ++ [] = _
    rw [List.append_nil, inlinedReference, hfollowC]
    exact hlast
  show inlined ts ["a"] ["a"] (overTwoTables between answer).entry (some [textField "x"]) = _
  rw [inlined_of_ok rfl]
  show inlinedReference ts ["a"] ["a"] (some [textField "x"]) ⟨"b", .null, .null⟩ ++ [] = _
  rw [List.append_nil, inlinedReference, hfollowB]
  exact hmiddle

/-- Over a table without fields the question is asked with the fields of the form. -/
theorem rules_read_nearest_catalog_of_form :
    let s := overTwoTables none "2"
    let catalog : Mapping Slot := [(.text "x", (textField "x").slot)]
    Item.rule asksForX catalog ["a", "b", "c"] ∈ s.items ∧
      ∃ ids t, Trail (s.tables.getD []) s.entry (s.form.id :: ids) t ∧
        Route.rule asksForX ∈ t.routes ∧ asksForX.isFallback = false ∧
        (∀ own, t.fields = some own → Context.catalogOfFields own = .ok catalog) ∧
        ((∀ id ∈ ids, Stop.ownFields? (s.tables.getD []) id = none) →
          Context.catalogOfFields s.form.fields = .ok catalog) ∧
        Context.catalogOfFields ((ids.filterMap (Stop.ownFields? (s.tables.getD []))).getLast?.getD
          s.form.fields) = .ok catalog := by
  intro s catalog
  have hmem : Item.rule asksForX catalog ["a", "b", "c"] ∈ s.items := by
    have hform : Context.catalogOfFields [textField "x"] = .ok catalog := rfl
    rw [items_overTwoTables none "2" hform]
    exact List.mem_singleton.mpr rfl
  exact ⟨hmem, (rules_read_nearest_catalog s).2 asksForX catalog _ hmem⟩

/-- Over a table with fields of its own the question is not asked with the fields of the form: `x` is
unknown there, and the route is selected although the answer to `x` is not empty. -/
theorem entry_catalog_not_handed_on :
    let s := overTwoTables (some [textField "y"]) "2"
    let response : Response := [(.text "x", .text "2")]
    let catalog : Mapping Slot := [(.text "x", (textField "x").slot)]
    (normalizeResponse s.form.fields s.raw).outcome = .ok response ∧
      Context.catalogOfFields s.form.fields = .ok catalog ∧
      (asksForX.query.evaluate ⟨response, catalog⟩).outcome = .ok false ∧
      (s.tables.getD []).get? "c" = some ⟨"c", [.rule asksForX], none⟩ ∧
      (s.select response).outcome = .ok ⟨asksForX, .rule, ["a", "b", "c"], none⟩ := by
  intro s response catalog
  have hbetween : Context.catalogOfFields [textField "y"] =
      .ok [(.text "y", (textField "y").slot)] := rfl
  have hitems := items_overTwoTables (some [textField "y"]) "2" hbetween
  refine ⟨rfl, rfl, rfl, rfl, ?_⟩
  rw [outcome_select, hitems]
  rfl

end Between

end Submission

end SubmissionRouting
