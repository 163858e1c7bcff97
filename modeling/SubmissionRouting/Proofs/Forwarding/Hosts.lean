import SubmissionRouting.Proofs.Forwarding.Places
import SubmissionRouting.Proofs.Value.Filling
import SubmissionRouting.Proofs.Value.Written
import Mathlib.Data.List.Forall2

/-! # The line of hosts

The hosts that remain have no order of their own; in their line they stand in the order of their places
(`LinesUp`). Several ids can have one place, and then it depends on their texts whether the line shows
which of them came first: ids whose texts are different but denote one number are *twins* (`AreTwins`).
The line is the same for every order of the hosts if and only if no two of them are twins
(`hostLine_perm_iff`). There is no line if a host has no place, which is so for numbers with too many
digits, whether they are ids or texts. -/

namespace SubmissionRouting

/-! ### Hosts and their texts -/

/-- The place and the text of a host. -/
def placedHost (id : Value) : Except Misuse (HostPlace × String) := do
  let s ← id.shown
  pure (← textPlace s, s)

theorem hostPlace_eq (id : Value) : hostPlace id = id.shown >>= textPlace := rfl

theorem placedHost_eq_ok_iff {id : Value} {p : HostPlace × String} :
    placedHost id = .ok p ↔ id.shown = .ok p.2 ∧ textPlace p.2 = .ok p.1 := by
  constructor
  · intro h
    obtain ⟨s, hs, h⟩ := exists_of_bind_eq_ok h
    obtain ⟨place, hplace, h⟩ := exists_of_bind_eq_ok h
    cases h
    exact ⟨hs, hplace⟩
  · rintro ⟨hs, hplace⟩
    rw [placedHost, hs, ok_bind, hplace]
    rfl

theorem exists_placedHost_iff {id : Value} :
    (∃ p, placedHost id = .ok p) ↔ ∃ place, hostPlace id = .ok place := by
  constructor
  · rintro ⟨p, hp⟩
    obtain ⟨hs, hplace⟩ := placedHost_eq_ok_iff.mp hp
    exact ⟨p.1, by rw [hostPlace_eq, hs]; exact hplace⟩
  · rintro ⟨place, hplace⟩
    obtain ⟨s, hs, hplace⟩ := exists_of_bind_eq_ok hplace
    exact ⟨(place, s), placedHost_eq_ok_iff.mpr ⟨hs, hplace⟩⟩

/-- **A host has no place** only if a number in its text has too many digits. -/
theorem failsOnly_hostPlace (id : Value) : FailsOnly (· = Misuse.tooManyDigits) (hostPlace id) := by
  refine ((Value.failsOnly_shown id).mono fun _ h => h.1).bind fun s _ => ?_
  refine FailsOnly.bind ?_ fun n? _ => ?_
  · rw [wholeNumber?_eq]
    split_ifs
    case pos => exact failsOnly_ok _
    case pos => exact failsOnly_error rfl
    all_goals exact failsOnly_ok _
  · cases n? <;> exact failsOnly_ok _

section Hosts

variable {ids : List Value} {ps : List (HostPlace × String)}

theorem mapM_of_placed (h : ids.mapM placedHost = .ok ps) :
    ids.mapM hostPlace = .ok (ps.map (·.1)) ∧ ids.mapM Value.shown = .ok (ps.map (·.2)) := by
  have hpairs := (forall₂_of_mapM h).imp fun _ _ => placedHost_eq_ok_iff.mp
  constructor
  · refine mapM_of_forall₂ (List.forall₂_map_right_iff.mpr (hpairs.imp fun id p hp => ?_))
    rw [hostPlace_eq, hp.1]
    exact hp.2
  · exact mapM_of_forall₂ (List.forall₂_map_right_iff.mpr (hpairs.imp fun id p hp => hp.1))

theorem exists_sortedHosts (h : ids.mapM placedHost = .ok ps) :
    ∃ order, order.Perm ids ∧ sortedHosts ids = .ok order ∧
      order.mapM placedHost = .ok (sortedByPlace ps) := by
  have hpairs := forall₂_of_mapM h
  have hzip : ∀ t ∈ ids.zip ps, placedHost t.1 = .ok t.2 := fun t =>
    (List.forall₂_iff_zip.mp hpairs).2
  have hids : (ids.zip ps).map Prod.fst = ids := List.map_fst_zip hpairs.length_eq.le
  have hps : (ids.zip ps).map Prod.snd = ps := List.map_snd_zip hpairs.length_eq.ge
  let sorted := (ids.zip ps).mergeSort fun s t => s.2.1.atMost t.2.1
  have hmap {α : Type} (g : Value × HostPlace × String → HostPlace × α) (hg : ∀ t, (g t).1 = t.2.1) :
      ((ids.zip ps).map g).mergeSort (fun p q => p.1.atMost q.1) = sorted.map g :=
    (List.map_mergeSort fun s _ t _ => by rw [hg s, hg t]).symm
  refine ⟨sorted.map Prod.fst, ?_, ?_, ?_⟩
  · exact ((List.mergeSort_perm _ _).map Prod.fst).trans (List.Perm.of_eq hids)
  · have hplaces : ids.mapM (fun id => do pure (← hostPlace id, id)) =
        .ok ((ids.zip ps).map fun t => (t.2.1, t.1)) := by
      conv_lhs => rw [← hids]
      rw [List.mapM_map]
      refine mapM_eq_ok_map fun t ht => ?_
      obtain ⟨hshown, hplace⟩ := placedHost_eq_ok_iff.mp (hzip t ht)
      show (hostPlace t.1 >>= _) = _
      rw [hostPlace_eq, hshown, ok_bind, hplace]
      rfl
    rw [sortedHosts, hplaces, ok_bind, hmap (fun t => (t.2.1, t.1)) fun _ => rfl, List.map_map]
    rfl
  · rw [← hps, sortedByPlace, hmap Prod.snd fun _ => rfl, List.mapM_map]
    exact mapM_eq_ok_map fun t ht => hzip t ((List.mergeSort_perm _ _).mem_iff.mp ht)

theorem hostLine_of_placed (h : ids.mapM placedHost = .ok ps) : hostLine ids = .ok (placedLine ps) := by
  obtain ⟨order, -, hsorted, hplaced⟩ := exists_sortedHosts h
  rw [hostLine, hsorted, ok_bind, (mapM_of_placed hplaced).2]
  rfl

theorem hostLine_of_ordered (qs : List (HostPlace × String)) (h : ids.mapM placedHost = .ok qs)
    (hordered : qs.Pairwise fun p q => p.1.atMost q.1 = true) :
    hostLine ids = .ok (",".intercalate (qs.map (·.2))) := by
  rw [hostLine_of_placed h, placedLine, sortedByPlace, List.mergeSort_of_pairwise hordered]

/-- **There is a line of hosts** if and only if each of them has a place. -/
theorem exists_hostLine_iff :
    (∃ line, hostLine ids = .ok line) ↔ ∀ id ∈ ids, ∃ place, hostPlace id = .ok place := by
  constructor
  · rintro ⟨line, h⟩
    obtain ⟨sorted, hsorted, -⟩ := exists_of_bind_eq_ok h
    obtain ⟨placed, hplaced, -⟩ := exists_of_bind_eq_ok hsorted
    exact fun id hid => exists_ok_map_iff.mp (exists_ok_mapM_iff.mp ⟨placed, hplaced⟩ id hid)
  · intro h
    obtain ⟨ps, hps⟩ := exists_ok_mapM_iff.mpr fun id hid => exists_placedHost_iff.mpr (h id hid)
    exact ⟨_, hostLine_of_placed hps⟩

theorem exists_placed_of_hostLine {line : String} (h : hostLine ids = .ok line) :
    ∃ ps, ids.mapM placedHost = .ok ps ∧ placedLine ps = line := by
  obtain ⟨ps, hps⟩ := exists_ok_mapM_iff.mpr fun id hid =>
    exists_placedHost_iff.mpr (exists_hostLine_iff.mp ⟨line, h⟩ id hid)
  exact ⟨ps, hps, Except.ok.inj ((hostLine_of_placed hps).symm.trans h)⟩

theorem failsOnly_hostLine (ids : List Value) : FailsOnly (· = Misuse.tooManyDigits) (hostLine ids) := by
  have hshown (id : Value) : FailsOnly (· = Misuse.tooManyDigits) id.shown :=
    (Value.failsOnly_shown id).mono fun _ h => h.1
  refine FailsOnly.bind (FailsOnly.bind (failsOnly_mapM fun id _ => ?_) fun _ _ => failsOnly_ok _)
    fun order _ => FailsOnly.bind (failsOnly_mapM fun id _ => hshown id) fun _ _ => failsOnly_ok _
  exact (failsOnly_hostPlace id).bind fun _ _ => failsOnly_ok _

theorem hostLine_eq_error_of_perm {ids' : List Value} {e : Misuse} (h : hostLine ids = .error e)
    (hperm : ids'.Perm ids) : hostLine ids' = .error e := by
  cases hline : hostLine ids' with
  | error e' => rw [failsOnly_hostLine ids' e' hline, failsOnly_hostLine ids e h]
  | ok line =>
    have hplaces := exists_hostLine_iff.mp ⟨line, hline⟩
    obtain ⟨line', hline'⟩ := exists_hostLine_iff.mpr fun id hid => hplaces id (hperm.mem_iff.mpr hid)
    rw [hline'] at h
    cases h

/-- The text has the texts of the ids, divided by commas, in the order of their places: numbers first, in
ascending order, then all others by their characters. -/
def LinesUp (ids : List Value) (line : String) : Prop :=
  ∃ (order : List Value) (places : List HostPlace) (texts : List String), order.Perm ids ∧
    order.mapM hostPlace = .ok places ∧ (places.Pairwise fun p q => p.atMost q = true) ∧
    order.mapM Value.shown = .ok texts ∧ line = ",".intercalate texts

theorem linesUp_of_hostLine {line : String} (h : hostLine ids = .ok line) : LinesUp ids line := by
  obtain ⟨ps, hps, rfl⟩ := exists_placed_of_hostLine h
  obtain ⟨order, hperm, -, hplaced⟩ := exists_sortedHosts hps
  obtain ⟨hplaces, htexts⟩ := mapM_of_placed hplaced
  exact ⟨order, _, _, hperm, hplaces, List.pairwise_map.mpr (ordered_sortedByPlace ps), htexts, rfl⟩

/-! ### Twins -/

/-- Two hosts whose texts are different, but denote one number. -/
def AreTwins (a b : Value) : Prop :=
  ∃ (s t : String) (n : Int), a.shown = .ok s ∧ b.shown = .ok t ∧ s ≠ t ∧
    wholeNumber? s.toList = .ok (some n) ∧ wholeNumber? t.toList = .ok (some n)

theorem text_eq_of_no_twins (hps : ids.mapM placedHost = .ok ps)
    (htwins : ∀ a ∈ ids, ∀ b ∈ ids, ¬ AreTwins a b) :
    ∀ p ∈ ps, ∀ q ∈ ps, p.1 = q.1 → p.2 = q.2 := by
  intro p hp q hq hplace
  obtain ⟨a, ha, hap⟩ := exists_of_mapM hps p hp
  obtain ⟨b, hb, hbq⟩ := exists_of_mapM hps q hq
  obtain ⟨has, hpplace⟩ := placedHost_eq_ok_iff.mp hap
  obtain ⟨hbs, hqplace⟩ := placedHost_eq_ok_iff.mp hbq
  obtain ⟨place, s⟩ := p
  obtain ⟨place', t⟩ := q
  cases hplace
  cases place with
  | name u => exact (eq_of_textPlace_eq_name hpplace).trans (eq_of_textPlace_eq_name hqplace).symm
  | number n =>
    by_contra hne
    exact htwins a ha b hb ⟨s, t, n, has, hbs, hne, textPlace_eq_number_iff.mp hpplace,
      textPlace_eq_number_iff.mp hqplace⟩

theorem not_areTwins_int (m n : Int) : ¬ AreTwins (.int m) (.int n) := by
  rintro ⟨s, t, k, hs, ht, hne, hsk, htk⟩
  replace hs : wholeText m = .ok s := hs
  replace ht : wholeText n = .ok t := ht
  have hm : m = k := Option.some.inj (Except.ok.inj ((wholeNumber?_wholeText hs).symm.trans hsk))
  have hn : n = k := Option.some.inj (Except.ok.inj ((wholeNumber?_wholeText ht).symm.trans htk))
  rw [hm, ← hn, ht] at hs
  exact hne (Except.ok.inj hs).symm

theorem exists_placed_of_perm {ids' : List Value} (hps : ids.mapM placedHost = .ok ps)
    (hperm : ids'.Perm ids) : ∃ qs, ids'.mapM placedHost = .ok qs ∧ qs.Perm ps := by
  obtain ⟨qs, hqs, hqp⟩ := List.perm_comp_forall₂ hperm (forall₂_of_mapM hps)
  exact ⟨qs, mapM_of_forall₂ hqs, hqp⟩

theorem placed_of_mapM (hps : ids.mapM placedHost = .ok ps) : Placed ps := by
  intro p hp
  obtain ⟨a, -, ha⟩ := exists_of_mapM hps p hp
  exact (placedHost_eq_ok_iff.mp ha).2

theorem hostLine_swap_ne {a b : Value} {rest : List Value} {line : String} (htwins : AreTwins a b)
    (h : hostLine (a :: b :: rest) = .ok line) : hostLine (b :: a :: rest) ≠ .ok line := by
  obtain ⟨s, t, n, hs, ht, hne, hsn, htn⟩ := htwins
  have ha : placedHost a = .ok (.number n, s) :=
    placedHost_eq_ok_iff.mpr ⟨hs, textPlace_eq_number_iff.mpr hsn⟩
  have hb : placedHost b = .ok (.number n, t) :=
    placedHost_eq_ok_iff.mpr ⟨ht, textPlace_eq_number_iff.mpr htn⟩
  have hplaces := exists_hostLine_iff.mp ⟨line, h⟩
  obtain ⟨ps, hps⟩ := exists_ok_mapM_iff.mpr fun id (hid : id ∈ rest) =>
    exists_placedHost_iff.mpr (hplaces id (List.mem_cons_of_mem a (List.mem_cons_of_mem b hid)))
  have hfirst : (a :: b :: rest).mapM placedHost = .ok ((.number n, s) :: (.number n, t) :: ps) := by
    rw [List.mapM_cons, List.mapM_cons, ha, hb, hps]; rfl
  have hsecond : (b :: a :: rest).mapM placedHost = .ok ((.number n, t) :: (.number n, s) :: ps) := by
    rw [List.mapM_cons, List.mapM_cons, ha, hb, hps]; rfl
  intro hswapped
  have hlines : placedLine ((.number n, t) :: (.number n, s) :: ps) =
      placedLine ((.number n, s) :: (.number n, t) :: ps) := by
    refine Except.ok.inj ((hostLine_of_placed hsecond).symm.trans ?_)
    rw [hswapped, ← h, hostLine_of_placed hfirst]
  have hsame := eq_of_placedLine_swap (placed_of_mapM hfirst) rfl rfl hlines
  exact hne (congrArg Prod.snd hsame)

theorem AreTwins.ne {a b : Value} (h : AreTwins a b) : a ≠ b := by
  rintro rfl
  obtain ⟨s, t, n, hs, ht, hne, -⟩ := h
  exact hne (Except.ok.inj (hs.symm.trans ht))

theorem exists_perm_cons_cons {a b : Value} (ha : a ∈ ids) (hb : b ∈ ids) (hne : a ≠ b) :
    ∃ rest, (a :: b :: rest).Perm ids := by
  obtain ⟨l, r, rfl⟩ := List.append_of_mem ha
  have hrest : b ∈ l ++ r := by
    have hb := List.perm_middle.mem_iff.mp hb
    exact (List.mem_cons.mp hb).resolve_left hne.symm
  obtain ⟨l', r', hlr⟩ := List.append_of_mem hrest
  refine ⟨l' ++ r', List.Perm.trans ?_ List.perm_middle.symm⟩
  rw [hlr]
  exact List.perm_middle.symm.cons a

/-- **The line is the same for every order** of the hosts if and only if no two of them are twins. -/
theorem hostLine_perm_iff {line : String} (h : hostLine ids = .ok line) :
    (∀ ids', ids'.Perm ids → hostLine ids' = .ok line) ↔
      ∀ a ∈ ids, ∀ b ∈ ids, ¬ AreTwins a b := by
  constructor
  · intro hall a ha b hb htwins
    obtain ⟨rest, hperm⟩ := exists_perm_cons_cons ha hb htwins.ne
    exact hostLine_swap_ne htwins (hall _ hperm) (hall _ ((List.Perm.swap a b rest).trans hperm))
  · intro htwins ids' hperm
    obtain ⟨ps, hps, rfl⟩ := exists_placed_of_hostLine h
    obtain ⟨qs, hqs, hqp⟩ := exists_placed_of_perm hps hperm
    rw [hostLine_of_placed hqs, placedLine_perm (text_eq_of_no_twins hps htwins) hqp]

end Hosts

/-! ### Handing the hosts on -/

section Forwarding

variable {response : Response} {fields : List Field} {address : List (Value × Value)}
  {hostsParam : Value} {controls : List Value} {ids ids' : List Value}

theorem forwardParameters_some :
    forwardParameters response fields address (some ids) hostsParam controls = (do
      let params ← forwardParameters response fields address none hostsParam controls
      let line ← hostLine ids
      let name ← hostsParam.asKey
      pure (Mapping.put params name [.text line])) := by
  simp only [forwardParameters, bind_assoc, pure_bind]

theorem exists_hostLine_of_forwardParameters {params : Parameters}
    (h : forwardParameters response fields address (some ids) hostsParam controls = .ok params) :
    ∃ line, hostLine ids = .ok line ∧ params.get? hostsParam = some [.text line] := by
  rw [forwardParameters_some] at h
  obtain ⟨others, -, h⟩ := exists_of_bind_eq_ok h
  obtain ⟨line, hline, h⟩ := exists_of_bind_eq_ok h
  obtain ⟨name, hname, h⟩ := exists_of_bind_eq_ok h
  obtain ⟨hkey, hname⟩ := Value.isKey_of_asKey hname
  refine ⟨line, hline, ?_⟩
  rw [← show Mapping.put others name [.text line] = params from Except.ok.inj h, hname]
  exact Mapping.get?_put_self hkey others _

theorem exists_forwardParameters_some_iff :
    (∃ params, forwardParameters response fields address (some ids) hostsParam controls =
        .ok params) ↔
      (∃ params, forwardParameters response fields address none hostsParam controls = .ok params) ∧
        hostsParam.isKey = true ∧ ∀ id ∈ ids, ∃ place, hostPlace id = .ok place := by
  rw [forwardParameters_some, ← exists_hostLine_iff]
  constructor
  · rintro ⟨params, h⟩
    obtain ⟨others, hothers, h⟩ := exists_of_bind_eq_ok h
    obtain ⟨line, hline, h⟩ := exists_of_bind_eq_ok h
    obtain ⟨name, hname, -⟩ := exists_of_bind_eq_ok h
    exact ⟨⟨others, hothers⟩, (Value.isKey_of_asKey hname).1, line, hline⟩
  · rintro ⟨⟨others, hothers⟩, hkey, line, hline⟩
    exact ⟨_, by rw [hothers, ok_bind, hline, ok_bind, Value.asKey_of_isKey hkey]; rfl⟩

theorem forwardParameters_congr (h : hostLine ids' = hostLine ids) :
    forwardParameters response fields address (some ids') hostsParam controls =
      forwardParameters response fields address (some ids) hostsParam controls := by
  rw [forwardParameters_some, forwardParameters_some, h]

theorem forwardParameters_eq_error_of_perm {e : Misuse}
    (h : forwardParameters response fields address (some ids) hostsParam controls = .error e)
    (hperm : ids'.Perm ids) :
    forwardParameters response fields address (some ids') hostsParam controls = .error e := by
  rw [forwardParameters_some] at h ⊢
  cases hothers : forwardParameters response fields address none hostsParam controls with
  | error e' => rwa [hothers] at h
  | ok others =>
    rw [hothers, ok_bind] at h
    rw [ok_bind]
    cases hline : hostLine ids with
    | error e' =>
      rw [hline] at h
      rw [hostLine_eq_error_of_perm hline hperm]
      exact h
    | ok line =>
      obtain ⟨line', hline'⟩ := exists_hostLine_iff.mpr fun id hid =>
        exists_hostLine_iff.mp ⟨line, hline⟩ id (hperm.mem_iff.mp hid)
      rw [hline, ok_bind] at h
      rw [hline', ok_bind]
      cases hname : hostsParam.asKey with
      | error e' => rwa [hname] at h
      | ok name => rw [hname] at h; cases h

theorem forwardParameters_eq_iff {params : Parameters} {line : String}
    (h : forwardParameters response fields address (some ids) hostsParam controls = .ok params)
    (hline : hostLine ids = .ok line) :
    forwardParameters response fields address (some ids') hostsParam controls = .ok params ↔
      hostLine ids' = .ok line := by
  obtain ⟨own, hown, hget⟩ := exists_hostLine_of_forwardParameters h
  cases hown.symm.trans hline
  constructor
  · intro h'
    obtain ⟨line', hline', hget'⟩ := exists_hostLine_of_forwardParameters h'
    rw [hget] at hget'
    cases hget'
    exact hline'
  · intro hline'
    rw [forwardParameters_congr (hline'.trans hline.symm), h]

/-- **The order of hosts is of account for twins only.** Whether there are parameters depends on the
hosts only in that each must have a place; if there are none, there are none for any other order of the
hosts. If there are, the hosts stand under the name reserved for them in one line, numbers first, in
ascending order, then all others by their characters; and all orders of the hosts give the same
parameters if and only if no two hosts are twins. -/
theorem forwardParameters_perm (response : Response) (fields : List Field)
    (address : List (Value × Value)) (hostsParam : Value) (controls : List Value)
    (ids : List Value) :
    ((∃ params, forwardParameters response fields address (some ids) hostsParam controls =
        .ok params) ↔
      (∃ params, forwardParameters response fields address none hostsParam controls = .ok params) ∧
        hostsParam.isKey = true ∧ ∀ id ∈ ids, ∃ place, hostPlace id = .ok place) ∧
    (∀ e, forwardParameters response fields address (some ids) hostsParam controls = .error e →
      ∀ ids', ids'.Perm ids →
        forwardParameters response fields address (some ids') hostsParam controls = .error e) ∧
    ∀ params, forwardParameters response fields address (some ids) hostsParam controls = .ok params →
      (∃ line, LinesUp ids line ∧ params.get? hostsParam = some [.text line]) ∧
      ((∀ ids', ids'.Perm ids →
          forwardParameters response fields address (some ids') hostsParam controls = .ok params) ↔
        ∀ a ∈ ids, ∀ b ∈ ids, ¬ AreTwins a b) := by
  refine ⟨exists_forwardParameters_some_iff, fun e h ids' => forwardParameters_eq_error_of_perm h,
    fun params h => ?_⟩
  obtain ⟨line, hline, hget⟩ := exists_hostLine_of_forwardParameters h
  refine ⟨⟨line, linesUp_of_hostLine hline, hget⟩, ?_⟩
  rw [← hostLine_perm_iff hline]
  exact forall₂_congr fun ids' _ => forwardParameters_eq_iff h hline

theorem forwardParameters_hosts {line : String} (h : hostLine ids = .ok line) :
    forwardParameters [] [] [] (some ids) defaultHostsParam defaultControlParams =
      .ok [(defaultHostsParam, [.text line])] := by
  rw [forwardParameters_some, h]
  rfl

/-- Whole numbers and a name stand in the same line in any order. -/
theorem forwardParameters_perm_three_hosts :
    ∀ ids', ids'.Perm [.int 9, .int 10, .text "b"] →
      forwardParameters [] [] [] (some ids') defaultHostsParam defaultControlParams =
        .ok [(defaultHostsParam, [.text "9,10,b"])] := by
  have hline : hostLine [.int 9, .int 10, .text "b"] = .ok "9,10,b" :=
    hostLine_of_ordered [(.number 9, "9"), (.number 10, "10"), (.name "b", "b")] rfl
      (by decide)
  obtain ⟨-, -, hok⟩ := forwardParameters_perm [] [] [] defaultHostsParam defaultControlParams
    [.int 9, .int 10, .text "b"]
  refine (hok _ (forwardParameters_hosts hline)).2.mpr ?_
  have hname (v : Value) : ¬ AreTwins v (.text "b") ∧ ¬ AreTwins (.text "b") v := by
    constructor
    · rintro ⟨s, t, n, -, ht, -, -, htn⟩
      cases ht
      cases htn
    · rintro ⟨s, t, n, hs, -, -, hsn, -⟩
      cases hs
      cases hsn
  simp only [List.forall_mem_cons, List.not_mem_nil, false_imp_iff, implies_true, and_true]
  exact ⟨⟨not_areTwins_int _ _, not_areTwins_int _ _, (hname _).1⟩,
    ⟨not_areTwins_int _ _, not_areTwins_int _ _, (hname _).1⟩, (hname _).2, (hname _).2, (hname _).1⟩

/-- Two texts of one number are different ids, and stay in the order they came in. -/
theorem twins_stay_in_order :
    Value.alike (.text "1") (.text "01") = false ∧
    forwardParameters [] [] [] (some [.text "1", .text "01"]) defaultHostsParam
      defaultControlParams = .ok [(defaultHostsParam, [.text "1,01"])] ∧
    forwardParameters [] [] [] (some [.text "01", .text "1"]) defaultHostsParam
      defaultControlParams = .ok [(defaultHostsParam, [.text "01,1"])] := by
  refine ⟨by decide, forwardParameters_hosts ?_, forwardParameters_hosts ?_⟩
  · exact hostLine_of_ordered [(.number 1, "1"), (.number 1, "01")] rfl (by decide)
  · exact hostLine_of_ordered [(.number 1, "01"), (.number 1, "1")] rfl (by decide)

end Forwarding

end SubmissionRouting
