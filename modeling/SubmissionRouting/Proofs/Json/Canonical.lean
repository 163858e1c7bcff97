import SubmissionRouting.Json.Reader
import SubmissionRouting.Json.Writer
import SubmissionRouting.Proofs.FirstFault
import SubmissionRouting.Proofs.Json.Arranged

/-! # Canonical JSON

Written with all entries sorted, a JSON value is written as it is after its entries were sorted
(`write_canonical`). So the text depends on nothing but the arranged value
(`write_canonical_congr`). A value is *kept* if its text is read back as the value, up to the order of
entries (`Keeps`). -/

namespace SubmissionRouting.Json

theorem sortedEntries_of_textKeyed {α : Type} {es : List (Value × α)} (h : TextKeyed es) :
    sortedEntries es = .ok (byKey es) := by
  have hordered : areOrdered (es.map (·.1)) = true := by
    have htexts : (es.map (·.1)).all isText = true := by
      rw [List.all_map, List.all_eq_true]
      intro e he
      obtain ⟨s, hs⟩ := h.texts e he
      rw [Function.comp_apply, hs]
      rfl
    unfold areOrdered
    rw [htexts, Bool.or_true, Bool.true_or]
  have hcompares :
      ComparesBy (fun a b : Value × α => keyLess a.1 b.1) (fun e => e.1.keyName) es := by
    intro a ha b hb
    obtain ⟨s, hs⟩ := h.texts a ha
    obtain ⟨t, ht⟩ := h.texts b hb
    show keyLess a.1 b.1 = true ↔ a.1.keyName < b.1.keyName
    rw [hs, ht]
    exact decide_eq_true_iff
  unfold sortedEntries
  rw [if_pos hordered, sortedByHalving_eq_mergeSort hcompares h.distinct]
  rfl

theorem writeEntries_eq_map (style : Style) (es : List (Value × Value)) (links : LinkText)
    (depth : Nat) :
    writeEntries style es links depth = es.map fun e => (e.1, writeAt style e.2 links depth) := by
  induction es with
  | nil => rfl
  | cons e es ih => exact congrArg ((e.1, writeAt style e.2 links depth) :: ·) ih

theorem writeAll_eq_mapM (style : Style) (vs : List Value) (links : LinkText) (depth : Nat) :
    writeAll style vs links depth = vs.mapM fun v => writeAt style v links depth := by
  induction vs with
  | nil => rfl
  | cons v vs ih =>
    rw [writeAll, List.mapM_cons, ih]

theorem bracketed_canonical : bracketed canonical = bracketed compact := by
  funext depth left right parts
  cases parts <;> rfl

/-- Sorted while they are written, entries are written as they are once they were sorted. -/
theorem bracedEntries_canonical {es : List (Value × Except Misuse String)} (h : TextKeyed es)
    (depth : Nat) : bracedEntries canonical depth es = bracedEntries compact depth (byKey es) := by
  show (sortedEntries es >>= fun es => es.mapM entryText >>= fun parts =>
    pure (bracketed canonical depth "\x7b" "\x7d" parts)) = _
  rw [sortedEntries_of_textKeyed h, bracketed_canonical]
  rfl

/-- **Sorting while writing** is sorting before. -/
theorem writeAt_canonical {v : Value} (hv : v.IsJson) (links : LinkText) (depth : Nat) :
    writeAt canonical v links depth = writeAt compact v.arranged links depth := by
  induction hv generalizing depth with
  | null | bool | int | float | text => rfl
  | @list vs items ih =>
    have hitems : (vs.mapM fun v => writeAt canonical v links (depth + 1)) =
        vs.mapM fun v => writeAt compact v.arranged links (depth + 1) :=
      mapM_congr fun v hv => ih v hv (depth + 1)
    rw [Value.arranged_list, writeAt, writeAt, writeAll_eq_mapM, writeAll_eq_mapM, hitems,
      List.mapM_map, bracketed_canonical]
    rfl
  | @map es keyed values ih =>
    have hentries : (es.map fun e => (e.1, writeAt canonical e.2 links (depth + 1))) =
        (es.map fun e => (e.1, e.2.arranged)).map
          fun e => (e.1, writeAt compact e.2 links (depth + 1)) := by
      rw [List.map_map]
      exact List.map_congr_left fun e he => by rw [ih e he (depth + 1)]; rfl
    have hkeyed : TextKeyed (es.map fun e => (e.1, writeAt canonical e.2 links (depth + 1))) :=
      (textKeyed_map_iff fun v => writeAt canonical v links (depth + 1)).mpr keyed
    rw [Value.arranged_map, writeAt, writeAt, writeEntries_eq_map, writeEntries_eq_map,
      bracedEntries_canonical hkeyed, hentries,
      byKey_map fun v => writeAt compact v links (depth + 1)]

theorem write_canonical {v : Value} (hv : v.IsJson) :
    write canonical v = write compact v.arranged := writeAt_canonical hv _ 0

/-- **The text depends on nothing but the arranged value.** -/
theorem write_canonical_congr {v w : Value} (hv : v.IsJson) (h : w.arranged = v.arranged) :
    write canonical w = write canonical v := by
  rw [write_canonical hv, write_canonical (hv.of_arranged w h), h]

/-- The text of a value is read back as the value, up to the order of entries. -/
def Keeps (v : Value) : Prop :=
  ∃ text w, write canonical v = .ok text ∧ read text = .ok w ∧ w.arranged = v.arranged

end SubmissionRouting.Json
