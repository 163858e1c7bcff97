import SubmissionRouting.Proofs.Routing.Inlining
import SubmissionRouting.Proofs.Routing.ReferenceGraph

/-! # Stops

A walk stops at one table after the other. A *stop* is a table with the ids on the way to it and the
fields that it is left with: its own, or those that the stop before it was left with
(`Stop.Next`). So a table without fields of its own is left with those of the last table before it
that has any, and with those of the first stop only if there is none (`Stop.fields_of_reached`).

Every item of a table is given by a stop (`Stop.Gives`, `exists_stop_of_mem_inlined`): a rule with
the catalog of that stop, or the fault of its catalog or of one of its references. -/

namespace SubmissionRouting

open Relation

/-- A table on the way, with the ids that lead to it and the fields that it is left with. -/
structure Stop where
  path : List String
  table : RouteTable
  fields : Option (List Field)

namespace Stop

/-- The stop that a table makes after this one. -/
def enter (s : Stop) (id : String) (t : RouteTable) : Stop :=
  ⟨s.path ++ [id], t, t.fields.or s.fields⟩

/-- A reference of the table leads from one stop to the other. -/
inductive Next (ts : Tables) (s : Stop) : Stop → Prop
  | follow {id : String} {t : RouteTable} (refers : id ∈ s.table.referenceIds)
    (followed : ts.follow s.path id = .ok t) : Next ts s (s.enter id t)

/-- The stop can be reached from a first one. -/
def Reached (ts : Tables) : Stop → Stop → Prop := ReflTransGen (Next ts)

section
variable {ts : Tables} {first s : Stop}

/-- What leads to a stop goes on from the first one. -/
theorem trail_of_reached {root : RouteTable} (htrail : Trail ts root first.path first.table)
    (h : Reached ts first s) : Trail ts root s.path s.table := by
  induction h with
  | refl => exact htrail
  | tail _ hnext ih =>
    obtain ⟨refers, followed⟩ := hnext
    exact ih.follow refers followed

/-- The fields of a stored table, if it has any. -/
def ownFields? (ts : Tables) (id : String) : Option (List Field) :=
  (ts.get? id).bind RouteTable.fields

/-- **The fields that a stop is left with** are those of the last table on the way from the first
stop that has any, or else those of the first stop. -/
theorem fields_of_reached (h : Reached ts first s) :
    ∃ ids, s.path = first.path ++ ids ∧
      s.fields = (ids.filterMap (ownFields? ts)).getLast?.or first.fields := by
  induction h with
  | refl => exact ⟨[], by simp, by simp⟩
  | tail _ hnext ih =>
    obtain @⟨id, t, _, followed⟩ := hnext
    obtain ⟨ids, hpath, hfields⟩ := ih
    obtain ⟨-, hget⟩ := Tables.follow_eq_ok_iff.mp followed
    have hown : ownFields? ts id = t.fields := by rw [ownFields?, hget]; rfl
    have hlast : ([id].filterMap (ownFields? ts)).getLast? = t.fields := by
      rw [← hown]
      cases hid : ownFields? ts id <;> simp [hid]
    refine ⟨ids ++ [id], by rw [enter, hpath, List.append_assoc], ?_⟩
    rw [List.filterMap_append, List.getLast?_append, hlast, Option.or_assoc, ← hfields, enter]

end

/-- A stop gives an item: a rule of its table with its catalog, the fault of a catalog that cannot
be had, or the fault of a reference that cannot be followed. -/
inductive Gives (ts : Tables) (s : Stop) : Item → Prop
  | rule {r : RuleRoute} {catalog : Mapping Slot} {chain : List String}
    (route : Route.rule r ∈ s.table.routes) (active : r.isFallback = false)
    (found : s.table.catalog s.fields = .ok catalog) : Gives ts s (.rule r catalog chain)
  | catalog {cause : Fault} (missing : s.table.catalog s.fields = .error cause) :
    Gives ts s (.fault cause)
  | reference {id : String} {e : RoutingFault} (refers : id ∈ s.table.referenceIds)
    (failed : ts.follow s.path id = .error e) : Gives ts s (.fault (.routing e))

end Stop

/-- **Every item of a table is given by a stop.** -/
theorem exists_stop_of_mem_inlined {ts : Tables} {path chain : List String} {t : RouteTable}
    {fields : Option (List Field)} {item : Item} (hmem : item ∈ inlined ts path chain t fields) :
    ∃ s, Stop.Reached ts ⟨path, t, fields⟩ s ∧ s.Gives ts item := by
  induction path, t using ts.follow_induction generalizing chain fields with
  | step path t ih =>
    rcases mem_inlined_cases hmem with ⟨cause, hcat, rfl⟩ | ⟨r, catalog, hroute, hf, hcat, rfl⟩ |
      ⟨r, hroute, ⟨e, hfollow, rfl⟩ | ⟨next, hnext, hitem⟩⟩
    · exact ⟨⟨path, t, fields⟩, ReflTransGen.refl, .catalog hcat⟩
    · exact ⟨⟨path, t, fields⟩, ReflTransGen.refl, .rule hroute hf hcat⟩
    · have hid : r.id ∈ t.referenceIds := RouteTable.mem_referenceIds_iff.mpr ⟨r, hroute, rfl⟩
      exact ⟨⟨path, t, fields⟩, ReflTransGen.refl, .reference hid hfollow⟩
    · have hid : r.id ∈ t.referenceIds := RouteTable.mem_referenceIds_iff.mpr ⟨r, hroute, rfl⟩
      obtain ⟨s, hs, hgives⟩ := ih r.id next hnext hitem
      have hstep : Stop.Next ts ⟨path, t, fields⟩
          ⟨path ++ [r.id], next, next.fields.or fields⟩ := .follow hid hnext
      exact ⟨s, ReflTransGen.head hstep hs, hgives⟩

end SubmissionRouting
