import Sadip.DataInsert.Formed
import Sadip.DataInsert.Intention.Steady

/-!
# DataInsert/Intention/Orderly — when the statements about requests are formed

The loop over the points of a path goes on at the next vehicle as long as the area there has more
paths than vehicles before it, and prints a header each time it goes round.  So its statement is one
only if it goes round once, which it does at the first request of a vehicle that has such an area,
and then the request with the same index at the next vehicle must be there and have none
(`settles`). The requests behind it are those of the next vehicle (`orderly`).
-/

set_option maxRecDepth 10000

namespace Sadip

namespace DataInsert

open Printf Sql Insertion

variable {σ : Type}

/-! ## The vehicles that are passed -/

/-- The first request of the vehicle, from the `j`th on, with more than `i` paths in its area. -/
def wide (i j : ℕ) (v : VirData σ) : Option ℕ :=
  (((reqsOf v).drop j).findIdx? fun r => i < (detectorAreaOfInfo r.info).length).map (j + ·)

/-- The first vehicle has a `j`th request, with at most `i` paths in its area. -/
def settles (j i : ℕ) (vs : List (VirData σ)) : Bool :=
  (request j vs).any fun r => (detectorAreaOfInfo r.info).length ≤ i

/-- The loop over the points never goes round twice, with the vehicles from the `i`th on and the
requests of the first of them from the `j`th on. -/
def orderly (i j : ℕ) : List (VirData σ) → Bool
  | [] => true
  | v :: vs =>
    match wide i j v with
    | none => orderly (i + 1) 0 vs
    | some j' => settles j' (i + 1) vs && orderly (i + 1) (j' + 1) vs

section

variable {i j : ℕ} {v : VirData σ} {vs : List (VirData σ)} {r : DriveRequest σ}

theorem drop_of_request (hr : request j (v :: vs) = some r) :
    (reqsOf v).drop j = r :: (reqsOf v).drop (j + 1) := by
  obtain ⟨hj, hrj⟩ := List.getElem?_eq_some_iff.mp hr
  rw [List.drop_eq_getElem_cons hj, hrj]

theorem wide_of_none (hr : request j (v :: vs) = none) : wide i j v = none := by
  rw [wide, List.drop_eq_nil_of_le (List.getElem?_eq_none_iff.mp hr)]
  rfl

theorem wide_of_le (hr : request j (v :: vs) = some r)
    (hi : (detectorAreaOfInfo r.info).length ≤ i) : wide i j v = wide i (j + 1) v := by
  rw [wide, wide, drop_of_request hr, List.findIdx?_cons,
    if_neg (by rw [decide_eq_true_iff]; exact Nat.not_lt.mpr hi), Option.map_map]
  exact congrArg (Option.map · _) (funext fun n => Nat.add_right_comm j n 1)

theorem wide_of_lt (hr : request j (v :: vs) = some r)
    (hi : i < (detectorAreaOfInfo r.info).length) : wide i j v = some j := by
  rw [wide, drop_of_request hr, List.findIdx?_cons, if_pos (decide_eq_true hi)]
  rfl

theorem orderly_of_none (hr : request j (v :: vs) = none) :
    orderly i j (v :: vs) = orderly (i + 1) 0 vs := by
  rw [orderly, wide_of_none hr]

theorem orderly_of_le (hr : request j (v :: vs) = some r)
    (hi : (detectorAreaOfInfo r.info).length ≤ i) :
    orderly i j (v :: vs) = orderly i (j + 1) (v :: vs) := by
  rw [orderly, orderly, wide_of_le hr hi]

theorem orderly_of_lt (hr : request j (v :: vs) = some r)
    (hi : i < (detectorAreaOfInfo r.info).length) :
    orderly i j (v :: vs) = (settles j (i + 1) vs && orderly (i + 1) (j + 1) vs) := by
  rw [orderly, wide_of_lt hr hi]

end

/-! ## The points of a path -/

variable {print content : σ → List Char} {splitId : Int32}

theorem settles_iff {i j : ℕ} {vs : List (VirData σ)} : settles j i vs = true ↔
    ∃ r, request j vs = some r ∧ (detectorAreaOfInfo r.info).length ≤ i := by
  rw [settles, Option.any_eq_true]
  simp only [decide_eq_true_iff]

/-- The loop goes round again, or reads what is not there. -/
theorem forms_driveReqRefPosSql_again {j k i : ℕ} {pathId : Int64} : ∀ {vs : List (VirData σ)},
    ¬settles j i vs = true → Forms print content (driveReqRefPosSql splitId j k pathId i vs) False
      (fun q => ∃ row a u, driveRequestReferencePathPosition3D.Adds content 0 row a ∧ q.1 = a ++ u)
      fun _ => False
  | [], _ => by
      rw [driveReqRefPosSql]
      exact not_false
  | v :: vs, h => by
      rw [driveReqRefPosSql]
      split
      · exact not_false
      · next r hr =>
          have hi : i < (detectorAreaOfInfo r.info).length :=
            Nat.not_le.mp fun hle => h (settles_iff.mpr ⟨r, hr, hle⟩)
          dsimp only
          rw [if_pos hi]
          refine demands_nextId.bind fun id _ => ?_
          split
          · exact not_false
          · refine (forms_append rfl).bind ?_
            rintro a ⟨row, ha⟩
            refine (demands_of_always (always_true _)).bind fun q _ => ?_
            exact demands_pure (Q := fun _ => False) ⟨row, a, q.1, ha, rfl⟩

section

variable {i j : ℕ} {pathId : Int64} {v : VirData σ} {vs : List (VirData σ)} {r : DriveRequest σ}
  {P : Prop}

/-- The loop goes round once. -/
theorem forms_driveReqRefPosSql_once (hr : request j (v :: vs) = some r)
    (hi : i < (detectorAreaOfInfo r.info).length) (hsettles : settles j (i + 1) vs = true) :
    Forms print content (driveReqRefPosSql splitId j 0 pathId i (v :: vs)) P
      (fun q => (∃ row, driveRequestReferencePathPosition3D.Adds content 0 row q.1) ∧
        q.2 = (Cursor.here (i + 1) vs).within (List.suffix_cons v vs)) fun _ => P := by
  obtain ⟨r', hr', hle⟩ := settles_iff.mp hsettles
  obtain ⟨w, ws, rfl⟩ : ∃ w ws, vs = w :: ws := by
    cases vs with
    | nil => cases hr'
    | cons w ws => exact ⟨w, ws, rfl⟩
  rw [driveReqRefPosSql, hr]
  dsimp only
  rw [if_pos hi]
  refine demands_nextId.bind fun id _ => ?_
  rw [List.getElem?_eq_getElem (Nat.zero_lt_of_lt hi)]
  refine (forms_append rfl).bind ?_
  rintro a ⟨row, ha⟩
  rw [driveReqRefPosSql_of_le hr' hle, pure_bind]
  refine demands_pure (Q := fun _ => P) ⟨⟨row, ?_⟩, rfl⟩
  rwa [List.append_nil]

/-- The loop goes round twice, or reads what is not there. -/
theorem forms_driveReqRefPosSql_twice (hr : request j (v :: vs) = some r)
    (hi : i < (detectorAreaOfInfo r.info).length) (hsettles : ¬settles j (i + 1) vs = true) :
    Forms print content (driveReqRefPosSql splitId j 0 pathId i (v :: vs)) False
      (fun q => meaning content (terminated q.1) = none ∧ 10 < Printf.size print q.1)
      fun _ => False := by
  rw [driveReqRefPosSql, hr]
  dsimp only
  rw [if_pos hi]
  refine demands_nextId.bind fun id _ => ?_
  rw [List.getElem?_eq_getElem (Nat.zero_lt_of_lt hi)]
  refine (forms_append rfl).bind ?_
  rintro a ⟨row, ha⟩
  refine (forms_driveReqRefPosSql_again hsettles).bind ?_
  rintro ⟨text, c⟩ ⟨row', a', u, ha', htext⟩
  refine demands_pure (Q := fun _ => False) ⟨?_, ?_⟩
  · rw [show text = a' ++ u from htext]
    exact ha.meaning_twice ha' u
  · have hsize : 10 < Printf.size print a := ha.gathers.lt_size
    rw [size_append]
    omega

/-! ## The paths of an area -/

/-- Paths at a vehicle where the loop over the points does not run. -/
theorem forms_driveReqRefSql_of_le {requestId : Int64} (hr : request j (v :: vs) = some r)
    (hi : (detectorAreaOfInfo r.info).length ≤ i) (k : ℕ) :
    Forms print content (driveReqRefSql splitId j requestId k i (v :: vs)) P
      (fun q => (∃ rows, driveRequestReferencePath.Gathers content k rows q.1) ∧
        q.2 = .here i (v :: vs)) fun _ => P := by
  refine .of_yields ((yields_driveReqRefSql_of_le content [] hr hi k).mono ?_ fun _ _ h => h)
  rintro ds ss q ⟨hq, F, -, htext, -, hformed, -⟩
  exact ⟨hformed, ⟨_, htext⟩, hq⟩

/-- Paths at a vehicle where it does: they go on at the next. -/
theorem forms_driveReqRefSql_of_lt {requestId : Int64} (hr : request j (v :: vs) = some r)
    (hi : i < (detectorAreaOfInfo r.info).length) :
    Forms print content (driveReqRefSql splitId j requestId 0 i (v :: vs))
      (settles j (i + 1) vs = true ∧ P)
      (fun q => (∃ rows, driveRequestReferencePath.Gathers content 0 rows q.1) ∧ vs ≠ [] ∧
        q.2.i = i + 1 ∧ q.2.rest = vs) fun _ => P := by
  rw [driveReqRefSql]
  split
  · next hnone =>
      rw [hr] at hnone
      cases hnone
  next r' hr' =>
  obtain rfl := Option.some.inj (hr.symm.trans hr')
  split
  · next hnone =>
      exact absurd (List.getElem?_eq_none_iff.mp hnone) (Nat.not_le.mpr (Nat.zero_lt_of_lt hi))
  next p hp =>
  refine demands_nextId.bind fun id _ => (forms_append rfl).bind ?_
  rintro text ⟨row, htext⟩
  by_cases hsettles : settles j (i + 1) vs = true
  · refine Demands.congr ?_ (and_iff_right hsettles).symm
    refine (forms_driveReqRefPosSql_once hr hi hsettles).bind ?_
    rintro ⟨posSqls, c⟩ ⟨⟨row', hpos⟩, hc⟩
    obtain rfl : c = _ := hc
    refine (forms_flush_of_gathers hpos.gathers).bind fun _ _ => ?_
    obtain ⟨s, hs, hle⟩ := settles_iff.mp hsettles
    obtain ⟨w, ws, rfl⟩ : ∃ w ws, vs = w :: ws := by
      cases vs with
      | nil => cases hs
      | cons w ws => exact ⟨w, ws, rfl⟩
    refine (forms_driveReqRefSql_of_le hs hle 1).bind ?_
    rintro ⟨sqls, c⟩ ⟨⟨rows, hsqls⟩, hc⟩
    obtain rfl : c = _ := hc
    exact demands_pure (Q := fun _ => P)
      ⟨⟨row :: rows, text, sqls, rfl, htext, hsqls⟩, List.cons_ne_nil w ws, rfl, rfl⟩
  · refine Demands.congr (P := False) ?_ (iff_of_false not_false fun h => hsettles h.1)
    refine (forms_driveReqRefPosSql_twice hr hi hsettles).bind ?_
    rintro ⟨posSqls, c⟩ ⟨hnone, hsize⟩
    exact (forms_flush_of_none (T := fun _ => False) (Q := fun _ => False) hnone hsize).bind
      fun _ h => h.elim

end

/-! ## The requests and the vehicles -/

/-- The loop over the points does not go round twice at the vehicles behind the place that was
reached. -/
def OrderlyBehind {vs : List (VirData σ)} (q : Text σ × Cursor vs) : Prop :=
  orderly (q.2.i + 1) 0 q.2.rest.tail = true

theorem forms_virReqsSql {virId : Int64} (i j : ℕ) (v : VirData σ) (vs : List (VirData σ)) :
    Forms print content (virReqsSql splitId virId j i (v :: vs)) (orderly i j (v :: vs) = true)
      (fun q => ∃ rows, driveRequest.Gathers content j rows q.1) OrderlyBehind := by
  rw [virReqsSql]
  split
  · next hnone =>
      rw [orderly_of_none hnone]
      exact demands_pure (Q := OrderlyBehind) ⟨[], Table.gathers_nil⟩
  next r hr =>
  refine demands_nextId.bind fun id _ => (forms_append rfl).bind ?_
  rintro text ⟨row, htext⟩
  rcases Nat.lt_or_ge i (detectorAreaOfInfo r.info).length with hi | hi
  · -- the requests behind it are those of the next vehicle
    rw [orderly_of_lt hr hi, Bool.and_eq_true]
    refine (forms_driveReqRefSql_of_lt hr hi).bind ?_
    rintro ⟨refSqls, ⟨i', rest, hsuffix⟩⟩ ⟨⟨_, hrefs⟩, hne, hindex, hrest⟩
    refine (forms_flush_of_gathers hrefs).bind fun _ _ => ?_
    obtain ⟨w, ws, hvs⟩ := List.exists_cons_of_ne_nil hne
    obtain rfl : i' = i + 1 := hindex
    obtain rfl : rest = w :: ws := hrest.trans hvs
    refine ((forms_virReqsSql (i + 1) (j + 1) w ws).congr (by rw [hvs])).bind ?_
    rintro ⟨sqls, c⟩ ⟨rows, hsqls⟩
    exact demands_pure (Q := OrderlyBehind) ⟨row :: rows, text, sqls, rfl, htext, hsqls⟩
  · rw [orderly_of_le hr hi]
    refine (forms_driveReqRefSql_of_le hr hi 0).bind ?_
    rintro ⟨refSqls, c⟩ ⟨⟨_, hrefs⟩, hc⟩
    obtain rfl : c = _ := hc
    refine (forms_flush_of_gathers hrefs).bind fun _ _ => ?_
    refine (forms_virReqsSql i (j + 1) v vs).bind ?_
    rintro ⟨sqls, c⟩ ⟨rows, hsqls⟩
    exact demands_pure (Q := OrderlyBehind) ⟨row :: rows, text, sqls, rfl, htext, hsqls⟩
termination_by (vs.length, reqsSize (v :: vs) - j)
decreasing_by
  · exact .left _ _ (by rw [hvs]; exact Nat.lt_succ_self _)
  · exact .right _ (Nat.sub_succ_lt_self _ _ (lt_reqsSize ‹request j (v :: vs) = some _›))

theorem forms_virSql (camId : Int64) (i : ℕ) (vs : List (VirData σ)) :
    Forms print content (virSql splitId camId i vs) (orderly i 0 vs = true)
      (fun text => ∃ rows, virData.Gathers content i rows text) fun _ => True := by
  cases vs with
  | nil =>
      rw [virSql]
      exact (demands_pure (Q := fun _ => True) ⟨[], Table.gathers_nil⟩).congr
        (iff_of_true trivial rfl)
  | cons v vs =>
      rw [virSql]
      refine demands_nextId.bind fun id _ => (forms_append rfl).bind ?_
      rintro text ⟨row, htext⟩
      have hpoints : Forms print content (insertEach (virPathSql splitId id) (pathPlanningOf v))
          (orderly i 0 (v :: vs) = true) (fun _ => True) fun _ => orderly i 0 (v :: vs) = true :=
        forms_insertEach (t := virDataPathPlanningPoint) fun _ _ _ =>
          demands_nextId.bind fun _ _ => forms_append rfl
      refine hpoints.bind fun _ _ => ?_
      refine (forms_virReqsSql i 0 v vs).bind ?_
      rintro ⟨reqsSqls, c⟩ ⟨_, hreqs⟩
      refine (forms_flush_of_gathers hreqs).bind fun _ _ => ?_
      refine (forms_virSql camId (c.i + 1) c.rest.tail).bind ?_
      rintro sqls ⟨rows, hsqls⟩
      exact demands_pure (Q := fun _ => True) ⟨row :: rows, text, sqls, rfl, htext, hsqls.shift⟩
termination_by vs.length
decreasing_by
  have hle := c.suffix.length_le
  rw [List.length_tail]
  exact Nat.lt_succ_of_le (Nat.sub_le_sub_right hle 1)

/-- **The vehicles** are stored by statements exactly if they are orderly. -/
theorem forms_virList (camId : Int64) (vs : List (VirData σ)) :
    Forms print content (virList splitId camId vs) (orderly 0 0 vs = true) (fun _ => True)
      fun _ => True :=
  (forms_virSql camId 0 vs).bind fun _ ⟨_, hsqls⟩ => forms_flush_of_gathers hsqls

end DataInsert

end Sadip
