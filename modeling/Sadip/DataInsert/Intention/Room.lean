import Sadip.DataInsert.Intention
import Sadip.DataInsert.Room

/-!
# DataInsert/Intention/Room — vehicles and requests that fit

The identifier of a vehicle may have five thousand bytes, the three strings of a request as many
together.
-/

set_option maxRecDepth 10000

namespace Sadip

namespace DataInsert

open Printf Sql Insertion

variable {σ : Type} {print : σ → List Char} {splitId : Int32}

/-- The buffers of a vehicle and of a request have room for strings of 5000 bytes each. -/
theorem holds_virTables :
    virData.Holds 5000 ∧ virDataPathPlanningPoint.Holds 0 ∧ driveRequest.Holds 5000 ∧
      driveRequestReferencePath.Holds 0 ∧ driveRequestReferencePathPosition3D.Holds 0 :=
  ⟨.of_chars rfl rfl (by decide +kernel), .of_chars rfl rfl (by decide +kernel),
    .of_chars rfl rfl (by decide +kernel), .of_chars rfl rfl (by decide +kernel),
    .of_chars rfl rfl (by decide +kernel)⟩

/-- The strings in the tuple of a request. -/
def requestStrings (r : DriveRequest σ) : List (Arg σ) :=
  [.str r.reqPriority, .str r.targetVeh, .str r.targetRsu]

/-- The strings of the vehicle and its requests are short. -/
def ShortVir (print : σ → List Char) (v : VirData σ) : Prop :=
  (Arg.str v.vehicleId).bytes print ≤ 5000 ∧
    ∀ r ∈ reqsOf v, ((requestStrings r).map (Arg.bytes print)).sum ≤ 5000

instance (v : VirData σ) : Decidable (ShortVir print v) :=
  inferInstanceAs (Decidable (_ ≤ _ ∧ ∀ r ∈ reqsOf v, _ ≤ _))

/-- The walk through the points prints no strings. -/
theorem roomy_driveReqRefPosSql (j k : ℕ) (pathId : Int64) : ∀ (i : ℕ) (vs : List (VirData σ)),
    Roomy print (driveReqRefPosSql splitId j k pathId i vs)
  | _, [] => trivial
  | i, v :: vs => by
      rw [driveReqRefPosSql]
      split
      · trivial
      dsimp only
      split
      · obtain ⟨-, -, -, -, hpoint⟩ := holds_virTables
        refine roomy_nextId.bind fun id => ?_
        split
        · trivial
        refine (hpoint.roomy_append 0 ?_).bind fun sql => ?_
        · exact Nat.le_refl 0
        exact (roomy_driveReqRefPosSql j k pathId (i + 1) vs).bind fun _ => trivial
      · trivial

theorem roomy_driveReqRefSql (j : ℕ) (requestId : Int64) (k i : ℕ) (vs : List (VirData σ)) :
    Roomy print (driveReqRefSql splitId j requestId k i vs) := by
  rw [driveReqRefSql]
  split
  · trivial
  split
  · trivial
  obtain ⟨-, -, -, hpath, -⟩ := holds_virTables
  refine roomy_nextId.bind fun id => ?_
  refine (hpath.roomy_append k ?_).bind fun sql => ?_
  · exact Nat.le_refl 0
  refine (roomy_driveReqRefPosSql j k id i vs).bind fun q => (roomy_flush q.1).bind fun _ => ?_
  exact (roomy_driveReqRefSql j requestId (k + 1) q.2.i q.2.rest).bind fun _ => trivial
termination_by (vs.length, areaSize j vs - k)
decreasing_by
  exact q.2.lex (lt_areaSize ‹request j vs = some _› ‹(detectorAreaOfInfo _)[k]? = some _›)

/-- The walk may go on to any of the vehicles, so all of them must be short. -/
theorem roomy_virReqsSql (virId : Int64) (j i : ℕ) (vs : List (VirData σ)) :
    (∀ v ∈ vs, ShortVir print v) → Roomy print (virReqsSql splitId virId j i vs) := by
  cases vs with
  | nil =>
      intro _
      rw [virReqsSql]
      trivial
  | cons v vs =>
      intro h
      rw [virReqsSql]
      split
      · trivial
      next r hr =>
      obtain ⟨hj, hrj⟩ := List.getElem?_eq_some_iff.mp hr
      have hshort := (h v (.head _)).2 r (hrj ▸ List.getElem_mem hj)
      obtain ⟨-, -, hrequest, -⟩ := holds_virTables
      refine roomy_nextId.bind fun id => ?_
      refine (hrequest.roomy_append j ?_).bind fun sql => ?_
      · simpa only [requestStrings, List.map_cons, List.map_nil, List.sum_cons, Arg.bytes,
          Nat.zero_add] using hshort
      refine (roomy_driveReqRefSql j id 0 i (v :: vs)).bind fun q => (roomy_flush q.1).bind
        fun _ => ?_
      exact (roomy_virReqsSql virId (j + 1) q.2.i q.2.rest fun u hu =>
        h u (q.2.suffix.subset hu)).bind fun _ => trivial
termination_by (vs.length, reqsSize vs - j)
decreasing_by exact q.2.lex (lt_reqsSize ‹request j (v :: vs) = some _›)

theorem roomy_virPathSql (virId : Int64) (i : ℕ) (p : PathPlanningPoint) :
    Roomy print (virPathSql splitId virId i p) := by
  obtain ⟨-, hpoint, -⟩ := holds_virTables
  refine roomy_nextId.bind fun id => hpoint.roomy_append i ?_
  simp only [List.map_cons, List.map_nil, List.sum_cons, List.sum_nil, Arg.bytes, Nat.add_zero,
    Nat.le_refl]

/-- **Short vehicles have room**, wherever the walk goes. -/
theorem roomy_virSql (camId : Int64) (i : ℕ) (vs : List (VirData σ)) :
    (∀ v ∈ vs, ShortVir print v) → Roomy print (virSql splitId camId i vs) := by
  cases vs with
  | nil =>
      intro _
      rw [virSql]
      trivial
  | cons v vs =>
      intro h
      rw [virSql]
      obtain ⟨hvehicle, -⟩ := holds_virTables
      refine roomy_nextId.bind fun id => ?_
      refine (hvehicle.roomy_append i ?_).bind fun sql => ?_
      · simpa only [List.map_cons, List.map_nil, List.sum_cons, List.sum_nil, Arg.bytes,
          Nat.zero_add, Nat.add_zero] using (h v (.head _)).1
      refine (roomy_insertEach fun k p _ => roomy_virPathSql id k p).bind fun _ => ?_
      refine (roomy_virReqsSql id 0 i (v :: vs) h).bind fun q => (roomy_flush q.1).bind fun _ => ?_
      exact (roomy_virSql camId (q.2.i + 1) q.2.rest.tail fun u hu =>
        h u (q.2.suffix.subset (List.mem_of_mem_tail hu))).bind fun _ => trivial
termination_by vs.length
decreasing_by
  have hle := q.2.suffix.length_le
  rw [List.length_tail]
  exact Nat.lt_succ_of_le (Nat.sub_le_sub_right hle 1)

/-- **Short strings fit.** -/
theorem fits_virList {vs : List (VirData σ)} (h : ∀ v ∈ vs, ShortVir print v) (ids : ℕ → Int64)
    (n : ℕ) (camId : Int64) : Fits print ids (virList splitId camId vs) n :=
  ((roomy_virSql camId 0 vs h).bind roomy_flush).fits ids n

end DataInsert

end Sadip
