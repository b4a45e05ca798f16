import Sadip.DataInsert.Intention.Rows

/-!
# DataInsert/Intention/Steady — loops that stay with their vehicle

The loop over the points of a path compares the index of the *vehicle* with the number of paths, and
advances it.  If no request of a vehicle has more paths than the vehicle has vehicles before it
(`Steady`), this loop never runs: the loops around it visit every vehicle and every request of it,
and no point is stored (`yields_virSql_of_steady`).

If one has, the loops end up behind the vehicle they were at, and when everything is over there are
fewer rows than vehicles (`yields_virSql`).
-/

set_option maxRecDepth 10000

namespace Sadip

namespace DataInsert

open Printf Sql Insertion

variable {σ : Type}

/-- The requests of the vehicles, of which the first has the index `i`, have at most as many paths
as there are vehicles before. -/
def Steady (i : ℕ) (vs : List (VirData σ)) : Prop :=
  ∀ q ∈ vs.zipIdx i, ∀ r ∈ reqsOf q.1, (detectorAreaOfInfo r.info).length ≤ q.2

instance (i : ℕ) (vs : List (VirData σ)) : Decidable (Steady i vs) :=
  inferInstanceAs (Decidable (∀ q ∈ vs.zipIdx i, ∀ r ∈ reqsOf q.1, _ ≤ _))

theorem steady_nil (i : ℕ) : Steady i ([] : List (VirData σ)) := by
  rw [Steady, List.zipIdx_nil]
  exact List.forall_mem_nil _

theorem steady_cons {i : ℕ} {v : VirData σ} {vs : List (VirData σ)} :
    Steady i (v :: vs) ↔
      (∀ r ∈ reqsOf v, (detectorAreaOfInfo r.info).length ≤ i) ∧ Steady (i + 1) vs := by
  rw [Steady, List.zipIdx_cons, List.forall_mem_cons]
  rfl

/-! ## Steady loops -/

variable {print : σ → List Char} {I : Int64 → Prop} {splitId : Int32} (content : σ → List Char)
  (carried : List Int64)

/-- No point is stored. -/
def pointsRead (_ : ReferencePath) : List Position3D := []

/-- The loop over the points does not run. -/
theorem driveReqRefPosSql_of_le {j k i : ℕ} {pathId : Int64} {v : VirData σ}
    {vs : List (VirData σ)} {r : DriveRequest σ} (hr : request j (v :: vs) = some r)
    (hi : (detectorAreaOfInfo r.info).length ≤ i) :
    driveReqRefPosSql splitId j k pathId i (v :: vs) = pure ([], .here i (v :: vs)) := by
  rw [driveReqRefPosSql, hr]
  exact if_neg (Nat.not_lt.mpr hi)

theorem yields_driveReqRefSql_of_le {j i : ℕ} {requestId : Int64} {v : VirData σ}
    {vs : List (VirData σ)} {r : DriveRequest σ} (hr : request j (v :: vs) = some r)
    (hi : (detectorAreaOfInfo r.info).length ≤ i) (k : ℕ) :
    Yields print I (driveReqRefSql splitId j requestId k i (v :: vs)) (fun ds ss q =>
        q.2 = .here i (v :: vs) ∧
        Growing driveRequestReferencePath content carried
          (driveRequestReferencePathRow splitId requestId) (fun pathId p =>
            Forest.Leaves "drive_request_reference_path_position_3_d"
              (driveRequestReferencePathPosition3DRow splitId pathId) (pointsRead p))
          k ((detectorAreaOfInfo r.info).drop k) ds ss q.1) fun _ _ => False := by
  rw [driveReqRefSql]
  split
  · next hnone =>
      rw [hr] at hnone
      cases hnone
  · next r' hr' =>
      obtain rfl := Option.some.inj (hr.symm.trans hr')
      split
      · next hnone =>
          rw [List.drop_eq_nil_of_le (List.getElem?_eq_none_iff.mp hnone)]
          exact ⟨rfl, .nil⟩
      · next p hp =>
          obtain ⟨hk, hpk⟩ := List.getElem?_eq_some_iff.mp hp
          rw [yields_bind, yields_nextId]
          intro id _
          have hstores : driveRequestReferencePath.Stores content
              [.long id, .int splitId, .int p.pathRadius.toInt32, .long requestId]
              (driveRequestReferencePathRow splitId requestId id p) := Table.stores rfl rfl
          rw [yields_bind]
          refine yields_append _ hstores fun text htext => ?_
          rw [driveReqRefPosSql_of_le hr hi, pure_bind]
          refine yields_bind.mpr (yields_bind.mpr ?_)
          refine (yields_driveReqRefSql_of_le hr hi (k + 1)).mono ?_ fun _ _ h => h.elim
          rintro ds ss ⟨sqls, c⟩ ⟨rfl, hrest⟩
          refine ⟨rfl, ?_⟩
          rw [List.drop_eq_getElem_cons hk, hpk, List.append_nil, List.append_nil]
          refine .cons (fun _ _ _ => Forest.Leaves.rowsAt_eq_nil (by decide)) ?_ hrest
          exact ⟨id, .nil, htext, rfl, fun _ => rfl, fun _ h => absurd h List.not_mem_nil,
            List.filter_sublist.subperm⟩
termination_by (detectorAreaOfInfo r.info).length - k

theorem yields_virReqsSql_of_le {i : ℕ} {virId : Int64} {v : VirData σ} {vs : List (VirData σ)}
    (hi : ∀ r ∈ reqsOf v, (detectorAreaOfInfo r.info).length ≤ i) (j : ℕ) :
    Yields print I (virReqsSql splitId virId j i (v :: vs)) (fun ds ss q =>
        q.2 = .here i (v :: vs) ∧
        Growing driveRequest content carried (driveRequestRow content splitId downStreamRead virId)
          (fun requestId r => AreaForest splitId pointsRead requestId (detectorAreaOfInfo r.info))
          j ((reqsOf v).drop j) ds ss q.1) fun _ _ => False := by
  rw [virReqsSql]
  split
  · next hnone =>
      rw [List.drop_eq_nil_of_le (List.getElem?_eq_none_iff.mp hnone)]
      exact ⟨rfl, .nil⟩
  · next r hr =>
      obtain ⟨hj, hrj⟩ := List.getElem?_eq_some_iff.mp hr
      have hle := hi r (hrj ▸ List.getElem_mem hj)
      rw [yields_bind, yields_nextId]
      intro id _
      rw [yields_bind]
      refine yields_append (driveRequestRow content splitId downStreamRead virId id r)
        (Table.stores rfl rfl) fun text htext => ?_
      rw [yields_bind]
      refine (yields_driveReqRefSql_of_le content carried hr hle 0).mono ?_ fun _ _ h => h.elim
      rintro ds₁ ss₁ ⟨refSqls, c⟩ ⟨rfl, hrefs⟩
      rw [yields_bind]
      refine hrefs.yields_flush.mono ?_ fun _ _ h => h.elim
      rintro ds₂ ss₂ - ⟨F, hF, hbF⟩
      refine yields_bind.mpr ((yields_virReqsSql_of_le hi (j + 1)).mono ?_ fun _ _ h => h.elim)
      rintro ds₃ ss₃ ⟨sqls, c⟩ ⟨rfl, hrest⟩
      refine ⟨rfl, ?_⟩
      have hplanted : Planted driveRequest content carried
          (driveRequestRow content splitId downStreamRead virId) (fun requestId r =>
            AreaForest splitId pointsRead requestId (detectorAreaOfInfo r.info))
          j r ([id] ++ (ds₁ ++ ds₂)) (ss₁ ++ ss₂) text :=
        .of_bears htext List.filter_sublist.subperm hF hbF
      have hcons := Growing.cons (fun _ _ _ => AreaForest.rowsAt_eq_nil (by decide)) hplanted hrest
      rw [List.drop_eq_getElem_cons hj, hrj]
      simpa only [List.append_assoc, List.nil_append, List.append_nil] using hcons
termination_by (reqsOf v).length - j

/-- **Steady vehicles**: every vehicle and every request of it is visited, and no point. -/
theorem yields_virSql_of_steady (camId : Int64) : ∀ {i : ℕ} {vs : List (VirData σ)}, Steady i vs →
    Yields print I (virSql splitId camId i vs)
      (Growing virData content carried (virDataRow content splitId latAccelConfidRead camId)
        (VirKids content splitId pointsRead downStreamRead) i vs) fun _ _ => False
  | i, [], _ => by
      rw [virSql]
      exact .nil
  | i, v :: vs, h => by
      obtain ⟨hi, hsteady⟩ := steady_cons.mp h
      rw [virSql, yields_bind, yields_nextId]
      intro id _
      rw [yields_bind]
      refine yields_append (virDataRow content splitId latAccelConfidRead camId id v)
        (Table.stores rfl rfl) fun text htext => ?_
      have hpoints : Grows print content I carried
          (insertEach (virPathSql splitId id) (pathPlanningOf v))
          (Forest.Leaves "vir_data_path_planning_point"
            (pathPlanningPointRow splitId "vir_data_id" id) (pathPlanningOf v)) :=
        grows_leaves (t := virDataPathPlanningPoint) (fun _ _ => Table.stores rfl rfl) _
      refine hpoints.bind fun ds₁ ss₁ F hF hbF => ?_
      rw [yields_bind]
      refine (yields_virReqsSql_of_le content carried hi 0).mono ?_ fun _ _ h => h.elim
      rintro ds₂ ss₂ ⟨reqsSqls, c⟩ ⟨rfl, hreqs⟩
      rw [yields_bind]
      refine hreqs.yields_flush.mono ?_ fun _ _ h => h.elim
      rintro ds₃ ss₃ - ⟨G, hG, hbG⟩
      refine yields_bind.mpr ((yields_virSql_of_steady camId hsteady).mono ?_ fun _ _ h => h.elim)
      intro ds₄ ss₄ text' htext'
      have hplanted : Planted virData content carried
          (virDataRow content splitId latAccelConfidRead camId)
          (VirKids content splitId pointsRead downStreamRead)
          i v ([id] ++ (ds₁ ++ (ds₂ ++ ds₃))) (ss₁ ++ (ss₂ ++ ss₃)) text :=
        .of_bears htext List.filter_sublist.subperm ⟨F, G, rfl, hF, hG⟩ (hbF.append hbG)
      have hcons := Growing.cons (fun _ _ _ => VirKids.rowsAt_eq_nil (by decide)) hplanted htext'
      rw [yields_pure]
      simpa only [List.append_assoc, List.nil_append, List.append_nil] using hcons

/-! ## Where the loops end up -/

/-- The place that is reached from index `i`: the index is that of the vehicle there, and `P` holds
if it is the place where the loop began. -/
structure Cursor.Follows {vs : List (VirData σ)} (c : Cursor vs) (i : ℕ) (P : Prop) : Prop where
  index : c.i + c.rest.length = i + vs.length
  rest_ne_nil : c.rest ≠ []
  stays : c.rest.length = vs.length → P

theorem Cursor.follows_here {i : ℕ} {vs : List (VirData σ)} {P : Prop} (hvs : vs ≠ []) (hP : P) :
    (Cursor.here i vs).Follows i P :=
  ⟨rfl, hvs, fun _ => hP⟩

/-- A loop that has another loop in it. -/
theorem Cursor.Follows.within {i : ℕ} {vs : List (VirData σ)} {c : Cursor vs} {c' : Cursor c.rest}
    {P Q : Prop} (h : c.Follows i P) (h' : c'.Follows c.i Q) :
    (c'.within c.suffix).Follows i (c.rest = vs ∧ c.i = i ∧ P ∧ Q) := by
  refine ⟨h'.index.trans h.index, h'.rest_ne_nil, fun hlen => ?_⟩
  have hlen' : c'.rest.length = vs.length := hlen
  have hrest : c.rest.length = vs.length :=
    Nat.le_antisymm c.suffix.length_le (hlen' ▸ c'.suffix.length_le)
  have hindex := h.index
  exact ⟨c.suffix.eq_of_length hrest, by omega, h.stays hrest, h'.stays (hlen'.trans hrest.symm)⟩

theorem Cursor.Follows.imp {i : ℕ} {vs : List (VirData σ)} {c : Cursor vs} {P Q : Prop}
    (h : c.Follows i P) (hPQ : P → Q) : c.Follows i Q :=
  ⟨h.index, h.rest_ne_nil, fun hlen => hPQ (h.stays hlen)⟩

/-- The vehicles behind the first are another place. -/
theorem Cursor.Follows.beyond {i : ℕ} {v : VirData σ} {vs : List (VirData σ)} {c : Cursor vs}
    {P Q : Prop} (h : c.Follows (i + 1) P) :
    (c.within (List.suffix_cons v vs)).Follows i Q := by
  refine ⟨?_, h.rest_ne_nil, fun hlen => ?_⟩
  · rw [List.length_cons]
    exact h.index.trans (by omega)
  · have hlen' : c.rest.length = vs.length + 1 := hlen
    have hle := c.suffix.length_le
    omega

theorem follows_driveReqRefPosSql (j k : ℕ) (pathId : Int64) : ∀ (i : ℕ) (vs : List (VirData σ)),
    Always (fun _ => True) (driveReqRefPosSql splitId j k pathId i vs) fun q =>
      q.2.Follows i (∀ r, request j vs = some r → (detectorAreaOfInfo r.info).length ≤ i)
  | _, [] => trivial
  | i, v :: vs => by
      rw [driveReqRefPosSql]
      split
      · trivial
      next r hr =>
      dsimp only
      split
      · refine (always_true _).bind fun id _ => ?_
        split
        · trivial
        refine (always_true _).bind fun sql _ => ?_
        exact (follows_driveReqRefPosSql j k pathId (i + 1) vs).bind fun q hq => hq.beyond
      · next hi =>
        refine Cursor.follows_here (List.cons_ne_nil v vs) fun r' hr' => ?_
        rw [← Option.some.inj (hr.symm.trans hr')]
        exact Nat.not_lt.mp hi

theorem follows_driveReqRefSql (j : ℕ) (requestId : Int64) (k i : ℕ) (vs : List (VirData σ)) :
    Always (fun _ => True) (driveReqRefSql splitId j requestId k i vs) fun q =>
      q.2.Follows i (∀ r, request j vs = some r → k < (detectorAreaOfInfo r.info).length →
        (detectorAreaOfInfo r.info).length ≤ i) := by
  rw [driveReqRefSql]
  split
  · trivial
  next r hr =>
  split
  · next hk =>
    refine Cursor.follows_here (fun hnil => ?_) fun r' hr' hlt => ?_
    · rw [hnil] at hr
      cases hr
    · rw [← Option.some.inj (hr.symm.trans hr')] at hlt
      exact absurd (List.getElem?_eq_none_iff.mp hk) (Nat.not_le.mpr hlt)
  · refine (always_true _).bind fun id _ => (always_true _).bind fun sql _ => ?_
    refine (follows_driveReqRefPosSql j k id i vs).bind fun q hq => ?_
    refine (always_true _).bind fun _ _ => ?_
    refine (follows_driveReqRefSql j requestId (k + 1) q.2.i q.2.rest).bind fun q' hq' => ?_
    exact (hq.within hq').imp fun h r hr _ => h.2.2.1 r hr
termination_by (vs.length, areaSize j vs - k)
decreasing_by
  exact q.2.lex (lt_areaSize ‹request j vs = some _› ‹(detectorAreaOfInfo _)[k]? = some _›)

theorem follows_virReqsSql (virId : Int64) (j i : ℕ) (vs : List (VirData σ)) :
    Always (fun _ => True) (virReqsSql splitId virId j i vs) fun q =>
      q.2.Follows i (∀ v ∈ vs.head?, ∀ r ∈ (reqsOf v).drop j,
        (detectorAreaOfInfo r.info).length ≤ i) := by
  cases vs with
  | nil =>
      rw [virReqsSql]
      trivial
  | cons v vs =>
      rw [virReqsSql]
      split
      · next hj =>
        refine Cursor.follows_here (List.cons_ne_nil v vs) fun v' hv' => ?_
        obtain rfl := Option.some.inj hv'
        rw [List.drop_eq_nil_of_le (List.getElem?_eq_none_iff.mp hj)]
        exact fun _ h => absurd h List.not_mem_nil
      · next r hr =>
        refine (always_true _).bind fun id _ => (always_true _).bind fun sql _ => ?_
        refine (follows_driveReqRefSql j id 0 i (v :: vs)).bind fun q hq => ?_
        refine (always_true _).bind fun _ _ => ?_
        refine (follows_virReqsSql virId (j + 1) q.2.i q.2.rest).bind fun q' hq' => ?_
        refine (hq.within hq').imp fun h v' hv' => ?_
        obtain ⟨hrest, hindex, hfirst, hothers⟩ := h
        obtain rfl := Option.some.inj hv'
        obtain ⟨hj, hrj⟩ := List.getElem?_eq_some_iff.mp hr
        rw [List.drop_eq_getElem_cons hj, List.forall_mem_cons, hrj]
        rw [hrest, hindex] at hothers
        refine ⟨?_, hothers v rfl⟩
        rcases Nat.eq_zero_or_pos (detectorAreaOfInfo r.info).length with hzero | hpos
        · rw [hzero]
          exact Nat.zero_le i
        · exact hfirst r hr hpos
termination_by (vs.length, reqsSize vs - j)
decreasing_by exact q.2.lex (lt_reqsSize ‹request j (v :: vs) = some _›)

/-- **As many rows as vehicles only if they are steady**, whatever else is stored. -/
theorem yields_virSql (camId : Int64) (i : ℕ) (vs : List (VirData σ)) :
    Yields print I (virSql splitId camId i vs) (fun _ _ text => ∃ rows,
        virData.Gathers content i rows text ∧ rows.length ≤ vs.length ∧
        (rows.length = vs.length → Steady i vs)) fun _ _ => True := by
  cases vs with
  | nil =>
      rw [virSql]
      exact ⟨[], Table.gathers_nil, Nat.le_refl 0, fun _ => steady_nil i⟩
  | cons v vs =>
      rw [virSql, yields_bind, yields_nextId]
      intro id _
      rw [yields_bind]
      refine yields_append (virDataRow content splitId latAccelConfidRead camId id v)
        (Table.stores rfl rfl) fun text htext => ?_
      rw [yields_bind]
      refine (always_true _).yields.mono ?_ fun _ _ _ => trivial
      intro _ _ _ _
      rw [yields_bind]
      refine (follows_virReqsSql id 0 i (v :: vs)).yields.mono ?_ fun _ _ _ => trivial
      rintro _ _ ⟨reqsSqls, c⟩ ⟨hc, -⟩
      rw [yields_bind]
      refine (always_true _).yields.mono ?_ fun _ _ _ => trivial
      intro _ _ _ _
      rw [yields_bind]
      refine (yields_virSql camId (c.i + 1) c.rest.tail).mono ?_ fun _ _ _ => trivial
      rintro _ _ text' ⟨rows, htext', hle, hsteady⟩
      have hrest := c.suffix.length_le
      rw [List.length_tail] at hle hsteady
      rw [List.length_cons] at hrest
      refine ⟨_ :: rows, ⟨text, text', rfl, htext, htext'.shift⟩, ?_, fun heq => ?_⟩
      · rw [List.length_cons, List.length_cons]
        omega
      · rw [List.length_cons, List.length_cons] at heq
        have hpos : 0 < c.rest.length := List.length_pos_of_ne_nil hc.rest_ne_nil
        have hindex : c.i + c.rest.length = i + (v :: vs).length := hc.index
        have hstays : c.rest.length = (v :: vs).length := by
          rw [List.length_cons]
          omega
        have hi : c.i = i := by omega
        have hrest' := c.suffix.eq_of_length hstays
        rw [hrest', hi, List.tail_cons, List.length_cons] at hsteady
        refine steady_cons.mpr ⟨hc.stays hstays v rfl, hsteady (by omega)⟩
termination_by vs.length
decreasing_by
  have hle := c.suffix.length_le
  rw [List.length_tail]
  exact Nat.lt_succ_of_le (Nat.sub_le_sub_right hle 1)

end DataInsert

end Sadip
