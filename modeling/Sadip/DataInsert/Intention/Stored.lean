import Sadip.DataInsert.Intention.Room
import Sadip.DataInsert.Intention.Walk

/-!
# DataInsert/Intention/Stored — when the vehicles are stored as they are

The vehicles of `camInsert`, run from any identifier on.  `virStored_iff_steady` says when each
vehicle, each request and each point of its area has its row; `virRows_iff_read` when the rows say
what the message says.
-/

namespace Sadip

namespace DataInsert

open Printf Sql Insertion

variable {σ : Type} {print : σ → List Char} {I : Int64 → Prop} (content : σ → List Char)
  {splitId : Int32}

theorem VirForest.length_rowsAt {points : ReferencePath → List Position3D}
    {confid : Option PathPlanningPoint → Int32} {down : Option NodeReferenceId → Int32 × Int32}
    {camId : Int64} {vs : List (VirData σ)} {F : Forest Int64 Row}
    (h : VirForest content splitId points confid down camId vs F) :
    (F.rowsAt "vir_data").length = vs.length :=
  Forest.Grown.length_rowsAt (fun _ _ _ => VirKids.rowsAt_eq_nil (by decide)) h

/-- **The vehicles**: a forest if they are steady, and if not there are fewer rows than vehicles. -/
theorem yields_virList (camId : Int64) (vs : List (VirData σ)) :
    Yields print I (virList splitId camId vs) (fun _ ss _ =>
        (Steady 0 vs → ∃ F, VirForest content splitId pointsRead latAccelConfidRead downStreamRead
          camId vs F ∧ Formed content ss ∧ ∀ table, meantRows content table ss = F.rowsAt table) ∧
        ((meantRows content "vir_data" ss).length = vs.length → Steady 0 vs))
      fun _ _ => ¬Steady 0 vs := by
  by_cases hsteady : Steady 0 vs
  · rw [virList, yields_bind]
    refine (yields_virSql_of_steady content [] camId hsteady).mono ?_ fun _ _ h => h.elim
    intro ds ss text htext
    refine htext.yields_flush.mono ?_ fun _ _ h => h.elim
    rintro ds' ss' - ⟨F, hF, hbF⟩
    exact ⟨fun _ => ⟨F, hF, hbF.formed, hbF.rows⟩, fun _ => hsteady⟩
  · rw [virList, yields_bind]
    refine ((yields_virSql content camId 0 vs).and (always_virSql camId 0 vs).yields).mono ?_
      fun _ _ _ => hsteady
    rintro ds ss text ⟨⟨rows, htext, hle, hrows⟩, -, hss⟩
    have hbelow : meantRows content "vir_data" ss = [] := meantRows_eq_nil hss (by decide)
    show if _ then _ else _
    cases rows with
    | nil =>
      obtain rfl : text = [] := htext
      refine ⟨fun h => absurd h hsteady, fun hlen => hrows ?_⟩
      rwa [List.append_nil, hbelow] at hlen
    | cons r rows =>
      obtain ⟨s, hs, htable, -, hstored⟩ := htext.meaning
      have hvir : s.table = "vir_data" := htable
      rw [if_pos htext.lt_size]
      refine ⟨fun h => absurd h hsteady, fun hlen => hrows ?_⟩
      rwa [meantRows_append, hbelow, meantRows_singleton hs, if_pos hvir, hstored,
        List.nil_append] at hlen

/-- The tables of the vehicles that have strings. -/
def virTextTables : List String := ["vir_data", "drive_request"]

/-- The other tables have none. -/
theorem VirForest.letters_eq_none {points : ReferencePath → List Position3D}
    {confid : Option PathPlanningPoint → Int32} {down : Option NodeReferenceId → Int32 × Int32}
    {camId : Int64} {vs : List (VirData σ)} {F : Forest Int64 Row} {table : String}
    (htable : table ∉ virTextTables)
    (h : VirForest content splitId points confid down camId vs F) :
    ∀ r ∈ F.rowsAt table, ∀ l ∈ rowLetters r, l = none := by
  refine Forest.Grown.forall_mem_rowsAt (fun heq => ?_) (fun id v => ?_) h
  · exact absurd (heq ▸ List.mem_cons_self) htable
  refine fun f hf => Forest.Both.forall_mem_rowsAt (fun f hf => ?_) (fun f hf => ?_) hf
  · refine Forest.Leaves.forall_mem_rowsAt (fun id p => ?_) hf
    simp [rowLetters, pathPlanningPointRow]
  · refine Forest.Grown.forall_mem_rowsAt (fun heq => ?_) (fun id r f hf => ?_) hf
    · exact absurd (heq ▸ .tail _ List.mem_cons_self) htable
    · refine Forest.Grown.forall_mem_rowsAt (fun _ id p => ?_) (fun id p f hf => ?_) hf
      · simp [rowLetters, driveRequestReferencePathRow]
      · refine Forest.Leaves.forall_mem_rowsAt (fun id q => ?_) hf
        simp [rowLetters, driveRequestReferencePathPosition3DRow]

/-- **A property of what the vehicles store**, if a tuple is printed for each of them. -/
theorem delivers_virList_iff {ids : ℕ → Int64} {n : ℕ} {camId : Int64} {vs : List (VirData σ)}
    {T : List String} {P : Forest Int64 Row → Prop} {C : Prop} (hsub : virTextTables ⊆ T)
    (hletters : ∀ F F',
      VirForest content splitId pointsRead latAccelConfidRead downStreamRead camId vs F →
      P F' → ∀ table ∈ virTextTables, Forest.Alike rowLetters table F' F)
    (h : ∀ F, VirForest content splitId pointsRead latAccelConfidRead downStreamRead camId vs F →
      ((∃ F', P F' ∧ ∀ table ∈ T, F.rowsAt table = F'.rowsAt table) ↔ C)) :
    ((virList splitId camId vs).run (printed content) ids n).Delivers (fun _ ss _ =>
        (meantRows content "vir_data" ss).length = vs.length ∧ StoredAs (printed content) T P ss) ↔
      Fits (printed content) ids (virList splitId camId vs) n ∧ Steady 0 vs ∧
        (∀ s ∈ vs.flatMap (·.texts), isLiteral (content s) = true) ∧ C := by
  refine Yields.delivered_iff (I := fun _ => True) (fun _ => trivial) ?_ n
  refine (((yields_virList content camId vs).and (always_virList camId vs).yields).and
    (admits_virList (D := fun s => isLiteral (content s) = true) camId vs True).yields).mono ?_
    fun _ _ hnot hP => hnot.1.1 hP.1
  rintro ds ss - ⟨⟨⟨hforest, hsteady⟩, -, hss⟩, hadmits⟩
  have hiff : Steady 0 vs → ((meantRows content "vir_data" ss).length = vs.length ∧
      StoredAs (printed content) T P ss ↔
        (∀ s ∈ vs.flatMap (·.texts), isLiteral (content s) = true) ∧ C) := by
    intro hs
    obtain ⟨F, hF, hformed, hrows⟩ := hforest hs
    rw [and_true, admitted_virTexts_iff hs] at hadmits
    rw [hrows, hF.length_rowsAt, and_iff_right rfl, ← h F hF, ← hadmits,
      storedAs_iff hss hformed hsub]
    · simp only [hrows]
      rfl
    · intro F' hF' table htable
      rw [hrows]
      exact hletters F F' hF hF' table htable
    · intro table htable
      rw [hrows]
      exact hF.letters_eq_none content htable
  constructor
  · intro hR
    have hs := hsteady hR.1
    exact ⟨hs, (hiff hs).mp hR⟩
  · rintro ⟨hs, hP⟩
    exact (hiff hs).mpr hP

/-! ## Every vehicle, request and point -/

/-- The forest has the points of the paths, whatever is in the columns that are not taken from the
message. -/
def WholeForest (splitId : Int32) (camId : Int64) (vs : List (VirData σ)) (F : Forest Int64 Row) :
    Prop :=
  ∃ confid down, VirForest content splitId (·.activePath) confid down camId vs F

/-- The area of each request has paths without points only. -/
def Pointless (vs : List (VirData σ)) : Prop :=
  ∀ v ∈ vs, ∀ r ∈ reqsOf v, ∀ p ∈ detectorAreaOfInfo r.info, p.activePath = []

instance (vs : List (VirData σ)) : Decidable (Pointless vs) :=
  inferInstanceAs (Decidable (∀ v ∈ vs, ∀ r ∈ reqsOf v, ∀ p ∈ detectorAreaOfInfo r.info, _ = []))

variable {points points' : ReferencePath → List Position3D}
  {confid : Option PathPlanningPoint → Int32} {down : Option NodeReferenceId → Int32 × Int32}
  {camId : Int64} {vs : List (VirData σ)} {F : Forest Int64 Row}

/-- Without points it does not matter where they are taken from. -/
theorem Pointless.virForest (h : Pointless vs)
    (hpoints : ∀ p, p.activePath = [] → points p = points' p)
    (hF : VirForest content splitId points confid down camId vs F) :
    VirForest content splitId points' confid down camId vs F := by
  refine Forest.Grown.congr (fun _ _ _ => rfl) (fun v hv id f hf => ?_) hF
  obtain ⟨ps, rs, rfl, hps, hrs⟩ := hf
  refine ⟨ps, rs, rfl, hps, Forest.Grown.congr (fun _ _ _ => rfl) (fun r hr id f hf => ?_) hrs⟩
  refine Forest.Grown.congr (fun _ _ _ => rfl) (fun p hp id f hf => ?_) hf
  rwa [← hpoints p (h v hv r hr p hp)]

theorem VirForest.points_rowsAt_eq_nil
    (h : VirForest content splitId pointsRead confid down camId vs F) :
    F.rowsAt "drive_request_reference_path_position_3_d" = [] := by
  refine Forest.Grown.rowsAt_eq_nil (by decide) (fun id v f hf => ?_) h
  refine Forest.Both.rowsAt_eq_nil (fun _ => Forest.Leaves.rowsAt_eq_nil (by decide))
    (fun g hg => ?_) f hf
  refine Forest.Grown.rowsAt_eq_nil (by decide) (fun id r f hf => ?_) hg
  exact Forest.Grown.rowsAt_eq_nil (by decide) (fun _ _ _ hf => Forest.Bare.rowsAt_eq_nil hf) hf

/-- A forest with all points, and no row for one. -/
theorem VirForest.pointless (h : VirForest content splitId (·.activePath) confid down camId vs F)
    (hnil : F.rowsAt "drive_request_reference_path_position_3_d" = []) : Pointless vs := by
  intro v hv r hr p hp
  obtain ⟨_, f, ⟨ps, rs, rfl, -, hrs⟩, hf⟩ := Forest.Grown.under_rowsAt_eq_nil h hnil v hv
  rw [Forest.rowsAt_append, List.append_eq_nil_iff] at hf
  obtain ⟨_, g, hg, hgnil⟩ := Forest.Grown.under_rowsAt_eq_nil hrs hf.2 r hr
  obtain ⟨_, l, hl, hlnil⟩ := Forest.Grown.under_rowsAt_eq_nil hg hgnil p hp
  rw [← List.length_eq_zero_iff, ← hl.length_rowsAt, hlnil, List.length_nil]

theorem VirForest.whole_iff (hF : VirForest content splitId pointsRead confid down camId vs F) :
    (∃ F', WholeForest content splitId camId vs F' ∧
      ∀ table ∈ virTables, F.rowsAt table = F'.rowsAt table) ↔ Pointless vs := by
  constructor
  · rintro ⟨F', ⟨confid, down, hF'⟩, hrows⟩
    refine VirForest.pointless content hF' ?_
    rw [← hrows _ (by decide), VirForest.points_rowsAt_eq_nil content hF]
  · exact fun h =>
      ⟨F, ⟨_, _, h.virForest content (fun p hp => hp.symm) hF⟩, fun _ _ => rfl⟩

theorem rowLetters_virDataRow {confid' : Option PathPlanningPoint → Int32} {id id' : Int64}
    {v : VirData σ} : rowLetters (virDataRow content splitId confid camId id v)
      = rowLetters (virDataRow content splitId confid' camId id' v) := by
  simp only [rowLetters, virDataRow, List.map_cons, letters_int32, letters_int64]

theorem rowLetters_driveRequestRow {down' : Option NodeReferenceId → Int32 × Int32}
    {virId virId' id id' : Int64} {r : DriveRequest σ} :
    rowLetters (driveRequestRow content splitId down virId id r)
      = rowLetters (driveRequestRow content splitId down' virId' id' r) := by
  simp only [rowLetters, driveRequestRow, List.map_cons, letters_int32, letters_int64]

/-- The strings of a vehicle and its requests do not depend on what is below the requests. -/
theorem VirForest.alike_of {row : Int64 → VirData σ → Row}
    {below : Int64 → DriveRequest σ → Forest Int64 Row → Prop}
    {down' : Option NodeReferenceId → Int32 × Int32} {F F' : Forest Int64 Row}
    (hF : VirForest content splitId points confid down camId vs F)
    (hrow : ∀ id id' v, rowLetters (row id v)
      = rowLetters (virDataRow content splitId confid camId id' v))
    (hbelow : ∀ id r f, below id r f → ∀ table ∈ virTextTables, f.rowsAt table = [])
    (hF' : Forest.Grown "vir_data" row (fun id v =>
      Forest.Both (Forest.Leaves "vir_data_path_planning_point"
          (pathPlanningPointRow splitId "vir_data_id" id) (pathPlanningOf v))
        (Forest.Grown "drive_request" (driveRequestRow content splitId down' id) below (reqsOf v)))
      vs F') {table : String} (htable : table ∈ virTextTables) :
    Forest.Alike rowLetters table F' F := by
  refine hF'.alike (fun _ v id id' => hrow id id' v) ?_ hF
  rintro v id id' f f' ⟨ps, rs, rfl, hps, hrs⟩ ⟨ps', rs', rfl, hps', hrs'⟩
  refine Forest.Alike.append ?_ ?_
  · refine Forest.Leaves.alike ?_ hps hps'
    exact fun p id id' => rowLetters_pathPlanningPointRow
  · refine Forest.Grown.alike ?_ ?_ hrs hrs'
    · exact fun _ r id id' => rowLetters_driveRequestRow content
    intro r id id' f f' hf hf'
    have hnot : ∀ table ∈ virTextTables, table ∉ virTables.drop 3 := by decide
    rw [Forest.Alike, hbelow id r f hf table htable,
      AreaForest.rowsAt_eq_nil (hnot table htable) hf']

/-- A vehicle that asks for the sensor data of an area with one path. -/
def areaAsked : CamData (List Char) :=
  { CamData.blank [] with
    virList := [{ VirData.blank [] with
      intAndReq := some {
        currentPos := none, pathPlanning := none, currentBehavior := none
        reqs := [{ DriveRequest.blank [] with
          info := some (.sensorSharing
            { detectorArea := [{ activePath := [], pathRadius := 0 }] }) }] } }] }

theorem virDataRow_inj {confid' : Option PathPlanningPoint → Int32} {id id' : Int64} {v : VirData σ}
    (h : virDataRow content splitId confid camId id v =
      virDataRow content splitId confid' camId id' v) :
    confid (v.intAndReq.bind (·.currentPos)) = confid' (v.intAndReq.bind (·.currentPos)) := by
  simp only [virDataRow, List.cons.injEq, Prod.mk.injEq, true_and, and_true, int32_inj] at h
  exact h.2

theorem driveRequestRow_inj {down' : Option NodeReferenceId → Int32 × Int32}
    {virId virId' id id' : Int64} {r : DriveRequest σ}
    (h : driveRequestRow content splitId down virId id r
      = driveRequestRow content splitId down' virId' id' r) :
    down ((laneChangeOf r.info).bind (·.downStreamNode))
      = down' ((laneChangeOf r.info).bind (·.downStreamNode)) := by
  simp only [driveRequestRow, List.cons.injEq, Prod.mk.injEq, true_and, int32_inj] at h
  exact Prod.ext h.2.1 h.2.2.1

/-- The rows of a vehicle's planned points and of its requests, without their areas. -/
def VirRowKids (splitId : Int32) (id : Int64) (v : VirData σ) : Forest Int64 Row → Prop :=
  Forest.Both (Forest.Leaves "vir_data_path_planning_point"
      (pathPlanningPointRow splitId "vir_data_id" id) (pathPlanningOf v))
    (Forest.Leaves "drive_request" (driveRequestRow content splitId regionAndIdOf id) (reqsOf v))

def virRowTables : List String := ["vir_data", "vir_data_path_planning_point", "drive_request"]

/-- Every column of these rows is what the message says. -/
def VirRowForest (splitId : Int32) (camId : Int64) : List (VirData σ) → Forest Int64 Row → Prop :=
  Forest.Grown "vir_data" (virDataRow content splitId latAccelConfidOf camId)
    (VirRowKids content splitId)

/-- The builders print what the vehicle and its requests say: the lateral acceleration is its own
confidence, and no change of lanes leads to a node with a number. -/
def VirRead (v : VirData σ) : Prop :=
  latAccelConfidRead (v.intAndReq.bind (·.currentPos))
      = latAccelConfidOf (v.intAndReq.bind (·.currentPos)) ∧
    ∀ r ∈ reqsOf v, regionOf ((laneChangeOf r.info).bind (·.downStreamNode)) = 0 ∧
      nodeIdOf ((laneChangeOf r.info).bind (·.downStreamNode)) = 0

instance (v : VirData σ) : Decidable (VirRead v) :=
  inferInstanceAs (Decidable (_ ∧ ∀ r ∈ reqsOf v, _ ∧ _))

theorem VirRowKids.rowsAt_eq_nil {id : Int64} {v : VirData σ} {f : Forest Int64 Row}
    (h : VirRowKids content splitId id v f) : f.rowsAt "vir_data" = [] :=
  Forest.Both.rowsAt_eq_nil (fun _ => Forest.Leaves.rowsAt_eq_nil (by decide))
    (fun _ => Forest.Leaves.rowsAt_eq_nil (by decide)) f h

/-- The requests are the rows of their table. -/
theorem VirKids.requests {id : Int64} {v : VirData σ} {f : Forest Int64 Row}
    (h : VirKids content splitId points down id v f) :
    ∃ rs, RequestForest content splitId points down id (reqsOf v) rs ∧
      f.rowsAt "drive_request" = rs.rowsAt "drive_request" := by
  obtain ⟨ps, rs, rfl, hps, hrs⟩ := h
  exact ⟨rs, hrs, by rw [Forest.rowsAt_append, hps.rowsAt_eq_nil (by decide), List.nil_append]⟩

theorem VirRowKids.requests {id : Int64} {v : VirData σ} {f : Forest Int64 Row}
    (h : VirRowKids content splitId id v f) :
    ∃ rs, Forest.Leaves "drive_request" (driveRequestRow content splitId regionAndIdOf id)
        (reqsOf v) rs ∧ f.rowsAt "drive_request" = rs.rowsAt "drive_request" := by
  obtain ⟨ps, rs, rfl, hps, hrs⟩ := h
  exact ⟨rs, hrs, by rw [Forest.rowsAt_append, hps.rowsAt_eq_nil (by decide), List.nil_append]⟩

theorem RequestForest.length_rowsAt {id : Int64} {rs : List (DriveRequest σ)} {f : Forest Int64 Row}
    (h : RequestForest content splitId points down id rs f) :
    (f.rowsAt "drive_request").length = rs.length :=
  Forest.Grown.length_rowsAt (fun _ _ _ => AreaForest.rowsAt_eq_nil (by decide)) h

/-- A vehicle with the rows of the code and those of the message. -/
theorem VirKids.downStream_eq {id id' : Int64} {v : VirData σ} {f f' : Forest Int64 Row}
    (h : VirKids content splitId points down id v f) (h' : VirRowKids content splitId id' v f')
    (heq : f.rowsAt "drive_request" = f'.rowsAt "drive_request") : ∀ r ∈ reqsOf v,
      down ((laneChangeOf r.info).bind (·.downStreamNode))
        = regionAndIdOf ((laneChangeOf r.info).bind (·.downStreamNode)) := by
  obtain ⟨rs, hrs, hf⟩ := VirKids.requests content h
  obtain ⟨rs', hrs', hf'⟩ := VirRowKids.requests content h'
  intro r hr
  obtain ⟨_, _, hrow⟩ := Forest.Grown.row_eq (fun _ _ _ => AreaForest.rowsAt_eq_nil (by decide))
    (fun _ _ _ hf => Forest.Bare.rowsAt_eq_nil hf) hrs hrs' (hf.symm.trans (heq.trans hf')) r hr
  exact driveRequestRow_inj content hrow

/-- A vehicle whose requests print what they say. -/
theorem VirKids.rowKids {id : Int64} {v : VirData σ} {f : Forest Int64 Row}
    (h : VirKids content splitId points down id v f) (hdown : ∀ r ∈ reqsOf v,
      down ((laneChangeOf r.info).bind (·.downStreamNode))
        = regionAndIdOf ((laneChangeOf r.info).bind (·.downStreamNode))) :
    ∃ f', VirRowKids content splitId id v f' ∧
      ∀ table ∈ virRowTables, f'.rowsAt table = f.rowsAt table := by
  obtain ⟨ps, rs, rfl, hps, hrs⟩ := h
  have hrows : ∀ r ∈ reqsOf v, ∀ requestId, driveRequestRow content splitId down id requestId r
      = driveRequestRow content splitId regionAndIdOf id requestId r := by
    intro r hr requestId
    rw [driveRequestRow, driveRequestRow, hdown r hr]
  have hnot : ∀ table ∈ virRowTables, table ∉ virTables.drop 3 := by decide
  have hbare : ∀ r ∈ reqsOf v, ∀ id f, AreaForest splitId points id (detectorAreaOfInfo r.info) f →
      ∃ f' : Forest Int64 Row, f'.Bare ∧ ∀ table ∈ virRowTables,
        f'.rowsAt table = f.rowsAt table :=
    fun r _ id f hf =>
      ⟨.nil, rfl, fun table htable => (AreaForest.rowsAt_eq_nil (hnot table htable) hf).symm⟩
  obtain ⟨rs', hrs', heq⟩ := (Forest.Grown.congr hrows (fun _ _ _ _ h => h) hrs).replace hbare
  exact ⟨ps.append rs', ⟨ps, rs', rfl, hps, hrs'⟩, fun table htable => by
    rw [Forest.rowsAt_append, Forest.rowsAt_append, heq table htable]⟩

theorem VirForest.virRows_iff
    (hF : VirForest content splitId points latAccelConfidRead downStreamRead camId vs F) :
    (∃ F', VirRowForest content splitId camId vs F' ∧
      ∀ table ∈ virRowTables, F.rowsAt table = F'.rowsAt table) ↔ ∀ v ∈ vs, VirRead v := by
  constructor
  · rintro ⟨F', hF', heq⟩ v hv
    obtain ⟨_, _, hrow⟩ := Forest.Grown.row_eq (fun _ _ _ => VirKids.rowsAt_eq_nil (by decide))
      (fun _ _ _ => VirRowKids.rowsAt_eq_nil content) hF hF' (heq "vir_data" (.head _)) v hv
    obtain ⟨_, _, f, f', hf, hf', hreqs⟩ := Forest.Grown.under_eq (t := "drive_request")
      (n := fun v => (reqsOf v).length) (by decide) (fun id v f hf => by
        obtain ⟨rs, hrs, hlen⟩ := VirKids.requests content hf
        rw [hlen, RequestForest.length_rowsAt content hrs]) (fun id v f hf => by
        obtain ⟨rs, hrs, hlen⟩ := VirRowKids.requests content hf
        rw [hlen, hrs.length_rowsAt]) hF hF' (heq "drive_request" (.tail _ (.tail _ (.head _)))) v hv
    exact ⟨virDataRow_inj content hrow, fun r hr => downStreamRead_eq_regionAndIdOf.mp
      (VirKids.downStream_eq content hf hf' hreqs r hr)⟩
  · intro hread
    have hconfid : ∀ v ∈ vs, ∀ id, virDataRow content splitId latAccelConfidRead camId id v
        = virDataRow content splitId latAccelConfidOf camId id v := by
      intro v hv id
      rw [virDataRow, virDataRow, (hread v hv).1]
    obtain ⟨F', hF', heq⟩ := (Forest.Grown.congr hconfid (fun _ _ _ _ h => h) hF).replace
      fun v hv id f hf => VirKids.rowKids content hf fun r hr =>
        downStreamRead_eq_regionAndIdOf.mpr ((hread v hv).2 r hr)
    exact ⟨F', hF', fun table htable => (heq table htable).symm⟩

/-- **The rows of vehicles and requests say what the message says** exactly if the vehicles are
steady, their strings are literal and what is printed in place of three of the columns is the same.
-/
theorem virRows_iff_read (content : σ → List Char) (ids : ℕ → Int64) (n : ℕ) (splitId : Int32)
    (camId : Int64) (c : CamData σ) :
    ((virList splitId camId c.virList).run (printed content) ids n).Delivers (fun _ ss _ =>
        (meantRows content "vir_data" ss).length = c.virList.length ∧
        StoredAs (printed content) virRowTables (VirRowForest content splitId camId c.virList) ss) ↔
      Fits (printed content) ids (virList splitId camId c.virList) n ∧ Steady 0 c.virList ∧
        (∀ s ∈ c.virList.flatMap (·.texts), isLiteral (content s) = true) ∧
        ∀ v ∈ c.virList, VirRead v := by
  refine delivers_virList_iff content (by decide) (fun F F' hF hF' table htable => ?_)
    fun F hF => hF.virRows_iff content
  exact hF.alike_of content (fun _ _ _ => rowLetters_virDataRow content)
    (fun _ _ _ hf _ _ => Forest.Bare.rowsAt_eq_nil hf) hF' htable

/-- A vehicle with a lateral acceleration that asks for a change of lanes. -/
def laneAsked : CamData (List Char) :=
  { CamData.blank [] with
    virList := [{ VirData.blank [] with
      intAndReq := some {
        currentPos := some { PathPlanningPoint.blank with
          acceleration := some { lat := 5, lon := 0, vert := 0, yaw := 0 } }
        pathPlanning := none, currentBehavior := none
        reqs := [{ DriveRequest.blank [] with
          info := some (.laneChange
            { upStreamNode := none, downStreamNode := some { region := 1, nodeId := 2 },
              targetLane := 0 }) }] } }] }

theorem not_virRows :
    Fits (printed id) (fun n => .ofNat n) (virList 1 1 laneAsked.virList) 0 ∧
    Steady 0 laneAsked.virList ∧
    ¬((virList 1 1 laneAsked.virList).run (printed id) (fun n => .ofNat n) 0).Delivers
      (fun _ ss _ =>
      (meantRows id "vir_data" ss).length = laneAsked.virList.length ∧
      StoredAs (printed id) virRowTables (VirRowForest id 1 1 laneAsked.virList) ss) := by
  refine ⟨fits_virList (by decide) _ 0 1, by decide, fun h => ?_⟩
  have hread := ((virRows_iff_read id _ 0 1 1 laneAsked).mp h).2.2.2
  revert hread
  decide

end DataInsert

end Sadip
