import Sadip.DataInsert.Event.Room
import Sadip.DataInsert.Event.Rows

/-!
# DataInsert/Event/Stored — when events and signs are stored as they are

The two filtered loops of `camInsert`, run from any identifier on.  A run delivers what the message
says if all of its texts fit their buffers, and on a condition on the message for each of the three
things that go wrong:

* the start of a statement is printed for the first element, which may be passed over
  (`storedAtOnce_iff`);
* the points of the signs' paths are read from the events (`signPoints_iff`);
* the downstream node of a link is read only if there is an upstream node (`referenceLinks_iff`).
-/

namespace Sadip

namespace DataInsert

open Printf Sql Insertion

variable {σ : Type}

/-! ## The two loops -/

def RteData.kept (e : RteData σ) : Bool := !isManual e.dataSource

def RtsData.kept (e : RtsData σ) : Bool := !isManual e.dataSource

/-- The events of `camInsert`. -/
def rtePart (splitId : Int32) (camId : Int64) (c : CamData σ) : Insertion σ Unit :=
  insertEach (rteSql splitId camId c.deviceId) c.rteList

/-- The signs of `camInsert`. -/
def rtsPart (splitId : Int32) (camId : Int64) (c : CamData σ) : Insertion σ Unit :=
  insertEach (rtsDataSql splitId c.rteList camId c.deviceId) c.rtsList

variable {print : σ → List Char} {I : Int64 → Prop} (content : σ → List Char) {splitId : Int32}

theorem RteKids.rowsAt_rteData {down : ReferenceLink → Option NodeReferenceId} {id : Int64}
    {e : RteData σ} {f : Forest Int64 Row} (h : RteKids I splitId down id e f) :
    f.rowsAt rteData.table = [] :=
  h.2.rowsAt_eq_nil (by decide)

theorem RtsKids.rowsAt_rtsData {point : ℕ → ℕ → ℕ → Position3D → Position3D}
    {down : ReferenceLink → Option NodeReferenceId} {id : Int64} {q : RtsData σ × ℕ}
    {f : Forest Int64 Row} (h : RtsKids I splitId point down id q f) :
    f.rowsAt rtsData.table = [] :=
  h.2.elim fun _ h => Forest.Both.rowsAt_eq_nil (fun _ h => h.rowsAt_eq_nil (by decide))
    (fun _ h => h.rowsAt_eq_nil (by decide)) f h

theorem yields_rtePart (camId : Int64) (c : CamData σ) :
    Yields print I (rtePart splitId camId c) (fun _ ss _ =>
      ∃ F, Forest.Grown "rte_data" (fun id q => rteDataRow content splitId camId c.deviceId id q.1)
          (fun id q => RteKids I splitId downstreamRead id q.1)
          (c.rteList.zipIdx.filter fun q => q.1.kept) F ∧
        (∀ table ∈ ["rte_data_reference_link"], meantRows content table ss = F.rowsAt table) ∧
        Closes rteData content rteBelow RteData.kept c.rteList (F.rowsAt "rte_data") ss)
      fun _ _ => False := by
  refine yields_insertEach_kept long_rteData (fun _ _ _ h => h.rowsAt_rteData) (by decide)
    (fun i e he => ?_) fun q _ hq => ?_
  · rw [RteData.kept, Bool.not_eq_false'] at he
    rw [rteSql, he, if_pos rfl]
  · rw [RteData.kept, Bool.not_eq_true'] at hq
    exact sprouts_rteSql content camId c.deviceId q.2 hq

theorem yields_rtsPart (camId : Int64) {c : CamData σ} (hrange : RtsInRange c.rteList c.rtsList) :
    Yields print I (rtsPart splitId camId c) (fun _ ss _ =>
      ∃ F, Forest.Grown "rts_data" (fun id q => rtsDataRow content splitId camId c.deviceId id q.1)
          (RtsKids I splitId (pointRead c.rteList) downstreamRead)
          (c.rtsList.zipIdx.filter fun q => q.1.kept) F ∧
        (∀ table ∈ rtsBelow, meantRows content table ss = F.rowsAt table) ∧
        Closes rtsData content rtsBelow RtsData.kept c.rtsList (F.rowsAt "rts_data") ss)
      fun _ _ => False := by
  refine yields_insertEach_kept long_rtsData (fun _ _ _ h => h.rowsAt_rtsData) (by decide)
    (fun i e he => ?_) fun q hmem hq => ?_
  · rw [RtsData.kept, Bool.not_eq_false'] at he
    rw [rtsDataSql, he, if_pos rfl]
  · rw [RtsData.kept, Bool.not_eq_true'] at hq
    exact sprouts_rtsDataSql content c.rteList camId c.deviceId q.2 hq
      (hrange q.2 q.1 (List.mem_zipIdx_iff_getElem?.mp hmem) hq)

/-- One of the identifiers that are drawn. -/
def Drawn (ids : ℕ → Int64) (id : Int64) : Prop := ∃ m, ids m = id

/-- A property of what the events store. -/
theorem delivers_rtePart_iff {ids : ℕ → Int64} {n : ℕ} {camId : Int64} {c : CamData σ}
    {R : List (Text σ) → Prop} {P : Prop} (h : ∀ ss F, Forest.Grown "rte_data"
        (fun id q => rteDataRow content splitId camId c.deviceId id q.1)
        (fun id q => RteKids (Drawn ids) splitId downstreamRead id q.1)
        (c.rteList.zipIdx.filter fun q => q.1.kept) F →
      (∀ table ∈ ["rte_data_reference_link"], meantRows content table ss = F.rowsAt table) →
      Closes rteData content rteBelow RteData.kept c.rteList (F.rowsAt "rte_data") ss →
      (R ss ↔ P)) :
    ((rtePart splitId camId c).run print ids n).Delivers (fun _ ss _ => R ss) ↔
      Fits print ids (rtePart splitId camId c) n ∧ P := by
  refine Yields.delivered_iff (I := Drawn ids) (fun m => ⟨m, rfl⟩) ?_ n
  refine (yields_rtePart content camId c).mono ?_ fun _ _ h => h.elim
  rintro ds ss - ⟨F, hF, hrows, hcloses⟩
  exact h ss F hF hrows hcloses

/-- A property of what the signs store: it also needs that all of their points are found. -/
theorem delivers_rtsPart_iff {ids : ℕ → Int64} {n : ℕ} {camId : Int64} {c : CamData σ}
    {R : List (Text σ) → Prop} {P : Prop} (h : RtsInRange c.rteList c.rtsList → ∀ ss F, Forest.Grown "rts_data"
        (fun id q => rtsDataRow content splitId camId c.deviceId id q.1)
        (RtsKids (Drawn ids) splitId (pointRead c.rteList) downstreamRead)
        (c.rtsList.zipIdx.filter fun q => q.1.kept) F →
      (∀ table ∈ rtsBelow, meantRows content table ss = F.rowsAt table) →
      Closes rtsData content rtsBelow RtsData.kept c.rtsList (F.rowsAt "rts_data") ss →
      (R ss ↔ P)) :
    ((rtsPart splitId camId c).run print ids n).Delivers (fun _ ss _ => R ss) ↔
      Fits print ids (rtsPart splitId camId c) n ∧ RtsInRange c.rteList c.rtsList ∧ P := by
  refine Yields.delivered_iff (I := Drawn ids) (fun m => ⟨m, rfl⟩) ?_ n
  by_cases hrange : RtsInRange c.rteList c.rtsList
  · refine (yields_rtsPart content camId hrange).mono ?_ fun _ _ h => h.elim
    rintro ds ss - ⟨F, hF, hrows, hcloses⟩
    rw [and_iff_right hrange]
    exact h hrange ss F hF hrows hcloses
  · refine (Yields.restrict (fun _ _ => trivial)
      (completes_rtsDataSql c.rteList c.rtsList camId c.deviceId)).mono
      (fun _ _ _ h => absurd h hrange) fun _ _ _ h => hrange h.1

/-- Short strings fit. -/
theorem fits_rtePart {c : CamData σ}
    (h : ∀ e ∈ c.rteList, ((rteStrings c.deviceId e).map (Arg.bytes print)).sum ≤ 7000)
    (ids : ℕ → Int64) (n : ℕ) (camId : Int64) : Fits print ids (rtePart splitId camId c) n :=
  (roomy_insertEach fun i e he => roomy_rteSql i (h e he)).fits ids n

theorem fits_rtsPart {c : CamData σ}
    (h : ∀ e ∈ c.rtsList, ((rtsStrings c.deviceId e).map (Arg.bytes print)).sum ≤ 8000)
    (ids : ℕ → Int64) (n : ℕ) (camId : Int64) : Fits print ids (rtsPart splitId camId c) n :=
  (roomy_insertEach fun i e he => roomy_rtsDataSql c.rteList i (h e he)).fits ids n

/-! ## One statement for the elements that are kept -/

def RteData.texts (e : RteData σ) : List σ :=
  if isManual e.dataSource then []
  else e.description :: e.deviceIdList :: ((e.mapLocation.map (·.linkName)).toList ++
    [e.priority, e.eventImages, e.eventVideos])

def RtsData.texts (e : RtsData σ) : List σ :=
  if isManual e.dataSource then [] else [e.priority, e.description]

theorem rowLetters_rteDataRow {camId : Int64} {deviceId : σ} (id id' : Int64) (e : RteData σ) :
    rowLetters (rteDataRow content splitId camId deviceId id e)
      = rowLetters (rteDataRow content splitId camId deviceId id' e) := by
  simp only [rowLetters, rteDataRow, List.map_cons, letters_int32, letters_int64]

theorem rowLetters_rtsDataRow {camId : Int64} {deviceId : σ} (id id' : Int64) (e : RtsData σ) :
    rowLetters (rtsDataRow content splitId camId deviceId id e)
      = rowLetters (rtsDataRow content splitId camId deviceId id' e) := by
  simp only [rowLetters, rtsDataRow, List.map_cons, letters_int32, letters_int64]

theorem rowLiteral_rteDataRow {camId : Int64} {deviceId : σ} (id : Int64) {e : RteData σ}
    (hkept : e.kept = true) : RowLiteral (rteDataRow content splitId camId deviceId id e) ↔
      ∀ s ∈ deviceId :: e.texts, isLiteral (content s) = true := by
  rw [RteData.kept, Bool.not_eq_true'] at hkept
  rw [RteData.texts, hkept, if_neg Bool.false_ne_true]
  simp only [rteDataRow, rowLiteral_int32, rowLiteral_int64, rowLiteral_text, rowLiteral_nil,
    List.forall_mem_cons, List.forall_mem_append, Option.toList_some, List.not_mem_nil,
    false_implies, implies_true, and_true]
  tauto

theorem rowLiteral_rtsDataRow {camId : Int64} {deviceId : σ} (id : Int64) {e : RtsData σ}
    (hkept : e.kept = true) : RowLiteral (rtsDataRow content splitId camId deviceId id e) ↔
      ∀ s ∈ deviceId :: e.texts, isLiteral (content s) = true := by
  rw [RtsData.kept, Bool.not_eq_true'] at hkept
  rw [RtsData.texts, hkept, if_neg Bool.false_ne_true]
  simp only [rtsDataRow, rowLiteral_int32, rowLiteral_int64, rowLiteral_text, rowLiteral_nil,
    List.forall_mem_cons, Option.toList_some, List.not_mem_nil, false_implies, implies_true,
    and_true]
  tauto

theorem rte_storedAtOnce_iff (ids : ℕ → Int64) (n : ℕ) (camId : Int64) (c : CamData σ) :
    ((rtePart splitId camId c).run (printed content) ids n).Delivers (fun _ ss _ =>
        StoredAtOnce rteData (printed content) rteBelow (fun e => Owns (Drawn ids) e.id)
          (rteDataRow content splitId camId c.deviceId) (c.rteList.filter RteData.kept) ss) ↔
      Fits (printed content) ids (rtePart splitId camId c) n ∧ Starts RteData.kept c.rteList ∧
        ∀ e ∈ c.rteList, e.kept = true → ∀ s ∈ c.deviceId :: e.texts,
          isLiteral (content s) = true :=
  delivers_rtePart_iff content fun _ _ hF _ hcloses =>
    hcloses.atOnce_iff (fun e => c.deviceId :: e.texts) (fun _ _ _ h => h.rowsAt_rteData)
      (fun _ _ _ h => h.1) (rowLetters_rteDataRow content)
      (fun id _ => rowLiteral_rteDataRow content id) hF

theorem rts_storedAtOnce_iff (ids : ℕ → Int64) (n : ℕ) (camId : Int64) (c : CamData σ) :
    ((rtsPart splitId camId c).run (printed content) ids n).Delivers (fun _ ss _ =>
        StoredAtOnce rtsData (printed content) rtsBelow (fun _ => Drawn ids)
          (rtsDataRow content splitId camId c.deviceId) (c.rtsList.filter RtsData.kept) ss) ↔
      Fits (printed content) ids (rtsPart splitId camId c) n ∧ RtsInRange c.rteList c.rtsList ∧
        Starts RtsData.kept c.rtsList ∧ ∀ e ∈ c.rtsList, e.kept = true →
          ∀ s ∈ c.deviceId :: e.texts, isLiteral (content s) = true :=
  delivers_rtsPart_iff content fun _ _ _ hF _ hcloses =>
    hcloses.atOnce_iff (fun e => c.deviceId :: e.texts) (fun _ _ _ h => h.rowsAt_rtsData)
      (fun _ _ _ h => h.1) (rowLetters_rtsDataRow content)
      (fun id _ => rowLiteral_rtsDataRow content id) hF

/-- A manual event before another one. -/
def manualFirst : CamData (List Char) :=
  { CamData.blank [] with rteList := [{ RteData.blank [] with dataSource := 9 }, RteData.blank []] }

/-- The paths of a sign, with their own points. -/
def OwnPaths (splitId : Int32) (id : Int64) (e : RtsData σ) (f : Forest Int64 Row) : Prop :=
  ∃ forwardId, RtsPathForest splitId (fun _ _ q => q) id forwardId e.refPathList f

/-- Each point of the sign is also the point of the event with the same three indices. -/
def SharesPoints (rteList : List (RteData σ)) (q : RtsData σ × ℕ) : Prop :=
  ∀ j p, q.1.refPathList[j]? = some p → ∀ k r, p.activePath[k]? = some r →
    rteActivepath rteList q.2 j k = some r

/-- Each point of a sign that is kept. -/
def PointsShared (rteList : List (RteData σ)) (rtsList : List (RtsData σ)) : Prop :=
  ∀ i e, rtsList[i]? = some e → e.kept = true → SharesPoints rteList (e, i)

theorem PointsShared.inRange {rteList : List (RteData σ)} {rtsList : List (RtsData σ)}
    (h : PointsShared rteList rtsList) : RtsInRange rteList rtsList :=
  fun i e he hkept j p hp k q hq => by
    rw [h i e he (by rw [RtsData.kept, hkept]; rfl) j p hp k q hq]
    rfl

theorem pointsShared_iff {rteList : List (RteData σ)} {rtsList : List (RtsData σ)} :
    PointsShared rteList rtsList ↔
      ∀ q ∈ rtsList.zipIdx.filter (fun q => q.1.kept), SharesPoints rteList q :=
  ⟨fun h q hq => h q.2 q.1 (mem_filter_zipIdx.mp hq).1 (mem_filter_zipIdx.mp hq).2,
    fun h i e he hkept => h (e, i) (mem_filter_zipIdx.mpr ⟨he, hkept⟩)⟩

theorem rtsDataReferencePathPosition3DRow_inj {pathId pathId' id id' : Int64} {p p' : Position3D}
    (h : rtsDataReferencePathPosition3DRow splitId pathId id p
      = rtsDataReferencePathPosition3DRow splitId pathId' id' p') : p = p' := by
  simp only [rtsDataReferencePathPosition3DRow, List.cons.injEq, Prod.mk.injEq, true_and, int32_inj]
    at h
  obtain ⟨-, hlon, hlat, hele, -⟩ := h
  cases p
  cases p'
  cases hlon
  cases hlat
  cases hele
  rfl

variable {point point' : ℕ → ℕ → Position3D → Position3D} {ps : List ReferencePath}
  {f f' : Forest Int64 Row}

theorem RtsPathForest.congr {id forwardId : Int64} (hpoint : ∀ j p, ps[j]? = some p →
      ∀ k q, p.activePath[k]? = some q → point j k q = point' j k q)
    (h : RtsPathForest splitId point id forwardId ps f) :
    RtsPathForest splitId point' id forwardId ps f := by
  refine Forest.Grown.congr (fun _ _ _ => rfl) (fun p hp pathId g hg => ?_) h
  refine Forest.Grown.congr (fun q hq pointId => ?_) (fun _ _ _ _ h => h) hg
  rw [hpoint p.2 p.1 (List.mem_zipIdx_iff_getElem?.mp hp) q.2 q.1
    (List.mem_zipIdx_iff_getElem?.mp hq)]

/-- How many points a sign has. -/
def pointCount (ps : List ReferencePath) : ℕ := (ps.map fun p => p.activePath.length).sum

theorem RtsPathForest.length_points {id forwardId : Int64}
    (h : RtsPathForest splitId point id forwardId ps f) :
    (f.rowsAt "rts_data_reference_path_position_3_d").length = pointCount ps := by
  have hlength := Forest.Grown.length_rowsAt_below (n := fun p => p.1.activePath.length)
    (by decide) (fun _ _ _ hf => hf.length_rowsAt.trans List.length_zipIdx) h
  rw [hlength, pointCount]
  conv_rhs => rw [← List.zipIdx_map_fst 0 ps, List.map_map]
  rfl

/-- What is below a sign, less its links. -/
theorem RtsKids.ownPaths {point : ℕ → ℕ → ℕ → Position3D → Position3D}
    {down : ReferenceLink → Option NodeReferenceId} {id : Int64} {q : RtsData σ × ℕ}
    (h : RtsKids I splitId point down id q f) (hpoint : ∀ j p, q.1.refPathList[j]? = some p →
      ∀ k r, p.activePath[k]? = some r → point q.2 j k r = r) :
    ∃ f', OwnPaths splitId id q.1 f' ∧
      ∀ table ∈ rtsData.table :: rtsPathTables, f'.rowsAt table = f.rowsAt table := by
  obtain ⟨-, forwardId, paths, links, rfl, hpaths, hlinks⟩ := h
  refine ⟨paths, ⟨forwardId, hpaths.congr hpoint⟩, fun table htable => ?_⟩
  rw [Forest.rowsAt_append, hlinks.rowsAt_eq_nil, List.append_nil]
  rintro rfl
  revert htable
  decide

theorem RtsKids.length_points {point : ℕ → ℕ → ℕ → Position3D → Position3D}
    {down : ReferenceLink → Option NodeReferenceId} {id : Int64} {q : RtsData σ × ℕ}
    (h : RtsKids I splitId point down id q f) :
    (f.rowsAt "rts_data_reference_path_position_3_d").length = pointCount q.1.refPathList := by
  obtain ⟨-, forwardId, paths, links, rfl, hpaths, hlinks⟩ := h
  rw [Forest.rowsAt_append, hlinks.rowsAt_eq_nil (by decide), List.append_nil, hpaths.length_points]

/-- Paths with the same rows have the same points. -/
theorem RtsPathForest.point_eq {id id' forwardId forwardId' : Int64}
    (h : RtsPathForest splitId point id forwardId ps f)
    (h' : RtsPathForest splitId point' id' forwardId' ps f')
    (heq : f.rowsAt "rts_data_reference_path_position_3_d"
      = f'.rowsAt "rts_data_reference_path_position_3_d") :
    ∀ j p, ps[j]? = some p → ∀ k q, p.activePath[k]? = some q → point j k q = point' j k q := by
  intro j p hp k q hq
  obtain ⟨_, _, g, g', hg, hg', hgg⟩ := Forest.Grown.under_eq (n := fun p => p.1.activePath.length)
    (by decide) (fun _ _ _ hf => hf.length_rowsAt.trans List.length_zipIdx)
    (fun _ _ _ hf => hf.length_rowsAt.trans List.length_zipIdx) h h' heq (p, j)
    (List.mem_zipIdx_iff_getElem?.mpr hp)
  obtain ⟨_, _, hrow⟩ := Forest.Grown.row_eq (fun _ _ _ hf => Forest.Bare.rowsAt_eq_nil hf)
    (fun _ _ _ hf => Forest.Bare.rowsAt_eq_nil hf) hg hg' hgg (q, k)
    (List.mem_zipIdx_iff_getElem?.mpr hq)
  exact rtsDataReferencePathPosition3DRow_inj hrow

theorem OwnPaths.length_points {id : Int64} {e : RtsData σ} (h : OwnPaths splitId id e f) :
    (f.rowsAt "rts_data_reference_path_position_3_d").length = pointCount e.refPathList :=
  h.elim fun _ h => h.length_points

/-- **The signs are stored with their own points** exactly if the points that are read instead,
those of the events, are there and the same. -/
theorem signPoints_iff (print content : σ → List Char) (ids : ℕ → Int64) (n : ℕ)
    (splitId : Int32) (camId : Int64) (c : CamData σ) :
    ((rtsPart splitId camId c).run print ids n).Delivers (fun _ ss _ =>
        StoredBelow rtsData content rtsPathTables (rtsDataRow content splitId camId c.deviceId)
          (OwnPaths splitId) RtsData.kept c.rtsList ss) ↔
      Fits print ids (rtsPart splitId camId c) n ∧ PointsShared c.rteList c.rtsList := by
  rw [← and_iff_right_of_imp PointsShared.inRange, pointsShared_iff]
  refine delivers_rtsPart_iff content fun hrange ss F hF hrows hcloses => ?_
  refine hcloses.storedBelow_iff hF (fun table htable =>
    hrows table (List.mem_append_left _ htable))
    (by decide) (show "rts_data_reference_path_position_3_d" ∈ _ from .tail _ (.head _)) (by decide)
    (fun _ _ _ h => h.length_points) (fun _ _ _ h => h.length_points) ?_ ?_
  · rintro q hq id id' f f' ⟨-, forwardId, paths, links, rfl, hpaths, hlinks⟩
      ⟨_, hown⟩ heq j p hp k r hr
    rw [Forest.rowsAt_append, hlinks.rowsAt_eq_nil (by decide), List.append_nil] at heq
    have hread : pointRead c.rteList q.2 j k r = r := hpaths.point_eq hown heq j p hp k r hr
    obtain ⟨he, hkept⟩ := mem_filter_zipIdx.mp hq
    rw [RtsData.kept, Bool.not_eq_true'] at hkept
    obtain ⟨x, hx⟩ := Option.isSome_iff_exists.mp (hrange q.2 q.1 he hkept j p hp k r hr)
    rw [pointRead, hx, Option.getD_some] at hread
    rw [hx, hread]
  · intro q hq hshares id f hf
    refine hf.ownPaths fun j p hp k r hr => ?_
    rw [pointRead, hshares j p hp k r hr, Option.getD_some]

/-- A sign with a point, and no event. -/
def signOnly : CamData (List Char) :=
  { CamData.blank [] with
    rtsList := [{ RtsData.blank [] with
      refPathList := [{ activePath := [{ lat := 1, lon := 2, ele := 3 }], pathRadius := 0 }] }] }

theorem not_signPoints :
    Fits id (fun n => .ofNat n) (rtsPart 1 1 signOnly) 0 ∧
    ¬((rtsPart 1 1 signOnly).run id (fun n => .ofNat n) 0).Delivers (fun _ ss _ =>
      StoredBelow rtsData id rtsPathTables (rtsDataRow id 1 1 signOnly.deviceId) (OwnPaths 1)
        RtsData.kept signOnly.rtsList ss) := by
  refine ⟨fits_rtsPart (by decide) _ 0 1, ?_⟩
  refine (completes_rtsDataSql signOnly.rteList signOnly.rtsList 1 signOnly.deviceId).undelivered
    (fun hrange => ?_) _ 0 _
  have hfound := hrange 0 _ rfl rfl 0 _ rfl 0 _ rfl
  cases hfound

/-! ## The links of events and signs -/

/-- The builders read what the link says: it has an upstream node, or its downstream node would be
stored as zeros anyway. -/
def LinkRead (l : ReferenceLink) : Prop :=
  l.upstreamNodeId.isSome = true ∨ regionOf l.downstreamNodeId = 0 ∧ nodeIdOf l.downstreamNodeId = 0

theorem linkRead_iff (l : ReferenceLink) : LinkRead l ↔
    regionOf (downstreamRead l) = regionOf l.downstreamNodeId ∧
      nodeIdOf (downstreamRead l) = nodeIdOf l.downstreamNodeId := by
  rcases l with ⟨- | up, down, lanes⟩
  · exact ⟨fun h => (h.resolve_left Bool.false_ne_true).imp Eq.symm Eq.symm,
      fun h => .inr (h.imp Eq.symm Eq.symm)⟩
  · exact ⟨fun _ => ⟨rfl, rfl⟩, fun _ => .inl rfl⟩

variable {parent forward table : String} {down down' : ReferenceLink → Option NodeReferenceId}
  {parentId forwardId : Int64} {ls : List ReferenceLink}

theorem referenceLinkRow_inj {parentId' forwardId' id id' : Int64} {l : ReferenceLink}
    (h : referenceLinkRow splitId parent forward down parentId forwardId id l
      = referenceLinkRow splitId parent forward down' parentId' forwardId' id' l) :
    regionOf (down l) = regionOf (down' l) ∧ nodeIdOf (down l) = nodeIdOf (down' l) := by
  simp only [referenceLinkRow, List.cons.injEq, Prod.mk.injEq, true_and, int32_inj] at h
  exact ⟨h.2.1, h.2.2.1⟩

/-- Links with the same rows have the same downstream nodes. -/
theorem down_eq_of_rows {parentId' forwardId' : Int64} {f f' : Forest Int64 Row}
    (h : Forest.Leaves table
      (referenceLinkRow splitId parent forward down parentId forwardId) ls f)
    (h' : Forest.Leaves table
      (referenceLinkRow splitId parent forward down' parentId' forwardId') ls f')
    (heq : f.rowsAt table = f'.rowsAt table) : ∀ l ∈ ls,
      regionOf (down l) = regionOf (down' l) ∧ nodeIdOf (down l) = nodeIdOf (down' l) := by
  intro l hl
  obtain ⟨_, _, hrow⟩ := Forest.Grown.row_eq (fun _ _ _ hf => Forest.Bare.rowsAt_eq_nil hf)
    (fun _ _ _ hf => Forest.Bare.rowsAt_eq_nil hf) h h' heq l hl
  exact referenceLinkRow_inj hrow

theorem leaves_congr_down {f : Forest Int64 Row} (hdown : ∀ l ∈ ls,
      regionOf (down l) = regionOf (down' l) ∧ nodeIdOf (down l) = nodeIdOf (down' l))
    (h : Forest.Leaves table
      (referenceLinkRow splitId parent forward down parentId forwardId) ls f) :
    Forest.Leaves table (referenceLinkRow splitId parent forward down' parentId forwardId) ls f :=
  Forest.Grown.congr (fun l hl id => by
    rw [referenceLinkRow, referenceLinkRow, (hdown l hl).1, (hdown l hl).2]) (fun _ _ _ _ h => h) h

/-- The links of a sign, with their own nodes. -/
def OwnLinks (I : Int64 → Prop) (splitId : Int32) (id : Int64) (e : RtsData σ)
    (f : Forest Int64 Row) : Prop :=
  I id ∧ ∃ forwardId, RtsLinkForest splitId (·.downstreamNodeId) id forwardId e.refLinkList f

theorem rte_referenceLinks_iff (ids : ℕ → Int64) (n : ℕ) (camId : Int64) (c : CamData σ) :
    ((rtePart splitId camId c).run print ids n).Delivers (fun _ ss _ =>
        StoredBelow rteData content ["rte_data_reference_link"]
          (rteDataRow content splitId camId c.deviceId)
          (RteKids (Drawn ids) splitId (·.downstreamNodeId)) RteData.kept c.rteList ss) ↔
      Fits print ids (rtePart splitId camId c) n ∧
        ∀ e ∈ c.rteList, e.kept = true → ∀ l ∈ e.referenceLinks, LinkRead l := by
  rw [← forall_mem_filter_zipIdx (P := fun e => ∀ l ∈ RteData.referenceLinks e, LinkRead l)]
  refine delivers_rtePart_iff content fun ss F hF hrows hcloses => ?_
  refine hcloses.storedBelow_iff (n := fun e => e.referenceLinks.length) hF hrows (by decide)
    (.head _) (by decide) (fun _ _ _ h => h.2.elim fun _ h => h.length_rowsAt)
    (fun _ _ _ h => h.2.elim fun _ h => h.length_rowsAt) ?_ ?_
  · rintro q hq id id' f f' ⟨-, _, h⟩ ⟨-, _, h'⟩ heq l hl
    exact (linkRead_iff l).mpr (down_eq_of_rows h h' heq l hl)
  · rintro q hq hread id f ⟨hid, forwardId, h⟩
    exact ⟨f, ⟨hid, forwardId, leaves_congr_down (fun l hl => (linkRead_iff l).mp (hread l hl)) h⟩,
      fun _ _ => rfl⟩

theorem rts_referenceLinks_iff (ids : ℕ → Int64) (n : ℕ) (camId : Int64) (c : CamData σ) :
    ((rtsPart splitId camId c).run print ids n).Delivers (fun _ ss _ =>
        StoredBelow rtsData content ["rts_data_reference_link"]
          (rtsDataRow content splitId camId c.deviceId) (OwnLinks (Drawn ids) splitId)
          RtsData.kept c.rtsList ss) ↔
      Fits print ids (rtsPart splitId camId c) n ∧ RtsInRange c.rteList c.rtsList ∧
        ∀ e ∈ c.rtsList, e.kept = true → ∀ l ∈ e.refLinkList, LinkRead l := by
  rw [← forall_mem_filter_zipIdx (P := fun e => ∀ l ∈ RtsData.refLinkList e, LinkRead l)]
  refine delivers_rtsPart_iff content fun _ ss F hF hrows hcloses => ?_
  refine hcloses.storedBelow_iff (n := fun e => e.refLinkList.length) hF
    (fun table htable => hrows table (List.mem_append_right _ htable)) (by decide) (.head _)
    (by decide) ?_ (fun _ _ _ h => h.2.elim fun _ h => h.length_rowsAt) ?_ ?_
  · rintro id q f ⟨-, forwardId, paths, links, rfl, hpaths, hlinks⟩
    rw [Forest.rowsAt_append, hpaths.rowsAt_eq_nil (by decide), List.nil_append,
      hlinks.length_rowsAt]
  · rintro q hq id id' f f' ⟨-, forwardId, paths, links, rfl, hpaths, hlinks⟩ ⟨-, _, h'⟩ heq l hl
    rw [Forest.rowsAt_append, hpaths.rowsAt_eq_nil (by decide), List.nil_append] at heq
    exact (linkRead_iff l).mpr (down_eq_of_rows hlinks h' heq l hl)
  · rintro q hq hread id f ⟨hid, forwardId, paths, links, rfl, hpaths, hlinks⟩
    refine ⟨links, ⟨hid, forwardId,
      leaves_congr_down (fun l hl => (linkRead_iff l).mp (hread l hl)) hlinks⟩,
      fun table htable => ?_⟩
    have hnot : ∀ table ∈ rtsData.table :: ["rts_data_reference_link"], table ∉ rtsPathTables := by
      decide
    rw [Forest.rowsAt_append, hpaths.rowsAt_eq_nil (hnot table htable), List.nil_append]

/-- **The links are stored as they are** exactly if each link whose downstream node is not all zeros
has an upstream node. -/
theorem referenceLinks_iff (print content : σ → List Char) (ids : ℕ → Int64) (n : ℕ)
    (splitId : Int32) (camId : Int64) (c : CamData σ) :
    (((rtePart splitId camId c).run print ids n).Delivers (fun _ ss _ =>
        StoredBelow rteData content ["rte_data_reference_link"]
          (rteDataRow content splitId camId c.deviceId)
          (RteKids (Drawn ids) splitId (·.downstreamNodeId)) RteData.kept c.rteList ss) ↔
      Fits print ids (rtePart splitId camId c) n ∧
        ∀ e ∈ c.rteList, e.kept = true → ∀ l ∈ e.referenceLinks, LinkRead l) ∧
    (((rtsPart splitId camId c).run print ids n).Delivers (fun _ ss _ =>
        StoredBelow rtsData content ["rts_data_reference_link"]
          (rtsDataRow content splitId camId c.deviceId) (OwnLinks (Drawn ids) splitId)
          RtsData.kept c.rtsList ss) ↔
      Fits print ids (rtsPart splitId camId c) n ∧ RtsInRange c.rteList c.rtsList ∧
        ∀ e ∈ c.rtsList, e.kept = true → ∀ l ∈ e.refLinkList, LinkRead l) :=
  ⟨rte_referenceLinks_iff content ids n camId c, rts_referenceLinks_iff content ids n camId c⟩

/-- A link that only leads somewhere. -/
def downstreamOnly : CamData (List Char) :=
  { CamData.blank [] with
    rteList := [{ RteData.blank [] with
      referenceLinks := [{ upstreamNodeId := none,
                           downstreamNodeId := some { region := 1, nodeId := 2 },
                           referenceLanes := none }] }] }

theorem not_referenceLinks :
    Fits id (fun n => .ofNat n) (rtePart 1 1 downstreamOnly) 0 ∧
    ¬((rtePart 1 1 downstreamOnly).run id (fun n => .ofNat n) 0).Delivers (fun _ ss _ =>
      StoredBelow rteData id ["rte_data_reference_link"]
        (rteDataRow id 1 1 downstreamOnly.deviceId)
        (RteKids (Drawn fun n => .ofNat n) 1 (·.downstreamNodeId)) RteData.kept
        downstreamOnly.rteList ss) := by
  refine ⟨fits_rtePart (by decide) _ 0 1, fun h => ?_⟩
  have hread := ((rte_referenceLinks_iff id _ 0 1 downstreamOnly).mp h).2 _ (.head _) rfl _
    (.head _)
  rcases hread with hup | ⟨hregion, -⟩
  · cases hup
  · revert hregion
    decide

end DataInsert

end Sadip
