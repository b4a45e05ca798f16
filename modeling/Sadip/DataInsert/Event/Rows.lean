import Sadip.DataInsert.Event
import Sadip.DataInsert.Kept

/-!
# DataInsert/Event/Rows — the rows of events and signs

What one event and one sign store, read off their builders (`sprouts_rteSql`, `sprouts_rtsDataSql`).
Two things in it are not what the message says, and are parameters here: `down`, the node that a
link is said to lead to, and `point`, where the points of a path are read from.
-/

set_option maxRecDepth 10000

namespace Sadip

namespace DataInsert

open Printf Sql Insertion

variable {σ : Type}

/-! ## Rows -/

section

variable (content : σ → List Char) (splitId : Int32)

def rteDataRow (camId : Int64) (deviceId : σ) (id : Int64) (e : RteData σ) : Row :=
  [("id", int64 id), ("split_id", int32 splitId), ("rte_id", int32 e.rteId.toInt32),
   ("rte_type", int32 e.rteType.toInt32), ("description", text content e.description),
   ("device_id_list", text content e.deviceIdList), ("lat", int32 (latOf e.rtePos)),
   ("lon", int32 (lonOf e.rtePos)), ("ele", int32 (eleOf e.rtePos)),
   ("node_region_id", int32 (regionOf (e.mapLocation.bind (·.nodeId)))),
   ("node_id", int32 (nodeIdOf (e.mapLocation.bind (·.nodeId)))),
   ("link_name", text content (e.mapLocation.map (·.linkName))),
   ("upstream_node_region_id", int32 (regionOf (e.mapLocation.bind (·.upstreamNodeId)))),
   ("upstream_node_node_id", int32 (nodeIdOf (e.mapLocation.bind (·.upstreamNodeId)))),
   ("section_id", int32 (e.mapLocation.elim 0 (·.sectionId.toInt32))),
   ("lane_id", int32 (e.mapLocation.elim 0 (·.laneId.toInt32))),
   ("event_radius", int32 e.eventRadius.toInt32),
   ("start_time", int64 (e.timeDetails.elim 0 (·.startTime.toInt64))),
   ("end_time", int64 (e.timeDetails.elim 0 (·.endTime.toInt64))),
   ("priority", text content e.priority), ("event_confid", int32 e.eventConfid),
   ("event_images", text content e.eventImages), ("event_videos", text content e.eventVideos),
   ("event_source_id", int32 e.eventSource), ("data_source_id", int32 e.dataSource),
   ("end_time_confidence_id", int32 (e.timeDetails.elim 0 (·.endTimeConfidence))),
   ("cam_data_id", int64 camId), ("device_id", text content deviceId)]

def rtsDataRow (camId : Int64) (deviceId : σ) (id : Int64) (e : RtsData σ) : Row :=
  [("id", int64 id), ("split_id", int32 splitId), ("rts_id", int32 e.rtsId),
   ("rts_type", int32 e.rtsType), ("priority", text content e.priority),
   ("lat", int32 (latOf e.rtsPos)), ("lon", int32 (lonOf e.rtsPos)),
   ("ele", int32 (eleOf e.rtsPos)),
   ("start_time", int64 (e.timeDetails.elim 0 (·.startTime.toInt64))),
   ("end_time", int64 (e.timeDetails.elim 0 (·.endTime.toInt64))),
   ("description", text content e.description), ("path_radius", int32 e.pathRadius.toInt32),
   ("data_source_id", int64 e.dataSource.toInt64),
   ("end_time_confidence_id", int32 (e.timeDetails.elim 0 (·.endTimeConfidence))),
   ("cam_data_id", int64 camId), ("device_id", text content deviceId)]

end

section

variable (splitId : Int32)

def rtsDataReferencePathRow (rtsDataId forwardRtsDataId id : Int64) (p : ReferencePath) : Row :=
  [("id", int64 id), ("split_id", int32 splitId), ("path_radius", int32 p.pathRadius.toInt32),
   ("rts_data_id", int64 rtsDataId), ("forward_rts_data_id", int64 forwardRtsDataId)]

def rtsDataReferencePathPosition3DRow (pathId id : Int64) (p : Position3D) : Row :=
  [("id", int64 id), ("split_id", int32 splitId), ("lon", int32 p.lon), ("lat", int32 p.lat),
   ("ele", int32 p.ele), ("rts_data_reference_path_id", int64 pathId)]

/-- The row of a link below an element, whose columns are called `parent` and `forward`. -/
def referenceLinkRow (parent forward : String) (down : ReferenceLink → Option NodeReferenceId)
    (parentId forwardId id : Int64) (l : ReferenceLink) : Row :=
  [("id", int64 id), ("split_id", int32 splitId),
   ("upstream_node_region_id", int32 (regionOf l.upstreamNodeId)),
   ("upstream_node_id", int32 (nodeIdOf l.upstreamNodeId)),
   ("downstream_node_region_id", int32 (regionOf (down l))),
   ("downstream_node_id", int32 (nodeIdOf (down l))),
   ("reference_lanes", int32 (l.referenceLanes.elim 0 (·.referenceLanes.toInt32))),
   (parent, int64 parentId), (forward, int64 forwardId)]

/-- The node that a link leads to, as the builders take it: none without an upstream node. -/
def downstreamRead (l : ReferenceLink) : Option NodeReferenceId :=
  l.upstreamNodeId.bind fun _ => l.downstreamNodeId

/-- The links of an event. -/
def RteLinkForest (down : ReferenceLink → Option NodeReferenceId) (rteDataId : Int64)
    (ls : List ReferenceLink) (f : Forest Int64 Row) : Prop :=
  ∃ forwardRteDataId, Forest.Leaves "rte_data_reference_link" (referenceLinkRow splitId
    "rte_data_id" "forward_rte_data_id" down rteDataId forwardRteDataId) ls f

/-- The links of a sign. -/
def RtsLinkForest (down : ReferenceLink → Option NodeReferenceId)
    (rtsDataId forwardRtsDataId : Int64) : List ReferenceLink → Forest Int64 Row → Prop :=
  Forest.Leaves "rts_data_reference_link" (referenceLinkRow splitId "rts_data_id"
    "forward_rts_data_id" down rtsDataId forwardRtsDataId)

/-- The paths of a sign; `point j k` is stored for the `k`th point of the `j`th of them. -/
def RtsPathForest (point : ℕ → ℕ → Position3D → Position3D) (rtsDataId forwardRtsDataId : Int64)
    (ps : List ReferencePath) : Forest Int64 Row → Prop :=
  Forest.Grown "rts_data_reference_path"
    (fun id p => rtsDataReferencePathRow splitId rtsDataId forwardRtsDataId id p.1)
    (fun id p => Forest.Leaves "rts_data_reference_path_position_3_d"
      (fun pointId q => rtsDataReferencePathPosition3DRow splitId id pointId (point p.2 q.2 q.1))
      p.1.activePath.zipIdx) ps.zipIdx

end

/-- The point that is read for the `k`th point of the `j`th path of the `i`th sign. -/
def pointRead (rteList : List (RteData σ)) (i j k : ℕ) (q : Position3D) : Position3D :=
  (rteActivepath rteList i j k).getD q

/-! ## Tables that are not of a forest -/

variable {splitId : Int32} {t : String} {f : Forest Int64 Row}

theorem RteLinkForest.rowsAt_eq_nil (ht : t ≠ "rte_data_reference_link")
    {down : ReferenceLink → Option NodeReferenceId} {id : Int64} {ls : List ReferenceLink}
    (h : RteLinkForest splitId down id ls f) : f.rowsAt t = [] :=
  h.elim fun _ h => h.rowsAt_eq_nil ht

theorem RtsLinkForest.rowsAt_eq_nil (ht : t ≠ "rts_data_reference_link")
    {down : ReferenceLink → Option NodeReferenceId} {id forwardId : Int64} {ls : List ReferenceLink}
    (h : RtsLinkForest splitId down id forwardId ls f) : f.rowsAt t = [] :=
  Forest.Leaves.rowsAt_eq_nil ht h

theorem RtsPathForest.rowsAt_eq_nil (ht : t ∉ rtsPathTables)
    {point : ℕ → ℕ → Position3D → Position3D} {id forwardId : Int64} {ps : List ReferencePath}
    (h : RtsPathForest splitId point id forwardId ps f) : f.rowsAt t = [] :=
  Forest.Grown.rowsAt_eq_nil (fun heq => ht (by rw [heq]; exact .head _))
    (fun _ _ _ => Forest.Leaves.rowsAt_eq_nil fun heq =>
      ht (by rw [heq]; exact .tail _ (.head _))) h

/-! ## One event -/

variable {print : σ → List Char} {I : Int64 → Prop} (content : σ → List Char)
  (carried : List Int64)

theorem grows_rteReferenceLinkSql (rteDataId forwardRteDataId : Int64) (ls : List ReferenceLink) :
    Grows print content I carried
      (insertEach (rteReferenceLinkSql splitId rteDataId forwardRteDataId) ls)
      (Forest.Leaves "rte_data_reference_link" (referenceLinkRow splitId "rte_data_id"
        "forward_rte_data_id" downstreamRead rteDataId forwardRteDataId) ls) :=
  grows_leaves (t := rteDataReferenceLink) (fun _ l => Table.stores rfl (by
    rcases l with ⟨- | _, _, _⟩ <;> rfl)) ls

/-- What is below an event that is kept. -/
def RteKids (I : Int64 → Prop) (splitId : Int32) (down : ReferenceLink → Option NodeReferenceId)
    (id : Int64) (e : RteData σ) (f : Forest Int64 Row) : Prop :=
  Owns I e.id id ∧ RteLinkForest splitId down id e.referenceLinks f

theorem yields_rteSql (camId : Int64) (deviceId : σ) (i : ℕ) {e : RteData σ}
    (hkept : isManual e.dataSource = false) :
    Yields print I (rteSql splitId camId deviceId i e) (fun _ ss text =>
      ∃ id under, rteData.Adds content i (rteDataRow content splitId camId deviceId id e) text ∧
        RteKids I splitId downstreamRead id e under ∧
        meantRows content "rte_data_reference_link" ss = under.rowsAt "rte_data_reference_link")
      fun _ _ => False := by
  rw [rteSql, hkept, if_neg Bool.false_ne_true, yields_bind]
  have hown : e.id ≠ 0 → e.id.toInt64 ∈ [e.id.toInt64] := fun _ => List.mem_cons_self
  refine yields_ownId hown fun _ id hid _ => ?_
  rw [yields_bind]
  refine yields_append (rteDataRow content splitId camId deviceId id e) (Table.stores rfl rfl)
    fun text htext => ?_
  rw [yields_bind, yields_nextId]
  intro forwardId _
  rw [yields_bind]
  refine ((completes_insertEach_of_forall (completes_rteReferencePathSql id forwardId)
    e.referencePath).yields (always_insertEach (always_rteReferencePathSql id forwardId) _)).mono ?_
    fun _ _ h => h.1 trivial
  rintro - ss₁ - ⟨-, hss₁⟩
  refine (grows_rteReferenceLinkSql content [] id forwardId e.referenceLinks).bind
    fun _ ss₂ F hF hbF => ?_
  rw [yields_bind]
  refine ((completes_insertEach_of_forall (fun k o => completes_nextId.then fun _ =>
    objIdValue.completes_append k rfl) e.eventObjId).yields
    (always_insertEach (always_eventObjIdSql id forwardId) _)).mono ?_ fun _ _ h => h.1 trivial
  rintro - ss₃ - ⟨-, hss₃⟩
  rw [yields_pure]
  refine ⟨id, F, htext, ⟨hid, forwardId, hF⟩, ?_⟩
  simp only [List.nil_append, List.append_nil, meantRows_append]
  rw [meantRows_eq_nil hss₁ (by decide), meantRows_eq_nil hss₃ (by decide), hbF.rows,
    List.nil_append, List.append_nil]

theorem sprouts_rteSql (camId : Int64) (deviceId : σ) (i : ℕ) {e : RteData σ}
    (hkept : isManual e.dataSource = false) :
    Yields print I (rteSql splitId camId deviceId i e)
      (Sprouts rteData content rteBelow ["rte_data_reference_link"]
        (fun id q => rteDataRow content splitId camId deviceId id q.1)
        (fun id q => RteKids I splitId downstreamRead id q.1) (e, i)) fun _ _ => False := by
  refine ((yields_rteSql content camId deviceId i hkept).and
    (always_rteSql camId deviceId i e).yields).mono ?_ fun _ _ h => h.1
  rintro ds ss text ⟨⟨id, under, htext, hunder, hrows⟩, -, hss⟩
  exact ⟨id, under, htext, hunder, List.forall_mem_singleton.mpr hrows, hss⟩

/-! ## One sign -/

/-- The points of a sign's path, as far as they are found. -/
theorem grows_rtsActivepathSql (rteList : List (RteData σ)) (i j : ℕ) (pathId : Int64)
    {ps : List Position3D}
    (hfound : ∀ k q, ps[k]? = some q → (rteActivepath rteList i j k).isSome = true) :
    Grows print content I carried (insertEach (rtsActivepathSql splitId rteList i j pathId) ps)
      (Forest.Leaves "rts_data_reference_path_position_3_d" (fun id q =>
        rtsDataReferencePathPosition3DRow splitId pathId id (pointRead rteList i j q.2 q.1))
        ps.zipIdx) := by
  refine grows_insertEach_zipIdx (t := rtsDataReferencePathPosition3D)
    (fun _ _ _ h => h.rowsAt_eq_nil) fun q hq => ?_
  obtain ⟨p, hp⟩ := Option.isSome_iff_exists.mp
    (hfound q.2 q.1 (List.mem_zipIdx_iff_getElem?.mp hq))
  rw [rtsActivepathSql, yields_bind, yields_nextId]
  intro id _
  have hpoint : pointRead rteList i j q.2 q.1 = p := by rw [pointRead, hp, Option.getD_some]
  have hstores : rtsDataReferencePathPosition3D.Stores content
      [.long id, .int splitId, .int p.lon, .int p.lat, .int p.ele, .long pathId]
      (rtsDataReferencePathPosition3DRow splitId pathId id p) := Table.stores rfl rfl
  rw [hp]
  refine yields_append _ hstores fun text htext => ?_
  rw [← hpoint] at htext
  exact ⟨id, .nil, htext, rfl, fun _ => rfl, nofun, List.filter_sublist.subperm⟩

theorem grows_rtsReferencePathSql (rteList : List (RteData σ)) (i : ℕ)
    (rtsDataId forwardRtsDataId : Int64) {ps : List ReferencePath}
    (hfound : ∀ j p, ps[j]? = some p → ∀ k q, p.activePath[k]? = some q →
      (rteActivepath rteList i j k).isSome = true) :
    Grows print content I carried
      (insertEach (rtsReferencePathSql splitId rteList i rtsDataId forwardRtsDataId) ps)
      (RtsPathForest splitId (pointRead rteList i) rtsDataId forwardRtsDataId ps) := by
  refine grows_insertEach_zipIdx (t := rtsDataReferencePath)
    (fun _ _ _ => Forest.Leaves.rowsAt_eq_nil (by decide)) fun q hq => ?_
  have hq' := List.mem_zipIdx_iff_getElem?.mp hq
  rw [rtsReferencePathSql, yields_bind, yields_nextId]
  intro id _
  have hstores : rtsDataReferencePath.Stores content
      [.long id, .int splitId, .int q.1.pathRadius.toInt32, .long rtsDataId, .long forwardRtsDataId]
      (rtsDataReferencePathRow splitId rtsDataId forwardRtsDataId id q.1) := Table.stores rfl rfl
  rw [yields_bind]
  refine yields_append _ hstores fun text htext => ?_
  refine (grows_rtsActivepathSql content carried rteList i q.2 id (hfound q.2 q.1 hq')).bind
    fun ds ss F hF hbF => ?_
  rw [yields_pure]
  simp only [List.nil_append, List.append_nil]
  exact .of_bears htext List.filter_sublist.subperm hF hbF

theorem grows_rtsReferenceLinkSql (rtsDataId forwardRtsDataId : Int64) (ls : List ReferenceLink) :
    Grows print content I carried
      (insertEach (rtsReferenceLinkSql splitId rtsDataId forwardRtsDataId) ls)
      (RtsLinkForest splitId downstreamRead rtsDataId forwardRtsDataId ls) :=
  grows_leaves (t := rtsDataReferenceLink) (fun _ l => Table.stores rfl (by
    rcases l with ⟨- | _, _, _⟩ <;> rfl)) ls

/-- What is below the `i`th sign, if it is kept. -/
def RtsKids (I : Int64 → Prop) (splitId : Int32) (point : ℕ → ℕ → ℕ → Position3D → Position3D)
    (down : ReferenceLink → Option NodeReferenceId) (id : Int64) (q : RtsData σ × ℕ)
    (f : Forest Int64 Row) : Prop :=
  I id ∧ ∃ forwardId, Forest.Both (RtsPathForest splitId (point q.2) id forwardId q.1.refPathList)
    (RtsLinkForest splitId down id forwardId q.1.refLinkList) f

theorem sprouts_rtsDataSql (rteList : List (RteData σ)) (camId : Int64) (deviceId : σ) (i : ℕ)
    {e : RtsData σ} (hkept : isManual e.dataSource = false)
    (hfound : ∀ j p, e.refPathList[j]? = some p → ∀ k q, p.activePath[k]? = some q →
      (rteActivepath rteList i j k).isSome = true) :
    Yields print I (rtsDataSql splitId rteList camId deviceId i e)
      (Sprouts rtsData content rtsBelow rtsBelow
        (fun id q => rtsDataRow content splitId camId deviceId id q.1)
        (RtsKids I splitId (pointRead rteList) downstreamRead) (e, i)) fun _ _ => False := by
  have hrows : Yields print I (rtsDataSql splitId rteList camId deviceId i e) (fun _ ss text =>
      ∃ id under, rtsData.Adds content i (rtsDataRow content splitId camId deviceId id e) text ∧
        RtsKids I splitId (pointRead rteList) downstreamRead id (e, i) under ∧
        ∀ table, meantRows content table ss = under.rowsAt table) fun _ _ => False := by
    rw [rtsDataSql, hkept, if_neg Bool.false_ne_true, yields_bind, yields_nextId]
    intro id hid
    rw [yields_bind]
    refine yields_append (rtsDataRow content splitId camId deviceId id e) (Table.stores rfl rfl)
      fun text htext => ?_
    rw [yields_bind, yields_nextId]
    intro forwardId _
    refine (grows_rtsReferencePathSql content [] rteList i id forwardId hfound).bind
      fun _ ss₁ F hF hbF => ?_
    refine (grows_rtsReferenceLinkSql content [] id forwardId e.refLinkList).bind
      fun _ ss₂ G hG hbG => ?_
    rw [yields_pure]
    refine ⟨id, F.append G, htext, ⟨hid, forwardId, F, G, rfl, hF, hG⟩, ?_⟩
    simp only [List.nil_append, List.append_nil]
    exact (hbF.append hbG).rows
  refine (hrows.and (always_rtsDataSql rteList camId deviceId i e).yields).mono ?_ fun _ _ h => h.1
  rintro ds ss text ⟨⟨id, under, htext, hunder, hrows⟩, -, hss⟩
  exact ⟨id, under, htext, hunder, fun table _ => hrows table, hss⟩

end DataInsert

end Sadip
