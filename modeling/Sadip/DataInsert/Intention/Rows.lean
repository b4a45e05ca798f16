import Sadip.DataInsert.Intention
import Sadip.DataInsert.Stored

/-!
# DataInsert/Intention/Rows — the rows of intentions and requests

The forest of the vehicles: below each of them the points it plans to pass and its requests, below a
request the paths of its area, and below a path its points.

Three things in it are parameters, since the builders do not take them from the message: `confid`,
the confidence of the lateral acceleration; `down`, the node that a change of lanes leads to; and
`points`, the points of a path.
-/

set_option maxRecDepth 10000

namespace Sadip

namespace DataInsert

open Sql

variable {σ : Type}

/-! ## What the parameters are -/

def latAccelConfidOf (p : Option PathPlanningPoint) : Int32 :=
  (p.bind (·.accelerationConfid)).elim 0 (·.latAccelConfid)

/-- What is printed for it: the acceleration itself. -/
def latAccelConfidRead (p : Option PathPlanningPoint) : Int32 :=
  (p.bind (·.acceleration)).elim 0 (·.lat)

/-- The region and the identifier of a node. -/
def regionAndIdOf (n : Option NodeReferenceId) : Int32 × Int32 := (regionOf n, nodeIdOf n)

/-- What is printed for the downstream node: the identifier in the place of the region. -/
def downStreamRead (n : Option NodeReferenceId) : Int32 × Int32 := (nodeIdOf n, 0)

theorem downStreamRead_eq_regionAndIdOf {n : Option NodeReferenceId} :
    downStreamRead n = regionAndIdOf n ↔ regionOf n = 0 ∧ nodeIdOf n = 0 := by
  rw [downStreamRead, regionAndIdOf, Prod.mk.injEq]
  constructor
  · rintro ⟨hregion, hid⟩
    exact ⟨hregion.symm.trans hid.symm, hid.symm⟩
  · rintro ⟨hregion, hid⟩
    exact ⟨hid.trans hregion.symm, hid.symm⟩

/-! ## Rows -/

section

variable (content : σ → List Char) (splitId : Int32)

def virDataRow (confid : Option PathPlanningPoint → Int32) (camId id : Int64) (v : VirData σ) :
    Row :=
  let current := v.intAndReq.bind (·.currentPos)
  let inMap := current.bind (·.posInMap)
  [("id", int64 id), ("split_id", int32 splitId), ("msg_cnt", int32 v.msgCnt.toInt32),
   ("vehicle_id", text content v.vehicleId), ("timestamp", int64 v.timestamp.toInt64),
   ("lat", int32 (latOf v.pos)), ("lon", int32 (lonOf v.pos)), ("ele", int32 (eleOf v.pos)),
   ("current_pos_lat", int32 (latOf (current.bind (·.pos)))),
   ("current_pos_lon", int32 (lonOf (current.bind (·.pos)))),
   ("current_pos_ele", int32 (eleOf (current.bind (·.pos)))),
   ("upstream_node_region_id", int32 (regionOf (inMap.bind (·.upstreamNodeId)))),
   ("upstream_node_id", int32 (nodeIdOf (inMap.bind (·.upstreamNodeId)))),
   ("downstream_node_region_id", int32 (regionOf (inMap.bind (·.downstreamNodeId)))),
   ("downstream_node_id", int32 (nodeIdOf (inMap.bind (·.downstreamNodeId)))),
   ("reference_lanes",
     int32 ((inMap.bind (·.referenceLanes)).elim 0 (·.referenceLanes.toInt32))),
   ("speed", int32 (current.elim 0 (·.speed.toInt32))),
   ("heading", int32 (current.elim 0 (·.heading.toInt32))),
   ("acceleration_lon", int32 ((current.bind (·.acceleration)).elim 0 (·.lon))),
   ("acceleration_lat", int32 ((current.bind (·.acceleration)).elim 0 (·.lat))),
   ("acceleration_vert", int32 ((current.bind (·.acceleration)).elim 0 (·.vert))),
   ("acceleration_yaw", int32 ((current.bind (·.acceleration)).elim 0 (·.yaw))),
   ("estimated_time", int32 (current.elim 0 (·.estimatedTime.toInt32))),
   ("current_behavior",
     int32 ((v.intAndReq.bind (·.currentBehavior)).elim 0 (·.driveBehavior))),
   ("pos_confid_id", int32 ((current.bind (·.posConfid)).elim 0 (·.posConfid))),
   ("ele_confid_id", int32 ((current.bind (·.posConfid)).elim 0 (·.eleConfid))),
   ("speed_confid_id", int32 (current.elim 0 (·.speedConfid))),
   ("heading_confid_id", int32 (current.elim 0 (·.headingConfid))),
   ("lon_accel_confid_id",
     int32 ((current.bind (·.accelerationConfid)).elim 0 (·.lonAccelConfid))),
   ("lat_accel_confid_id", int32 (confid current)),
   ("vertical_accel_confid_id",
     int32 ((current.bind (·.accelerationConfid)).elim 0 (·.verticalAccelConfid))),
   ("yaw_rate_confid_id",
     int32 ((current.bind (·.accelerationConfid)).elim 0 (·.yawRateConfid))),
   ("time_confidence_id", int32 (current.elim 0 (·.timeConfidence))), ("cam_data_id", int64 camId)]

/-- The row of a planned point below a row, whose column is called `parent`. -/
def pathPlanningPointRow (parent : String) (parentId id : Int64) (p : PathPlanningPoint) : Row :=
  [("id", int64 id), ("split_id", int32 splitId), ("lat", int32 (latOf p.pos)),
   ("lon", int32 (lonOf p.pos)), ("ele", int32 (eleOf p.pos)),
   ("upstream_node_region_id", int32 (regionOf (p.posInMap.bind (·.upstreamNodeId)))),
   ("upstream_node_id", int32 (nodeIdOf (p.posInMap.bind (·.upstreamNodeId)))),
   ("downstream_node_region_id", int32 (regionOf (p.posInMap.bind (·.downstreamNodeId)))),
   ("downstream_node_id", int32 (nodeIdOf (p.posInMap.bind (·.downstreamNodeId)))),
   ("reference_lanes",
     int32 ((p.posInMap.bind (·.referenceLanes)).elim 0 (·.referenceLanes.toInt32))),
   ("speed", int32 p.speed.toInt32), ("heading", int32 p.heading.toInt32),
   ("acceleration_lon", int32 (p.acceleration.elim 0 (·.lon))),
   ("acceleration_lat", int32 (p.acceleration.elim 0 (·.lat))),
   ("acceleration_vert", int32 (p.acceleration.elim 0 (·.vert))),
   ("acceleration_yaw", int32 (p.acceleration.elim 0 (·.yaw))),
   ("estimated_time", int32 p.estimatedTime.toInt32),
   ("pos_confid_id", int32 (p.posConfid.elim 0 (·.posConfid))),
   ("ele_confid_id", int32 (p.posConfid.elim 0 (·.eleConfid))),
   ("speed_confid_id", int32 p.speedConfid), ("heading_confid_id", int32 p.headingConfid),
   ("lon_accel_confid_id", int32 (p.accelerationConfid.elim 0 (·.lonAccelConfid))),
   ("lat_accel_confid_id", int32 (p.accelerationConfid.elim 0 (·.latAccelConfid))),
   ("vertical_accel_confid_id", int32 (p.accelerationConfid.elim 0 (·.verticalAccelConfid))),
   ("yaw_rate_confid_id", int32 (p.accelerationConfid.elim 0 (·.yawRateConfid))),
   ("time_confidence_id", int32 p.timeConfidence), (parent, int64 parentId)]

def driveRequestRow (down : Option NodeReferenceId → Int32 × Int32) (virId id : Int64)
    (r : DriveRequest σ) : Row :=
  let laneChange := laneChangeOf r.info
  let clearTheWay := clearTheWayOf r.info
  let signalPriority := signalPriorityOf r.info
  let move := signalPriority.bind (·.requiredMove)
  let parking := parkingOf r.info
  [("id", int64 id), ("split_id", int32 splitId), ("req_id", int32 r.reqId.toInt32),
   ("req_priority", text content r.reqPriority), ("target_veh", text content r.targetVeh),
   ("targer_rsu", text content r.targetRsu),
   ("lane_change_up_stream_node_region_id",
     int32 (regionOf (laneChange.bind (·.upStreamNode)))),
   ("lane_change_up_stream_node_id", int32 (nodeIdOf (laneChange.bind (·.upStreamNode)))),
   ("lane_change_down_stream_node_region_id",
     int32 (down (laneChange.bind (·.downStreamNode))).1),
   ("lane_change_down_stream_node_id", int32 (down (laneChange.bind (·.downStreamNode))).2),
   ("lane_change_target_lane", int32 (laneChange.elim 0 (·.targetLane.toInt32))),
   ("clear_the_way_up_stream_node_region_id",
     int32 (regionOf (clearTheWay.bind (·.upStreamNode)))),
   ("clear_the_way_up_stream_node_id", int32 (nodeIdOf (clearTheWay.bind (·.upStreamNode)))),
   ("clear_the_way_down_stream_node_region_id",
     int32 (regionOf (clearTheWay.bind (·.downStreamNode)))),
   ("clear_the_way_down_stream_node_id",
     int32 (nodeIdOf (clearTheWay.bind (·.downStreamNode)))),
   ("clear_the_way_target_lane", int32 (clearTheWay.elim 0 (·.targetLane.toInt32))),
   ("intersection_node_region_id", int32 (regionOf (signalPriority.bind (·.intersectionId)))),
   ("intersection_node_id", int32 (nodeIdOf (signalPriority.bind (·.intersectionId)))),
   ("movement_stat_info_node_region_id", int32 (regionOf (move.bind (·.remoteIntersection)))),
   ("movement_stat_info_node_id", int32 (nodeIdOf (move.bind (·.remoteIntersection)))),
   ("estimated_arrival_time",
     int32 (signalPriority.elim 0 (·.estimatedArrivalTime.toInt32))),
   ("distance_2_intersection",
     int32 (signalPriority.elim 0 (·.distance2Intersection.toInt32))),
   ("req", int32 ((parking.bind (·.req)).elim 0 (·.req.toInt32))),
   ("parking_type", int32 ((parking.bind (·.parkingType)).elim 0 (·.parkingType.toInt32))),
   ("expected_parking_slot_id", int32 (parking.elim 0 (·.expectedParkingSlotId.toInt32))),
   ("life_time", int32 r.lifeTime.toInt32), ("status_id", int32 r.status),
   ("vehicle_type_id", int32 (parking.elim 0 (·.vehicleType))),
   ("turn_direction_id", int32 (move.elim 0 (·.turnDirection))), ("vir_data_id", int64 virId)]

def driveRequestReferencePathRow (requestId id : Int64) (p : ReferencePath) : Row :=
  [("id", int64 id), ("split_id", int32 splitId), ("path_radius", int32 p.pathRadius.toInt32),
   ("drive_request_id", int64 requestId)]

def driveRequestReferencePathPosition3DRow (pathId id : Int64) (p : Position3D) : Row :=
  [("id", int64 id), ("split_id", int32 splitId), ("lon", int32 p.lon), ("lat", int32 p.lat),
   ("ele", int32 p.ele), ("drive_request_reference_path_id", int64 pathId)]

/-! ## Forests -/

variable (points : ReferencePath → List Position3D)

/-- The area of a request. -/
def AreaForest (requestId : Int64) : List ReferencePath → Forest Int64 Row → Prop :=
  Forest.Grown "drive_request_reference_path" (driveRequestReferencePathRow splitId requestId)
    fun pathId p => Forest.Leaves "drive_request_reference_path_position_3_d"
      (driveRequestReferencePathPosition3DRow splitId pathId) (points p)

/-- The requests of a vehicle. -/
def RequestForest (down : Option NodeReferenceId → Int32 × Int32) (virId : Int64) :
    List (DriveRequest σ) → Forest Int64 Row → Prop :=
  Forest.Grown "drive_request" (driveRequestRow content splitId down virId)
    fun requestId r => AreaForest splitId points requestId (detectorAreaOfInfo r.info)

/-- What is below a vehicle. -/
def VirKids (down : Option NodeReferenceId → Int32 × Int32) (virId : Int64) (v : VirData σ) :
    Forest Int64 Row → Prop :=
  Forest.Both (Forest.Leaves "vir_data_path_planning_point"
      (pathPlanningPointRow splitId "vir_data_id" virId) (pathPlanningOf v))
    (RequestForest content splitId points down virId (reqsOf v))

def VirForest (confid : Option PathPlanningPoint → Int32)
    (down : Option NodeReferenceId → Int32 × Int32) (camId : Int64) :
    List (VirData σ) → Forest Int64 Row → Prop :=
  Forest.Grown "vir_data" (virDataRow content splitId confid camId)
    (VirKids content splitId points down)

end

/-! ## Tables that are not of a forest -/

variable {content : σ → List Char} {splitId : Int32} {points : ReferencePath → List Position3D}
  {down : Option NodeReferenceId → Int32 × Int32} {t : String} {f : Forest Int64 Row}

theorem AreaForest.rowsAt_eq_nil (ht : t ∉ virTables.drop 3) {id : Int64} {ps : List ReferencePath}
    (h : AreaForest splitId points id ps f) : f.rowsAt t = [] :=
  Forest.Grown.rowsAt_eq_nil (fun heq => ht (by rw [heq]; exact .head _))
    (fun _ _ _ => Forest.Leaves.rowsAt_eq_nil fun heq =>
      ht (by rw [heq]; exact .tail _ (.head _))) h

theorem RequestForest.rowsAt_eq_nil (ht : t ∉ virTables.drop 2) {id : Int64}
    {rs : List (DriveRequest σ)} (h : RequestForest content splitId points down id rs f) :
    f.rowsAt t = [] :=
  Forest.Grown.rowsAt_eq_nil (fun heq => ht (by rw [heq]; exact .head _))
    (fun _ _ _ => AreaForest.rowsAt_eq_nil fun hmem => ht (.tail _ hmem)) h

theorem VirKids.rowsAt_eq_nil (ht : t ∉ virBelow) {id : Int64} {v : VirData σ}
    (h : VirKids content splitId points down id v f) : f.rowsAt t = [] :=
  Forest.Both.rowsAt_eq_nil
    (fun _ => Forest.Leaves.rowsAt_eq_nil fun heq => ht (by rw [heq]; exact .head _))
    (fun _ => RequestForest.rowsAt_eq_nil fun hmem => ht (.tail _ hmem)) f h

/-! ## The strings in the rows -/

theorem rowLetters_pathPlanningPointRow {parent : String} {parentId parentId' id id' : Int64}
    {p : PathPlanningPoint} : rowLetters (pathPlanningPointRow splitId parent parentId id p)
      = rowLetters (pathPlanningPointRow splitId parent parentId' id' p) := by
  simp only [rowLetters, pathPlanningPointRow, List.map_cons, letters_int32, letters_int64]

end DataInsert

end Sadip
