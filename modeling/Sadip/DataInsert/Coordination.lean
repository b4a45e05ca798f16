import Sadip.DataInsert.Message
import Sadip.DataInsert.Table

/-!
# DataInsert/Coordination — coordination by the roadside

What a roadside unit says to a vehicle and about a lane (`rscList`).  The three lists of positions
in it are inserted before the row is printed.
-/

set_option maxRecDepth 10000

namespace Sadip

namespace DataInsert

open Printf Sql Insertion Conversions

variable {σ : Type}

/-! ## Tables -/

/-- One row for the advice, that to a vehicle and that to a lane side by side. -/
def rscData : Table where
  table := "rsc_data"
  header :=
    "INSERT INTO `rsc_data`(`id`,`split_id`,`msg_cnt`,`rsu_id`,`timestamp`,\t\t\t`lat`,`lon`,`ele`,`veh_id`,`drive_suggestion_suggestion`,\t\t\t`time_offset`,`drive_suggestion_upstream_node_region_id`,`drive_suggestion_upstream_node_id`,`drive_suggestion_downstream_node_region_id`,`drive_suggestion_downstream_node_id`,\t\t\t`drive_suggestion_reference_lanes`,`drive_suggestion_path_radius`,`coordinates_info`,`lane_coordinatio_upstream_node_region_id`,`lane_coordinatio_upstream_node_id`,\t\t\t`lane_coordinatio_downstream_node_region_id`,`lane_coordinatio_downstream_node_id`,`lane_coordinatio_reference_lanes`,`path_radius`,`t_begin`,\t\t\t`t_end`,`recommended_speed`,`recommended_behavior`,`lane_coordinates_info`,`description`,\t\t\t`cam_data_id`)VALUES"
  row :=
    "(%lld,%d,%d,'%s',%lld,\t\t%d,%d,%d,'%s',%d,\t\t%d,%d,%d,%d,%d,\t\t%d,%d,%d,%d,%d,\t\t%d,%d,%d,%d,%lld,\t\t%lld,%d,%d,%d,'%s',%lld),"
  size := 40960
  slots := [lld, d, d, s, lld, d, d, d, s, d, d, d, d, d, d, d, d, d, d, d, d, d, d, d, lld, lld,
            d, d, d, s, lld]
  sound := .of_chars rfl rfl rfl (by decide +kernel)
  columns :=
    ["id", "split_id", "msg_cnt", "rsu_id", "timestamp", "lat", "lon", "ele", "veh_id",
     "drive_suggestion_suggestion", "time_offset", "drive_suggestion_upstream_node_region_id",
     "drive_suggestion_upstream_node_id", "drive_suggestion_downstream_node_region_id",
     "drive_suggestion_downstream_node_id", "drive_suggestion_reference_lanes",
     "drive_suggestion_path_radius", "coordinates_info",
     "lane_coordinatio_upstream_node_region_id", "lane_coordinatio_upstream_node_id",
     "lane_coordinatio_downstream_node_region_id", "lane_coordinatio_downstream_node_id",
     "lane_coordinatio_reference_lanes", "path_radius", "t_begin", "t_end", "recommended_speed",
     "recommended_behavior", "lane_coordinates_info", "description", "cam_data_id"]
  matched := .of_chars rfl rfl rfl (by repeat first | exact .nil | apply Spells.cons rfl)
    (by decide +kernel)

def rscDataDriveSuggestionPosition3D : Table where
  table := "rsc_data_drive_suggestion_position_3_d"
  header :=
    "INSERT INTO `rsc_data_drive_suggestion_position_3_d`(`id`,`split_id`,`lat`,`lon`,`ele`,`rsc_data_id`)VALUES"
  row := "(%lld,%d,%d,%d,%d,%lld),"
  size := 4096
  slots := [lld, d, d, d, d, lld]
  sound := .of_chars rfl rfl rfl (by decide +kernel)
  columns := ["id", "split_id", "lat", "lon", "ele", "rsc_data_id"]
  matched := .of_chars rfl rfl rfl (by repeat first | exact .nil | apply Spells.cons rfl)
    (by decide +kernel)

/-- The points of the way that a vehicle is told. -/
def rscDataPathPlanningPoint : Table where
  table := "rsc_data_path_planning_point"
  header :=
    "INSERT INTO `rsc_data_path_planning_point`(`id`,`split_id`,`lat`,`lon`,`ele`,\t\t\t\t\t\t`upstream_node_region_id`,`upstream_node_id`,`downstream_node_region_id`,`downstream_node_id`,`reference_lanes`,\t\t\t\t\t\t`speed`,`heading`,`acceleration_lon`,`acceleration_lat`,`acceleration_vert`,\t\t\t\t\t\t`acceleration_yaw`,`estimated_time`,`pos_confid_id`,`ele_confid_id`,`speed_confid_id`,\t\t\t\t\t\t`heading_confid_id`,`lon_accel_confid_id`,`lat_accel_confid_id`,`vertical_accel_confid_id`,`yaw_rate_confid_id`,\t\t\t\t\t\t`time_confidence_id`,`rsc_data_id`)VALUES"
  row :=
    "(%lld,%d,%d,%d,%d,\t\t\t\t\t%d,%d,%d,%d,%d,\t\t\t\t\t%d,%d,%d,%d,%d,\t\t\t\t\t%d,%d,%d,%d,%d,\t\t\t\t\t%d,%d,%d,%d,%d,%d,%lld),"
  size := 10240
  slots := [lld, d, d, d, d, d, d, d, d, d, d, d, d, d, d, d, d, d, d, d, d, d, d, d, d, d, lld]
  sound := .of_chars rfl rfl rfl (by decide +kernel)
  columns :=
    ["id", "split_id", "lat", "lon", "ele", "upstream_node_region_id", "upstream_node_id",
     "downstream_node_region_id", "downstream_node_id", "reference_lanes", "speed", "heading",
     "acceleration_lon", "acceleration_lat", "acceleration_vert", "acceleration_yaw",
     "estimated_time", "pos_confid_id", "ele_confid_id", "speed_confid_id", "heading_confid_id",
     "lon_accel_confid_id", "lat_accel_confid_id", "vertical_accel_confid_id",
     "yaw_rate_confid_id", "time_confidence_id", "rsc_data_id"]
  matched := .of_chars rfl rfl rfl (by repeat first | exact .nil | apply Spells.cons rfl)
    (by decide +kernel)

/-- The path of the lane, which has the columns of the vehicle's path. -/
def rscDataLaneCoordinationPosition3D : Table where
  table := "rsc_data_lane_coordination_position_3_d"
  header :=
    "INSERT INTO `rsc_data_lane_coordination_position_3_d`(`id`,`split_id`,`lat`,`lon`,`ele`,`rsc_data_id`)VALUES"
  row := "(%lld,%d,%d,%d,%d,%lld),"
  size := 10240
  slots := [lld, d, d, d, d, lld]
  sound := .of_chars rfl rfl rfl (by decide +kernel)
  columns := ["id", "split_id", "lat", "lon", "ele", "rsc_data_id"]
  matched := .of_chars rfl rfl rfl (by repeat first | exact .nil | apply Spells.cons rfl)
    (by decide +kernel)

/-! ## What is inserted -/

section

variable (splitId : Int32)

def rscDriveSugPosSql (rscId : Int64) (i : ℕ) (p : Position3D) : Insertion σ (Text σ) := do
  let id ← nextId
  rscDataDriveSuggestionPosition3D.append i
    [.long id, .int splitId, .int p.lat, .int p.lon, .int p.ele, .long rscId]

/-- A point of the way; the downstream node is read whether or not there is an upstream node. -/
def rscPathPlanningSql (rscId : Int64) (i : ℕ) (p : PathPlanningPoint) :
    Insertion σ (Text σ) := do
  let id ← nextId
  rscDataPathPlanningPoint.append i
    [.long id, .int splitId, .int (latOf p.pos), .int (lonOf p.pos), .int (eleOf p.pos),
     .int (regionOf (p.posInMap.bind (·.upstreamNodeId))),
     .int (nodeIdOf (p.posInMap.bind (·.upstreamNodeId))),
     .int (regionOf (p.posInMap.bind (·.downstreamNodeId))),
     .int (nodeIdOf (p.posInMap.bind (·.downstreamNodeId))),
     .int ((p.posInMap.bind (·.referenceLanes)).elim 0 (·.referenceLanes.toInt32)),
     .int p.speed.toInt32, .int p.heading.toInt32, .int (p.acceleration.elim 0 (·.lon)),
     .int (p.acceleration.elim 0 (·.lat)), .int (p.acceleration.elim 0 (·.vert)),
     .int (p.acceleration.elim 0 (·.yaw)), .int p.estimatedTime.toInt32,
     .int (p.posConfid.elim 0 (·.posConfid)), .int (p.posConfid.elim 0 (·.eleConfid)),
     .int p.speedConfid, .int p.headingConfid,
     .int (p.accelerationConfid.elim 0 (·.lonAccelConfid)),
     .int (p.accelerationConfid.elim 0 (·.latAccelConfid)),
     .int (p.accelerationConfid.elim 0 (·.verticalAccelConfid)),
     .int (p.accelerationConfid.elim 0 (·.yawRateConfid)), .int p.timeConfidence, .long rscId]

def rscLaneCoorPosSql (rscId : Int64) (i : ℕ) (p : Position3D) : Insertion σ (Text σ) := do
  let id ← nextId
  rscDataLaneCoordinationPosition3D.append i
    [.long id, .int splitId, .int p.lat, .int p.lon, .int p.ele, .long rscId]

/-- The information for the vehicle is read, but another variable is printed. -/
def rscSql (camId : Int64) (i : ℕ) (r : RscData σ) : Insertion σ (Text σ) := do
  let id ← nextId
  let suggestion := r.coordinates.bind (·.driveSuggestion)
  let link := suggestion.bind (·.relatedLink)
  let lane := r.laneCoordinates.bind (·.targetLane)
  optionally (suggestion.bind (·.relatedPath)) fun path =>
    insertEach (rscDriveSugPosSql splitId id) path.activePath
  optionally (r.coordinates.bind (·.pathGuidance)) fun guidance =>
    insertEach (rscPathPlanningSql splitId id) guidance.pathPlanning
  optionally (r.laneCoordinates.bind (·.relatedPath)) fun path =>
    insertEach (rscLaneCoorPosSql splitId id) path.activePath
  rscData.append i
    [.long id, .int splitId, .int r.msgCnt.toInt32, .str r.rsuId, .long r.timestamp.toInt64,
     .int (latOf r.pos), .int (lonOf r.pos), .int (eleOf r.pos),
     .str (r.coordinates.map (·.vehId)),
     .int ((suggestion.bind (·.suggestion)).elim 0 (·.driveBehavior)),
     .int (suggestion.elim 0 (·.timeOffset.toInt32)),
     .int (regionOf (link.bind (·.upstreamNodeId))),
     .int (nodeIdOf (link.bind (·.upstreamNodeId))),
     .int (regionOf (link.bind (·.downstreamNodeId))),
     .int (nodeIdOf (link.bind (·.downstreamNodeId))),
     .int ((link.bind (·.referenceLanes)).elim 0 (·.referenceLanes.toInt32)),
     .int ((suggestion.bind (·.relatedPath)).elim 0 (·.pathRadius.toInt32)), .int 0,
     .int (regionOf (lane.bind (·.upstreamNodeId))),
     .int (nodeIdOf (lane.bind (·.upstreamNodeId))),
     .int (regionOf (lane.bind (·.downstreamNodeId))),
     .int (nodeIdOf (lane.bind (·.downstreamNodeId))),
     .int ((lane.bind (·.referenceLanes)).elim 0 (·.referenceLanes.toInt32)),
     .int ((r.laneCoordinates.bind (·.relatedPath)).elim 0 (·.pathRadius.toInt32)),
     .long (r.laneCoordinates.elim 0 (·.tBegin.toInt64)),
     .long (r.laneCoordinates.elim 0 (·.tEnd.toInt64)),
     .int (r.laneCoordinates.elim 0 (·.recommendedSpeed.toInt32)),
     .int ((r.laneCoordinates.bind (·.recommendedBehavior)).elim 0 (·.driveBehavior)),
     .int ((r.laneCoordinates.bind (·.info)).elim 0 (·.coordinationInfo)),
     .str (r.laneCoordinates.map (·.description)), .long camId]

end

/-! ## The tables of the statements -/

variable {splitId : Int32} {W : Text σ → Prop}

/-- All tables of this part. -/
def rscTables : List String :=
  ["rsc_data", "rsc_data_drive_suggestion_position_3_d", "rsc_data_path_planning_point",
   "rsc_data_lane_coordination_position_3_d"]

theorem always_rscDriveSugPosSql (id : Int64) (i : ℕ) (p : Position3D) :
    Always W (rscDriveSugPosSql (σ := σ) splitId id i p) (Adds rscTables i) :=
  rscDataDriveSuggestionPosition3D.always_leaf rscTables (.tail _ (.head _)) i

theorem always_rscPathPlanningSql (id : Int64) (i : ℕ) (p : PathPlanningPoint) :
    Always W (rscPathPlanningSql (σ := σ) splitId id i p) (Adds rscTables i) :=
  rscDataPathPlanningPoint.always_leaf rscTables (.tail _ (.tail _ (.head _))) i

theorem always_rscLaneCoorPosSql (id : Int64) (i : ℕ) (p : Position3D) :
    Always W (rscLaneCoorPosSql (σ := σ) splitId id i p) (Adds rscTables i) :=
  rscDataLaneCoordinationPosition3D.always_leaf rscTables
    (.tail _ (.tail _ (.tail _ (.head _)))) i

/-- Whatever is executed inserts into these tables, and the text goes on. -/
theorem always_rscSql (camId : Int64) (i : ℕ) (r : RscData σ) :
    Always (Executed rscTables) (rscSql splitId camId i r) (Adds rscTables i) := by
  refine .bind (always_nextId fun _ => trivial) fun id _ => ?_
  refine .bind (always_optionally fun path =>
    always_insertEach (always_rscDriveSugPosSql id) path.activePath) fun _ _ => ?_
  refine .bind (always_optionally fun guidance =>
    always_insertEach (always_rscPathPlanningSql id) guidance.pathPlanning) fun _ _ => ?_
  refine .bind (always_optionally fun path =>
    always_insertEach (always_rscLaneCoorPosSql id) path.activePath) fun _ _ => ?_
  exact rscData.always_append rscTables (.head _) i _

end DataInsert

end Sadip
