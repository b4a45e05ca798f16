import Sadip.DataInsert.Message
import Sadip.DataInsert.Table

/-!
# DataInsert/Obstacle — obstacles and vehicles

Obstacles (`obstacleList`) with their outlines, and what vehicles say about themselves (`bsmList`).
-/

set_option maxRecDepth 10000

namespace Sadip

namespace DataInsert

open Printf Sql Insertion Conversions

variable {σ : Type}

/-! ## Tables -/

/-- One row for an obstacle. -/
def obstacleData : Table where
  table := "obstacle_data"
  header :=
    "INSERT INTO `obstacle_data`(`id`,`split_id`,`obs_id`,`obs_type_cfd`,`timestamp`,\t\t\t`device_id_list`,`lat`,`lon`,`ele`,`node_region_id`,\t\t\t`node_id`,`link_name`,`upstream_node_region_id`,`upstream_node_node_id`,`section_id`,\t\t\t`lane_id`,`speed`,`heading`,`ver_speed`,`acceleration_lon`,\t\t\t`acceleration_lat`,`acceleration_vert`,`acceleration_yaw`,`width`,`length`,\t\t\t`height`,`tracking`,`obs_type_id`,`obs_source_id`,`pos_confid_id`,\t\t\t`ele_confid_id`,`speed_cfd_id`,`heading_cfd_id`,`steer_cfd_id`,`ver_speed_confid_id`,\t\t\t`width_confid_id`,`length_confid_id`,`height_confid_id`,`cam_data_id`)VALUES"
  row :=
    "(%lld,%d,%lld,%d,%lld,\t\t'%s',%d,%d,%d,%d,\t\t%d,'%s',%d,%d,%d,\t\t%d,%d,%d,%d,%d,\t\t%d,%d,%d,%d,%d,\t\t%d,%d,%d,%d,%d,\t\t%d,%d,%d,%d,%d,\t\t%d,%d,%d,%lld),"
  size := 40960
  slots := [lld, d, lld, d, lld, s, d, d, d, d, d, s, d, d, d, d, d, d, d, d, d, d, d, d, d, d, d,
            d, d, d, d, d, d, d, d, d, d, d, lld]
  sound := .of_chars rfl rfl rfl (by decide +kernel)
  columns :=
    ["id", "split_id", "obs_id", "obs_type_cfd", "timestamp", "device_id_list", "lat", "lon",
     "ele", "node_region_id", "node_id", "link_name", "upstream_node_region_id",
     "upstream_node_node_id", "section_id", "lane_id", "speed", "heading", "ver_speed",
     "acceleration_lon", "acceleration_lat", "acceleration_vert", "acceleration_yaw", "width",
     "length", "height", "tracking", "obs_type_id", "obs_source_id", "pos_confid_id",
     "ele_confid_id", "speed_cfd_id", "heading_cfd_id", "steer_cfd_id", "ver_speed_confid_id",
     "width_confid_id", "length_confid_id", "height_confid_id", "cam_data_id"]
  matched := .of_chars rfl rfl rfl (by repeat first | exact .nil | apply Spells.cons rfl)
    (by decide +kernel)

/-- The corners of the region it affects. -/
def obstacleDataPosition3D : Table where
  table := "obstacle_data_position_3_d"
  header :=
    "INSERT INTO `obstacle_data_position_3_d`(`id`,`split_id`,`lat`,`lon`,`ele`,`obstacle_data_id`)VALUES"
  row := "(%lld,%d,%d,%d,%d,%lld),"
  size := 4096
  slots := [lld, d, d, d, d, lld]
  sound := .of_chars rfl rfl rfl (by decide +kernel)
  columns := ["id", "split_id", "lat", "lon", "ele", "obstacle_data_id"]
  matched := .of_chars rfl rfl rfl (by repeat first | exact .nil | apply Spells.cons rfl)
    (by decide +kernel)

/-- The comma between two of the conversions is missing. -/
def bsmData : Layout where
  table := "bsm_data"
  header :=
    "INSERT INTO `bsm_data`\t\t\t(`id`,`split_id`,`obu_id`,`plate_no`,`timestamp`,\t\t\t`lat`,`lon`,`ele`,`semi_major`,`semi_minor`,\t\t\t`orientation`,`acceleration_lon`,`acceleration_lat`,`acceleration_vert`,`acceleration_yaw`,\t\t\t`speed`,`heading`,`steering_wheel_angle`,`wheel_brakes`,`brake_control`,\t\t\t`throttle_control`,`wheel_throttles`,`width`,`length`,`height`,\t\t\t`light`,`endurance`,`pos_confid_id`,`ele_confid_id`,`transmission_id`,\t\t\t`speed_cfd_id`,`heading_cfd_id`,`steer_cfd_id`,`brake_padel_id`,`traction_id`,\t\t\t`abs_id`,`scs_id`,`brake_boost_id`,`aux_brakes_id`,`throttle_padel_id`,\t\t\t`vehicle_type_id`,`fuel_type_id`,`drive_modedrive_status_id`,`emergency_status_id`,`wiper_id`,\t\t\t`outof_control_id`,`cam_data_id`)VALUES"
  row :=
    "(%lld,%d,'%s','%s',%lld,        %d,%d,%d,%d,%d,        %d,%d,%d,%d,%d,        %d,%d,%d,%d,%d,        %d,%d,%d,%d,%d,        %d,%d,%d,%d,%d,        %d,%d,%d,%d,%d,        %d,%d,%d,%d %d,        %d,%d,%d,%d,%d,%d,%lld),"
  size := 10240
  slots := [lld, d, s, s, lld, d, d, d, d, d, d, d, d, d, d, d, d, d, d, d, d, d, d, d, d, d, d,
            d, d, d, d, d, d, d, d, d, d, d, d, d, d, d, d, d, d, d, lld]
  sound := .of_chars rfl rfl rfl (by decide +kernel)

/-! ## What is inserted -/

section

variable (splitId : Int32)

def obspolySql (obstacleId : Int64) (i : ℕ) (p : Position3D) : Insertion σ (Text σ) := do
  let id ← nextId
  obstacleDataPosition3D.append i
    [.long id, .int splitId, .int p.lat, .int p.lon, .int p.ele, .long obstacleId]

/-- The type is printed for its confidence too. -/
def obslistSql (camId : Int64) (i : ℕ) (o : ObstacleData σ) : Insertion σ (Text σ) := do
  let id ← nextId
  let sql ← obstacleData.append i
    [.long id, .int splitId, .long o.obsId.toInt64, .int o.obsType, .long o.timestamp.toInt64,
     .str o.deviceIdList, .int (latOf o.obsPos), .int (lonOf o.obsPos), .int (eleOf o.obsPos),
     .int (regionOf (o.mapLocation.bind (·.nodeId))),
     .int (nodeIdOf (o.mapLocation.bind (·.nodeId))), .str (o.mapLocation.map (·.linkName)),
     .int (regionOf (o.mapLocation.bind (·.upstreamNodeId))),
     .int (nodeIdOf (o.mapLocation.bind (·.upstreamNodeId))),
     .int (o.mapLocation.elim 0 (·.sectionId.toInt32)),
     .int (o.mapLocation.elim 0 (·.laneId.toInt32)), .int o.speed.toInt32, .int o.heading.toInt32,
     .int o.verSpeed.toInt32, .int (o.acceleration.elim 0 (·.lon)),
     .int (o.acceleration.elim 0 (·.lat)), .int (o.acceleration.elim 0 (·.vert)),
     .int (o.acceleration.elim 0 (·.yaw)), .int (o.size.elim 0 (·.width.toInt32)),
     .int (o.size.elim 0 (·.length.toInt32)), .int (o.size.elim 0 (·.height.toInt32)),
     .int o.tracking.toInt32, .int o.obsType, .int o.obsSource,
     .int (o.posConfid.elim 0 (·.posConfid)), .int (o.posConfid.elim 0 (·.eleConfid)),
     .int (o.motionConfid.elim 0 (·.speedCfd)), .int (o.motionConfid.elim 0 (·.headingCfd)),
     .int (o.motionConfid.elim 0 (·.steerCfd)), .int o.verSpeedConfid,
     .int (o.obsSizeConfid.elim 0 (·.widthConfid)),
     .int (o.obsSizeConfid.elim 0 (·.lengthConfid)),
     .int (o.obsSizeConfid.elim 0 (·.heightConfid)), .long camId]
  optionally o.polygon fun polygon => insertEach (obspolySql splitId id) polygon.pos
  pure sql

/-- What a vehicle says of itself, printed with a format that lacks a comma. -/
def bsmSql (camId : Int64) (i : ℕ) (b : BsmData σ) : Insertion σ (Text σ) := do
  let id ← nextId
  bsmData.append i
    [.long id, .int splitId, .str b.obuId, .str b.plateNo, .long b.timestamp.toInt64,
     .int (latOf b.pos), .int (lonOf b.pos), .int (eleOf b.pos),
     .int (b.posAccuracy.elim 0 (·.semiMajor)), .int (b.posAccuracy.elim 0 (·.semiMinor)),
     .int (b.posAccuracy.elim 0 (·.orientation)), .int (b.acceleration.elim 0 (·.lon)),
     .int (b.acceleration.elim 0 (·.lat)), .int (b.acceleration.elim 0 (·.vert)),
     .int (b.acceleration.elim 0 (·.yaw)), .int b.speed.toInt32, .int b.heading.toInt32,
     .int b.steeringWheelAngle, .int (b.brakes.elim 0 (·.wheelBrakes.toInt32)),
     .int (b.brakes.elim 0 (·.brakeControl.toInt32)),
     .int (b.throttle.elim 0 (·.thorttleControl.toInt32)),
     .int (b.throttle.elim 0 (·.wheelThrottles)), .int (b.size.elim 0 (·.width)),
     .int (b.size.elim 0 (·.length)), .int (b.size.elim 0 (·.height)), .int b.light.toInt32,
     .int b.endurance.toInt32, .int (b.posConfid.elim 0 (·.posConfid)),
     .int (b.posConfid.elim 0 (·.eleConfid)), .int b.transmission,
     .int (b.motionConfid.elim 0 (·.speedCfd)), .int (b.motionConfid.elim 0 (·.headingCfd)),
     .int (b.motionConfid.elim 0 (·.steerCfd)), .int (b.brakes.elim 0 (·.brakePadel)),
     .int (b.brakes.elim 0 (·.traction)), .int (b.brakes.elim 0 (·.abs)),
     .int (b.brakes.elim 0 (·.scs)), .int (b.brakes.elim 0 (·.brakeBoost)),
     .int (b.brakes.elim 0 (·.auxBrakes)), .int (b.throttle.elim 0 (·.throttlePadel)),
     .int b.vehicleType, .int b.fuelType, .int b.driveModedriveStatus, .int b.emergencyStatus,
     .int b.wiper, .int b.outofControl, .long camId]

end

/-! ## The tables of the statements -/

variable {splitId : Int32} {W : Text σ → Prop}

/-- The tables of the obstacles. -/
def obstacleTables : List String := ["obstacle_data", "obstacle_data_position_3_d"]

theorem always_obspolySql (id : Int64) (i : ℕ) (p : Position3D) :
    Always W (obspolySql (σ := σ) splitId id i p) (Adds obstacleTables i) :=
  obstacleDataPosition3D.always_leaf obstacleTables (.tail _ (.head _)) i

theorem always_obslistSql (camId : Int64) (i : ℕ) (o : ObstacleData σ) :
    Always (Executed obstacleTables) (obslistSql splitId camId i o) (Adds obstacleTables i) := by
  refine .bind (always_nextId fun _ => trivial) fun id _ => ?_
  refine .bind (obstacleData.always_append obstacleTables (.head _) i _) fun sql hsql => ?_
  refine .bind (always_optionally fun polygon => ?_) fun _ _ => hsql
  exact always_insertEach (always_obspolySql id) polygon.pos

/-- No statement on it is executed on the way. -/
theorem always_bsmSql (camId : Int64) (i : ℕ) (b : BsmData σ) :
    Always W (bsmSql splitId camId i b) (Adds ["bsm_data"] i) :=
  bsmData.always_leaf ["bsm_data"] (.head _) i

end DataInsert

end Sadip
