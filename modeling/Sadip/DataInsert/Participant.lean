import Sadip.DataInsert.Message
import Sadip.DataInsert.Table

/-!
# DataInsert/Participant — the message itself and the traffic participants

The row of the message in `cam_data`, and its participants with their outlines and the points where
they have been.
-/

set_option maxRecDepth 10000

namespace Sadip

namespace DataInsert

open Printf Sql Insertion Conversions

variable {σ : Type}

/-! ## Tables -/

/-- The statement on `cam_data`, whole. -/
def camSqlFormat : String :=
  "INSERT INTO `cam_data`(`id`,`split_id`,`type`,`ver`,`msg_cnt`,\t`timestamp`,`device_id`,`map_device_id`,`lat`,`lon`,\t`ele`,`scene_type_id`,`spat_msg_cnt`,`spat_timestamp`,`to_algorithm_time`,\t`to_databus_time`,`to_cloud_time`)\tVALUE\t(%lld,%d,%d,'%s',%d,\t%lld,'%s','%s',%d,%d,\t%d,%d,%d,%lld,%lld,\t%lld,%lld);"

/-- The columns of the message itself. -/
def camDataTable : Table where
  table := "cam_data"
  header :=
    "INSERT INTO `cam_data`(`id`,`split_id`,`type`,`ver`,`msg_cnt`,\t`timestamp`,`device_id`,`map_device_id`,`lat`,`lon`,\t`ele`,`scene_type_id`,`spat_msg_cnt`,`spat_timestamp`,`to_algorithm_time`,\t`to_databus_time`,`to_cloud_time`)\tVALUE\t"
  row :=
    "(%lld,%d,%d,'%s',%d,\t%lld,'%s','%s',%d,%d,\t%d,%d,%d,%lld,%lld,\t%lld,%lld),"
  size := 4096
  slots := [lld, d, d, s, d, lld, s, s, d, d, d, d, d, lld, lld, lld, lld]
  sound := .of_chars rfl rfl rfl (by decide +kernel)
  columns :=
    ["id", "split_id", "type", "ver", "msg_cnt", "timestamp", "device_id", "map_device_id", "lat",
     "lon", "ele", "scene_type_id", "spat_msg_cnt", "spat_timestamp", "to_algorithm_time",
     "to_databus_time", "to_cloud_time"]
  matched := .of_chars rfl rfl rfl (by repeat first | exact .nil | apply Spells.cons rfl)
    (by decide +kernel)

/-- One row for a road user. -/
def participantData : Table where
  table := "participant_data"
  header :=
    "INSERT INTO `participant_data` (`id`,`split_id`,`ptc_id`,`ptc_type_id`,`data_source_id`,\t\t\t`device_id_list`,`timestamp`,`lat`,`lon`,`ele`,\t\t\t`link_name`,`section_id`,`lane_id`,`pos_confid_id`,`ele_confid_id`,\t\t\t`speed`,`heading`,`speed_cfd_id`,`heading_cfd_id`,`steer_cfd_id`,\t\t\t`acceleration_lat`,`acceleration_lon`,`acceleration_vert`,`acceleration_yaw`,`lon_accel_confid_id`,\t\t\t`lat_accel_confid_id`,`vertical_accel_confid_id`,`yaw_rate_confid_id`,`width`,`length`,\t\t\t`height`,`vehicle_band`,`vehicle_type_id`,`plate_no`,`plate_type_id`,\t\t\t`plate_color_id`,`vehicle_color_id`,`width_confid_id`,`length_confid_id`,`height_confid_id`,\t\t\t`ptc_type_ext_id`,`ptc_type_ext_confid`,`status_duration`,`tracking`,`cam_data_id`,\t\t\t`node_region_id`,`node_id`,`upstream_node_region_id`,`upstream_node_node_id`,`time_confidence_id`,`device_id`)\t\t\tVALUES"
  row :=
    "(%lld,%d,%lld,%d,%d,'%s',%lld,%d,%d,%d,'%s',%d,%d,%d,%d,%d,%d,%d,%d,%d,%d,%d,%d,%d,%d,\t\t%d,%d,%d,%d,%d,%d,'%s',%d,'%s',%d,%d,%d,%d,%d,%d,%d,%d,%d,%d,%lld,%d,%d,%d,%d,%d,'%s'),"
  size := 40960
  slots := [lld, d, lld, d, d, s, lld, d, d, d, s, d, d, d, d, d, d, d, d, d, d, d, d, d, d, d, d,
            d, d, d, d, s, d, s, d, d, d, d, d, d, d, d, d, d, lld, d, d, d, d, d, s]
  sound := .of_chars rfl rfl rfl (by decide +kernel)
  columns :=
    ["id", "split_id", "ptc_id", "ptc_type_id", "data_source_id", "device_id_list", "timestamp",
     "lat", "lon", "ele", "link_name", "section_id", "lane_id", "pos_confid_id", "ele_confid_id",
     "speed", "heading", "speed_cfd_id", "heading_cfd_id", "steer_cfd_id", "acceleration_lat",
     "acceleration_lon", "acceleration_vert", "acceleration_yaw", "lon_accel_confid_id",
     "lat_accel_confid_id", "vertical_accel_confid_id", "yaw_rate_confid_id", "width", "length",
     "height", "vehicle_band", "vehicle_type_id", "plate_no", "plate_type_id", "plate_color_id",
     "vehicle_color_id", "width_confid_id", "length_confid_id", "height_confid_id",
     "ptc_type_ext_id", "ptc_type_ext_confid", "status_duration", "tracking", "cam_data_id",
     "node_region_id", "node_id", "upstream_node_region_id", "upstream_node_node_id",
     "time_confidence_id", "device_id"]
  matched := .of_chars rfl rfl rfl (by repeat first | exact .nil | apply Spells.cons rfl)
    (by decide +kernel)

/-- The corners of the region it affects. -/
def participantDataPosition3D : Table where
  table := "participant_data_position_3_d"
  header :=
    "INSERT INTO `participant_data_position_3_d`(`id`,`split_id`,`lat`,`lon`,`ele`,`participant_data_id`)\t\t\t\t\tVALUES"
  row := "(%lld,%d,%d,%d,%d,%lld),"
  size := 40960
  slots := [lld, d, d, d, d, lld]
  sound := .of_chars rfl rfl rfl (by decide +kernel)
  columns := ["id", "split_id", "lat", "lon", "ele", "participant_data_id"]
  matched := .of_chars rfl rfl rfl (by repeat first | exact .nil | apply Spells.cons rfl)
    (by decide +kernel)

/-- The points where it has been. -/
def pathHistoryPoint : Table where
  table := "path_history_point"
  header :=
    "INSERT INTO `path_history_point`(`id`,`split_id`,`lat`,`lon`,`ele`,\t\t\t\t`time_offset`,`speed`,`heading`,`pos_confid_id`,`ele_confid_id`,`participant_data_id`)VALUES"
  row := "(%lld,%d,%d,%d,%d,%d,%d,%d,%d,%d,%lld),"
  size := 40960
  slots := [lld, d, d, d, d, d, d, d, d, d, lld]
  sound := .of_chars rfl rfl rfl (by decide +kernel)
  columns :=
    ["id", "split_id", "lat", "lon", "ele", "time_offset", "speed", "heading", "pos_confid_id",
     "ele_confid_id", "participant_data_id"]
  matched := .of_chars rfl rfl rfl (by repeat first | exact .nil | apply Spells.cons rfl)
    (by decide +kernel)

/-! ## What is inserted -/

section

variable (splitId : Int32)

/-- The row of the message. -/
def camSql (id : Int64) (c : CamData σ) : Insertion σ Unit := do
  let sql ← sprintf 4096 camSqlFormat
    [.long id, .int splitId, .int c.type.toInt32, .str c.ver, .int c.msgCnt.toInt32,
     .long c.timestamp.toInt64, .str c.deviceId, .str c.mapDeviceId, .int (latOf c.refPos),
     .int (lonOf c.refPos), .int (eleOf c.refPos), .int c.sceneType,
     .int (c.roadSignalState.elim 0 (·.msgCnt.toInt32)),
     .long (c.roadSignalState.elim 0 (·.timestamp.toInt64)), .long c.toAlgorithmTime.toInt64,
     .long c.toDatabusTime.toInt64, .long c.toCloudTime.toInt64]
  excuteSql sql

/-- A corner; latitude comes first here. -/
def polySql (participantId : Int64) (i : ℕ) (p : Position3D) : Insertion σ (Text σ) := do
  let id ← nextId
  participantDataPosition3D.append i
    [.long id, .int splitId, .int p.lat, .int p.lon, .int p.ele, .long participantId]

def pathHistorySql (participantId : Int64) (i : ℕ) (h : PathHistoryPoint) :
    Insertion σ (Text σ) := do
  let id ← nextId
  pathHistoryPoint.append i
    [.long id, .int splitId, .int (latOf h.pos), .int (lonOf h.pos), .int (eleOf h.pos),
     .int h.timeOffset.toInt32, .int h.speed.toInt32, .int h.heading.toInt32,
     .int (h.posConfid.elim 0 (·.posConfid)), .int (h.posConfid.elim 0 (·.eleConfid)),
     .long participantId]

/-- A road user: it keeps the identifier it came with, if there is one. -/
def ptclistSql (camId : Int64) (deviceId : σ) (i : ℕ) (p : ParticipantData σ) :
    Insertion σ (Text σ) := do
  let id ← ownId p.id
  let sql ← participantData.append i
    [.long id, .int splitId, .long p.ptcId.toInt64, .int p.ptcType, .int p.dataSource,
     .str p.deviceIdList, .long p.timestamp.toInt64, .int (latOf p.ptcPos), .int (lonOf p.ptcPos),
     .int (eleOf p.ptcPos), .str (p.mapLocation.map (·.linkName)),
     .int (p.mapLocation.elim 0 (·.sectionId.toInt32)),
     .int (p.mapLocation.elim 0 (·.laneId.toInt32)), .int (p.posConfid.elim 0 (·.posConfid)),
     .int (p.posConfid.elim 0 (·.eleConfid)), .int p.speed.toInt32, .int p.heading.toInt32,
     .int (p.motionConfid.elim 0 (·.speedCfd)), .int (p.motionConfid.elim 0 (·.headingCfd)),
     .int (p.motionConfid.elim 0 (·.steerCfd)), .int (p.accelSet.elim 0 (·.lat)),
     .int (p.accelSet.elim 0 (·.lon)), .int (p.accelSet.elim 0 (·.vert)),
     .int (p.accelSet.elim 0 (·.yaw)), .int (p.accelerationConfid.elim 0 (·.lonAccelConfid)),
     .int (p.accelerationConfid.elim 0 (·.latAccelConfid)),
     .int (p.accelerationConfid.elim 0 (·.verticalAccelConfid)),
     .int (p.accelerationConfid.elim 0 (·.yawRateConfid)),
     .int (p.ptcSize.elim 0 (·.width.toInt32)), .int (p.ptcSize.elim 0 (·.length.toInt32)),
     .int (p.ptcSize.elim 0 (·.height.toInt32)), .str p.vehicleBand, .int p.vehicleType,
     .str p.plateNo, .int p.plateType, .int p.plateColor, .int p.vehicleColor,
     .int (p.ptcSizeConfid.elim 0 (·.widthConfid)),
     .int (p.ptcSizeConfid.elim 0 (·.lengthConfid)),
     .int (p.ptcSizeConfid.elim 0 (·.heightConfid)), .int p.ptcTypeExt,
     .int p.ptcTypeExtConfid.toInt32, .int p.statusDuration.toInt32, .int p.tracking.toInt32,
     .long camId, .int (regionOf (p.mapLocation.bind (·.nodeId))),
     .int (nodeIdOf (p.mapLocation.bind (·.nodeId))),
     .int (regionOf (p.mapLocation.bind (·.upstreamNodeId))),
     .int (nodeIdOf (p.mapLocation.bind (·.upstreamNodeId))), .int p.timeConfidence, .str deviceId]
  optionally p.polygon fun polygon => insertEach (polySql splitId id) polygon.pos
  insertEach (pathHistorySql splitId id) p.pathHistory
  pure sql

end

/-! ## What is stored -/

section

variable (content : σ → List Char) (splitId : Int32)

/-- The row of the message. -/
def camDataRow (id : Int64) (c : CamData σ) : Row :=
  [("id", int64 id), ("split_id", int32 splitId), ("type", int32 c.type.toInt32),
   ("ver", text content c.ver), ("msg_cnt", int32 c.msgCnt.toInt32),
   ("timestamp", int64 c.timestamp.toInt64), ("device_id", text content c.deviceId),
   ("map_device_id", text content c.mapDeviceId), ("lat", int32 (latOf c.refPos)),
   ("lon", int32 (lonOf c.refPos)), ("ele", int32 (eleOf c.refPos)),
   ("scene_type_id", int32 c.sceneType),
   ("spat_msg_cnt", int32 (c.roadSignalState.elim 0 (·.msgCnt.toInt32))),
   ("spat_timestamp", int64 (c.roadSignalState.elim 0 (·.timestamp.toInt64))),
   ("to_algorithm_time", int64 c.toAlgorithmTime.toInt64),
   ("to_databus_time", int64 c.toDatabusTime.toInt64),
   ("to_cloud_time", int64 c.toCloudTime.toInt64)]

def participantDataPosition3DRow (participantId id : Int64) (p : Position3D) : Row :=
  [("id", int64 id), ("split_id", int32 splitId), ("lat", int32 p.lat), ("lon", int32 p.lon),
   ("ele", int32 p.ele), ("participant_data_id", int64 participantId)]

def pathHistoryPointRow (participantId id : Int64) (h : PathHistoryPoint) : Row :=
  [("id", int64 id), ("split_id", int32 splitId), ("lat", int32 (latOf h.pos)),
   ("lon", int32 (lonOf h.pos)), ("ele", int32 (eleOf h.pos)),
   ("time_offset", int32 h.timeOffset.toInt32), ("speed", int32 h.speed.toInt32),
   ("heading", int32 h.heading.toInt32),
   ("pos_confid_id", int32 (h.posConfid.elim 0 (·.posConfid))),
   ("ele_confid_id", int32 (h.posConfid.elim 0 (·.eleConfid))),
   ("participant_data_id", int64 participantId)]

/-- The row of a road user; a message that is absent reads `0`, a string in it nothing. -/
def participantDataRow (camId : Int64) (deviceId : σ) (id : Int64) (p : ParticipantData σ) : Row :=
  [("id", int64 id), ("split_id", int32 splitId), ("ptc_id", int64 p.ptcId.toInt64),
   ("ptc_type_id", int32 p.ptcType), ("data_source_id", int32 p.dataSource),
   ("device_id_list", text content p.deviceIdList), ("timestamp", int64 p.timestamp.toInt64),
   ("lat", int32 (latOf p.ptcPos)), ("lon", int32 (lonOf p.ptcPos)),
   ("ele", int32 (eleOf p.ptcPos)), ("link_name", text content (p.mapLocation.map (·.linkName))),
   ("section_id", int32 (p.mapLocation.elim 0 (·.sectionId.toInt32))),
   ("lane_id", int32 (p.mapLocation.elim 0 (·.laneId.toInt32))),
   ("pos_confid_id", int32 (p.posConfid.elim 0 (·.posConfid))),
   ("ele_confid_id", int32 (p.posConfid.elim 0 (·.eleConfid))), ("speed", int32 p.speed.toInt32),
   ("heading", int32 p.heading.toInt32),
   ("speed_cfd_id", int32 (p.motionConfid.elim 0 (·.speedCfd))),
   ("heading_cfd_id", int32 (p.motionConfid.elim 0 (·.headingCfd))),
   ("steer_cfd_id", int32 (p.motionConfid.elim 0 (·.steerCfd))),
   ("acceleration_lat", int32 (p.accelSet.elim 0 (·.lat))),
   ("acceleration_lon", int32 (p.accelSet.elim 0 (·.lon))),
   ("acceleration_vert", int32 (p.accelSet.elim 0 (·.vert))),
   ("acceleration_yaw", int32 (p.accelSet.elim 0 (·.yaw))),
   ("lon_accel_confid_id", int32 (p.accelerationConfid.elim 0 (·.lonAccelConfid))),
   ("lat_accel_confid_id", int32 (p.accelerationConfid.elim 0 (·.latAccelConfid))),
   ("vertical_accel_confid_id", int32 (p.accelerationConfid.elim 0 (·.verticalAccelConfid))),
   ("yaw_rate_confid_id", int32 (p.accelerationConfid.elim 0 (·.yawRateConfid))),
   ("width", int32 (p.ptcSize.elim 0 (·.width.toInt32))),
   ("length", int32 (p.ptcSize.elim 0 (·.length.toInt32))),
   ("height", int32 (p.ptcSize.elim 0 (·.height.toInt32))),
   ("vehicle_band", text content p.vehicleBand), ("vehicle_type_id", int32 p.vehicleType),
   ("plate_no", text content p.plateNo), ("plate_type_id", int32 p.plateType),
   ("plate_color_id", int32 p.plateColor), ("vehicle_color_id", int32 p.vehicleColor),
   ("width_confid_id", int32 (p.ptcSizeConfid.elim 0 (·.widthConfid))),
   ("length_confid_id", int32 (p.ptcSizeConfid.elim 0 (·.lengthConfid))),
   ("height_confid_id", int32 (p.ptcSizeConfid.elim 0 (·.heightConfid))),
   ("ptc_type_ext_id", int32 p.ptcTypeExt),
   ("ptc_type_ext_confid", int32 p.ptcTypeExtConfid.toInt32),
   ("status_duration", int32 p.statusDuration.toInt32), ("tracking", int32 p.tracking.toInt32),
   ("cam_data_id", int64 camId),
   ("node_region_id", int32 (regionOf (p.mapLocation.bind (·.nodeId)))),
   ("node_id", int32 (nodeIdOf (p.mapLocation.bind (·.nodeId)))),
   ("upstream_node_region_id", int32 (regionOf (p.mapLocation.bind (·.upstreamNodeId)))),
   ("upstream_node_node_id", int32 (nodeIdOf (p.mapLocation.bind (·.upstreamNodeId)))),
   ("time_confidence_id", int32 p.timeConfidence), ("device_id", text content deviceId)]

/-- The participants, with their outlines and the points where they have been. -/
def ParticipantForest (I : Int64 → Prop) (camId : Int64) (deviceId : σ) :
    List (ParticipantData σ) → Forest Int64 Row → Prop :=
  Forest.Grown "participant_data" (participantDataRow content splitId camId deviceId) fun id p f =>
    Owns I p.id id ∧ Forest.Both
      (Forest.Leaves "participant_data_position_3_d" (participantDataPosition3DRow splitId id)
        (p.polygon.elim [] (·.pos)))
      (Forest.Leaves "path_history_point" (pathHistoryPointRow splitId id) p.pathHistory) f

end

/-! ## The tables of the statements -/

variable {splitId : Int32} {W : Text σ → Prop}

/-- The format is the head of the table with one row behind it. -/
theorem camSql_whole : Whole camSqlFormat camDataTable.header camDataTable.row := by
  dsimp only [camSqlFormat, camDataTable]
  exact Whole.of_chars rfl rfl rfl (by decide +kernel)

theorem always_camSql (id : Int64) (c : CamData σ) :
    Always (Executed ["cam_data"]) (camSql splitId id c) fun _ => True := by
  rw [camSql]
  refine (always_sprintf 4096 camSqlFormat _).bind fun t ht => ?_
  obtain ⟨r, hr, heq⟩ := (camSql_whole.printed_iff camDataTable.sound).mp ht
  refine ⟨?_, trivial⟩
  rw [heq]
  exact camDataTable.executed (.head _) hr

/-- The tables of the participants. -/
def participantTables : List String :=
  ["participant_data", "participant_data_position_3_d", "path_history_point"]

theorem always_polySql (id : Int64) (i : ℕ) (p : Position3D) :
    Always W (polySql (σ := σ) splitId id i p) (Adds participantTables i) :=
  .bind (always_nextId fun _ => trivial) fun _ _ =>
    participantDataPosition3D.always_append participantTables (.tail _ (.head _)) i _

theorem always_pathHistorySql (id : Int64) (i : ℕ) (h : PathHistoryPoint) :
    Always W (pathHistorySql (σ := σ) splitId id i h) (Adds participantTables i) :=
  .bind (always_nextId fun _ => trivial) fun _ _ =>
    pathHistoryPoint.always_append participantTables (.tail _ (.tail _ (.head _))) i _

/-- Whatever is executed for a road user inserts into these tables, and the text goes on. -/
theorem always_ptclistSql (camId : Int64) (deviceId : σ) (i : ℕ) (p : ParticipantData σ) :
    Always (Executed participantTables) (ptclistSql splitId camId deviceId i p)
      (Adds participantTables i) := by
  refine .bind (always_ownId fun _ => trivial) fun id _ => ?_
  refine .bind (participantData.always_append participantTables (.head _) i _) fun sql hsql => ?_
  refine .bind (always_optionally fun polygon => always_insertEach (always_polySql id) polygon.pos)
    fun _ _ => ?_
  exact .bind (always_insertEach (always_pathHistorySql id) p.pathHistory) fun _ _ => hsql

/-! ## The rows are those of the message -/

variable {print : σ → List Char} {I : Int64 → Prop} (content : σ → List Char)
  (carried : List Int64)

/-- The row of the message is the only one in its table. -/
theorem yields_camSql (id : Int64) (c : CamData σ) :
    Yields print I (camSql splitId id c)
      (fun _ ss _ => meantRows content "cam_data" ss = [camDataRow content splitId id c])
      fun _ _ => False :=
  (yields_whole (t := camDataTable) _ camSql_whole (Table.stores rfl rfl)).mono
    (fun _ _ _ h => h.1) fun _ _ h => h

theorem grows_polySql (id : Int64) (es : List Position3D) :
    Grows print content I carried (insertEach (polySql splitId id) es)
      (Forest.Leaves "participant_data_position_3_d" (participantDataPosition3DRow splitId id) es) :=
  grows_leaves (t := participantDataPosition3D) (fun _ _ => Table.stores rfl rfl) es

theorem grows_pathHistorySql (id : Int64)
    (es : List PathHistoryPoint) :
    Grows print content I carried (insertEach (pathHistorySql splitId id) es)
      (Forest.Leaves "path_history_point" (pathHistoryPointRow splitId id) es) :=
  grows_leaves (t := pathHistoryPoint) (fun _ _ => Table.stores rfl rfl) es

/-- **Road users are stored**, under the identifiers that `carried` has of them. -/
theorem grows_ptclistSql (camId : Int64) (deviceId : σ)
    {ps : List (ParticipantData σ)} (hcarried : ∀ p ∈ ps, p.id ≠ 0 → p.id.toInt64 ∈ carried) :
    Grows print content I carried (insertEach (ptclistSql splitId camId deviceId) ps)
      (ParticipantForest content splitId I camId deviceId ps) := by
  refine grows_insertEach (t := participantData) ?_ fun i p hp => ?_
  · rintro id p f ⟨-, hf⟩
    exact Forest.Both.rowsAt_eq_nil (fun _ => Forest.Leaves.rowsAt_eq_nil (by decide))
      (fun _ => Forest.Leaves.rowsAt_eq_nil (by decide)) f hf
  · rw [ptclistSql, yields_bind]
    refine yields_ownId (hcarried p hp) fun ds id hid hds => ?_
    rw [yields_bind]
    refine yields_append (participantDataRow content splitId camId deviceId id p)
      (Table.stores rfl rfl) fun text htext => ?_
    refine (grows_optionally fun polygon : Polygon =>
      grows_polySql content carried id polygon.pos).bind
      fun ds₁ ss₁ F hF hbF => ?_
    refine (grows_pathHistorySql content carried id p.pathHistory).bind fun ds₂ ss₂ G hG hbG => ?_
    rw [yields_pure]
    simp only [List.nil_append, List.append_nil]
    exact .of_bears htext hds ⟨hid, F, G, rfl, hF, hG⟩ (hbF.append hbG)

end DataInsert

end Sadip
