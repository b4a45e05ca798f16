import Sadip.DataInsert.Message
import Sadip.DataInsert.Table

/-!
# DataInsert/Signal — signals, signal schemes and regions

The states of the intersections with their phases, the signal schemes in four levels, and the
outlines of the detected regions.
-/

set_option maxRecDepth 10000

namespace Sadip

namespace DataInsert

open Printf Sql Insertion Conversions

variable {σ : Type}

/-! ## Tables -/

/-- One row for what the signals of an intersection show. -/
def intersectionState : Table where
  table := "intersection_state"
  header :=
    "INSERT INTO `intersection_state`\t\t\t\t(`id`,`split_id`,`node_region_id`,`node_id`,`status`,\t\t\t\t`timestamp`,`time_confidence_id`,`cam_data_id`,`device_id`)VALUES"
  row := "(%lld,%d,%d,%d,'%s',%lld,%lld,%lld,'%s'),"
  size := 10240
  slots := [lld, d, d, d, s, lld, lld, lld, s]
  sound := .of_chars rfl rfl rfl (by decide +kernel)
  columns :=
    ["id", "split_id", "node_region_id", "node_id", "status", "timestamp", "time_confidence_id",
     "cam_data_id", "device_id"]
  matched := .of_chars rfl rfl rfl (by repeat first | exact .nil | apply Spells.cons rfl)
    (by decide +kernel)

def phase : Table where
  table := "phase"
  header :=
    "INSERT INTO `phase`\t\t\t\t\t(`id`,`split_id`,`phase_id`,`intersection_state_id`,`device_id`)VALUES"
  row := "(%lld,%d,%d,%lld,'%s'),"
  size := 10240
  slots := [lld, d, d, lld, s]
  sound := .of_chars rfl rfl rfl (by decide +kernel)
  columns := ["id", "split_id", "phase_id", "intersection_state_id", "device_id"]
  matched := .of_chars rfl rfl rfl (by repeat first | exact .nil | apply Spells.cons rfl)
    (by decide +kernel)

/-- The light of a phase, with its countdown. -/
def phaseState : Table where
  table := "phase_state"
  header :=
    "INSERT INTO `phase_state`\t\t\t\t\t\t(`id`,`split_id`,`start_time`,`min_end_time`,`max_end_time`,\t\t\t\t\t\t`likely_end_time`,`next_start_time`,`next_duration`,`light_id`,`time_confidence_id`,`phase_id`,`device_id`)VALUES"
  row := "(%lld,%d,%d,%d,%d,%d,%d,%d,%lld,%lld,%lld,'%s'),"
  size := 10240
  slots := [lld, d, d, d, d, d, d, d, lld, lld, lld, s]
  sound := .of_chars rfl rfl rfl (by decide +kernel)
  columns :=
    ["id", "split_id", "start_time", "min_end_time", "max_end_time", "likely_end_time",
     "next_start_time", "next_duration", "light_id", "time_confidence_id", "phase_id", "device_id"]
  matched := .of_chars rfl rfl rfl (by repeat first | exact .nil | apply Spells.cons rfl)
    (by decide +kernel)

/-- One row for the plans proposed for an intersection. -/
def signalScheme : Table where
  table := "signal_scheme"
  header :=
    "INSERT INTO `signal_scheme`\t\t\t(`id`,`split_id`,`node_region_id`,`node_id`,`optim_type`,`timestamp`,`cam_data_id`,`device_id`)VALUES"
  row := "(%lld,%d,%d,%d,%d,%lld,%lld,'%s'),"
  size := 10240
  slots := [lld, d, d, d, d, lld, lld, s]
  sound := .of_chars rfl rfl rfl (by decide +kernel)
  columns :=
    ["id", "split_id", "node_region_id", "node_id", "optim_type", "timestamp", "cam_data_id",
     "device_id"]
  matched := .of_chars rfl rfl rfl (by repeat first | exact .nil | apply Spells.cons rfl)
    (by decide +kernel)

/-- A plan, with the span of time for which it holds, given in one of two ways. -/
def optimData : Table where
  table := "optim_data"
  header :=
    "INSERT INTO `optim_data`\t\t\t\t(`id`,`split_id`,`start_time`,`end_time`,`month_filter`,\t\t\t\t`day_filter`,`weekday_filter`,`fromhh`,`frommm`,`fromss`,\t\t\t\t`tohh`,`tomm`,`toss`,`optim_cycle_time`,`min_cycle_time`,\t\t\t\t`max_cycle_time`,`coor_phase`,`offset`,`signal_scheme_id`,`device_id`)VALUES"
  row :=
    "(%lld,%d,%lld,%lld,%d,            %d,%d,%d,%d,%d,            %d,%d,%d,%d,%d,            %d,'%s',%d,%lld,'%s'),"
  size := 10240
  slots := [lld, d, lld, lld, d, d, d, d, d, d, d, d, d, d, d, d, s, d, lld, s]
  sound := .of_chars rfl rfl rfl (by decide +kernel)
  columns :=
    ["id", "split_id", "start_time", "end_time", "month_filter", "day_filter", "weekday_filter",
     "fromhh", "frommm", "fromss", "tohh", "tomm", "toss", "optim_cycle_time", "min_cycle_time",
     "max_cycle_time", "coor_phase", "offset", "signal_scheme_id", "device_id"]
  matched := .of_chars rfl rfl rfl (by repeat first | exact .nil | apply Spells.cons rfl)
    (by decide +kernel)

def optimPhase : Table where
  table := "optim_phase"
  header :=
    "INSERT INTO `optim_phase`\t\t\t\t\t(`id`,`split_id`,`phase_id`,`jhi_order`,`phase_time`,\t\t\t\t\t`green`,`phase_yellow_time`,`phase_all_red_time`,`min_green`,`max_green`,`optim_data_id`,`device_id`)VALUES"
  row := "(%lld,%d,%d,%d,%d,                %d,%d,%d,%d,%d,%lld,'%s'),"
  size := 10240
  slots := [lld, d, d, d, d, d, d, d, d, d, lld, s]
  sound := .of_chars rfl rfl rfl (by decide +kernel)
  columns :=
    ["id", "split_id", "phase_id", "jhi_order", "phase_time", "green", "phase_yellow_time",
     "phase_all_red_time", "min_green", "max_green", "optim_data_id", "device_id"]
  matched := .of_chars rfl rfl rfl (by repeat first | exact .nil | apply Spells.cons rfl)
    (by decide +kernel)

/-- The turns that a phase lets through. -/
def optimPhaseMovementEx : Table where
  table := "optim_phase_movement_ex"
  header :=
    "INSERT INTO `optim_phase_movement_ex`\t\t\t\t\t\t(`id`,`split_id`,`node_region_id`,`node_id`,`phase_id`,\t\t\t\t\t\t`turn_direction_id`,`optim_phase_id`,`device_id`)VALUES"
  row := "(%lld,%d,%d,%d,%d,%lld,%lld,'%s'),"
  size := 10240
  slots := [lld, d, d, d, d, lld, lld, s]
  sound := .of_chars rfl rfl rfl (by decide +kernel)
  columns :=
    ["id", "split_id", "node_region_id", "node_id", "phase_id", "turn_direction_id",
     "optim_phase_id", "device_id"]
  matched := .of_chars rfl rfl rfl (by repeat first | exact .nil | apply Spells.cons rfl)
    (by decide +kernel)

/-- A region has no columns but its identifiers. -/
def camDataPolygon : Table where
  table := "cam_data_polygon"
  header :=
    "INSERT INTO `cam_data_polygon`\t\t\t(`id`,`split_id`,`cam_data_id`)VALUES"
  row := "(%lld,%d,%lld),"
  size := 10240
  slots := [lld, d, lld]
  sound := .of_chars rfl rfl rfl (by decide +kernel)
  columns := ["id", "split_id", "cam_data_id"]
  matched := .of_chars rfl rfl rfl (by repeat first | exact .nil | apply Spells.cons rfl)
    (by decide +kernel)

def camDataPolygonPosition3D : Table where
  table := "cam_data_polygon_position_3_d"
  header :=
    "INSERT INTO `cam_data_polygon_position_3_d`\t\t\t\t(`id`,`split_id`,`lon`,`lat`,`ele`,`cam_data_polygon_id`)VALUES"
  row := "(%lld,%d,%d,%d,%d,%lld),"
  size := 10240
  slots := [lld, d, d, d, d, lld]
  sound := .of_chars rfl rfl rfl (by decide +kernel)
  columns := ["id", "split_id", "lon", "lat", "ele", "cam_data_polygon_id"]
  matched := .of_chars rfl rfl rfl (by repeat first | exact .nil | apply Spells.cons rfl)
    (by decide +kernel)

/-! ## What is inserted -/

/-! The times of an optimisation: for once, or for certain days. -/

/-- The span, if the plan holds once. -/
def singleOf : Option OptimTimeType → Option SingleTimeSpan
  | some (.single s) => some s
  | _ => none

/-- The days and times, if it holds periodically. -/
def periodicOf : Option OptimTimeType → Option PeriodictimeSpan
  | some (.periodic p) => some p
  | _ => none

def fromTimePointOf (t : Option OptimTimeType) : Option LocalTimePoint :=
  (periodicOf t).bind (·.fromTimePoint)

def toTimePointOf (t : Option OptimTimeType) : Option LocalTimePoint :=
  (periodicOf t).bind (·.toTimePoint)

section

variable (splitId : Int32)

/-- Without a countdown the columns read `0`. -/
def phaseStateSql (deviceId : σ) (phaseDataId : Int64) (i : ℕ) (s : PhaseState) :
    Insertion σ (Text σ) := do
  let id ← nextId
  phaseState.append i
    [.long id, .int splitId, .int (s.timing.elim 0 (·.startTime.toInt32)),
     .int (s.timing.elim 0 (·.minEndTime.toInt32)), .int (s.timing.elim 0 (·.maxEndTime.toInt32)),
     .int (s.timing.elim 0 (·.likelyEndTime.toInt32)),
     .int (s.timing.elim 0 (·.nextStartTime.toInt32)),
     .int (s.timing.elim 0 (·.nextDuration.toInt32)), .long s.light.toInt64,
     .long (s.timing.elim 0 (·.timeConfidence.toInt64)), .long phaseDataId, .str deviceId]

/-- A phase, and under its identifier its lights. -/
def phaseDataSql (deviceId : σ) (intersectionStateId : Int64) (i : ℕ) (p : Phase) :
    Insertion σ (Text σ) := do
  let id ← nextId
  let sql ← phase.append i
    [.long id, .int splitId, .int p.id.toInt32, .long intersectionStateId, .str deviceId]
  insertEach (phaseStateSql splitId deviceId id) p.phaseStates
  pure sql

/-- An intersection, and under its identifier its phases. -/
def intersectionStateSql (camId : Int64) (deviceId : σ) (i : ℕ) (s : IntersectionState σ) :
    Insertion σ (Text σ) := do
  let id ← nextId
  let sql ← intersectionState.append i
    [.long id, .int splitId, .int (regionOf s.intersectionId), .int (nodeIdOf s.intersectionId),
     .str s.status, .long s.timestamp.toInt64, .long s.timeConfidence.toInt64, .long camId,
     .str deviceId]
  insertEach (phaseDataSql splitId deviceId id) s.phases
  pure sql

def movementsSql (deviceId : σ) (optimPhaseId : Int64) (i : ℕ) (m : MovementEx) :
    Insertion σ (Text σ) := do
  let id ← nextId
  optimPhaseMovementEx.append i
    [.long id, .int splitId, .int (regionOf m.remoteIntersection),
     .int (nodeIdOf m.remoteIntersection), .int m.phaseId.toInt32, .long m.turnDirection.toInt64,
     .long optimPhaseId, .str deviceId]

def optimPhaseSql (deviceId : σ) (optimId : Int64) (i : ℕ) (p : OptimPhase) :
    Insertion σ (Text σ) := do
  let id ← nextId
  let sql ← optimPhase.append i
    [.long id, .int splitId, .int p.phaseId.toInt32, .int p.order.toInt32,
     .int p.phaseTime.toInt32, .int p.green.toInt32, .int p.phaseYellowTime.toInt32,
     .int p.phaseAllRedTime.toInt32, .int p.minGreen.toInt32, .int p.maxGreen.toInt32,
     .long optimId, .str deviceId]
  insertEach (movementsSql splitId deviceId id) p.movementId
  pure sql

/-- A plan, and under its identifier its phases. -/
def optimSql (deviceId : σ) (signalSchemeId : Int64) (i : ℕ) (o : OptimData σ) :
    Insertion σ (Text σ) := do
  let id ← nextId
  let sql ← optimData.append i
    [.long id, .int splitId, .long ((singleOf o.optimTimeType).elim 0 (·.startTime.toInt64)),
     .long ((singleOf o.optimTimeType).elim 0 (·.endTime.toInt64)),
     .int ((periodicOf o.optimTimeType).elim 0 (·.monthFilter)),
     .int ((periodicOf o.optimTimeType).elim 0 (·.dayFilter)),
     .int ((periodicOf o.optimTimeType).elim 0 (·.weekdayFilter)),
     .int ((fromTimePointOf o.optimTimeType).elim 0 (·.hh)),
     .int ((fromTimePointOf o.optimTimeType).elim 0 (·.mm)),
     .int ((fromTimePointOf o.optimTimeType).elim 0 (·.ss)),
     .int ((toTimePointOf o.optimTimeType).elim 0 (·.hh)),
     .int ((toTimePointOf o.optimTimeType).elim 0 (·.mm)),
     .int ((toTimePointOf o.optimTimeType).elim 0 (·.ss)), .int o.optimCycleTime.toInt32,
     .int o.minCycleTime.toInt32, .int o.maxCycleTime.toInt32, .str o.coorPhase,
     .int o.offset.toInt32, .long signalSchemeId, .str deviceId]
  insertEach (optimPhaseSql splitId deviceId id) o.optimPhaseList
  pure sql

/-- The plans for an intersection. -/
def signalSchemeSql (camId : Int64) (deviceId : σ) (i : ℕ) (s : SignalScheme σ) :
    Insertion σ (Text σ) := do
  let id ← nextId
  let sql ← signalScheme.append i
    [.long id, .int splitId, .int (regionOf s.nodeId), .int (nodeIdOf s.nodeId),
     .int s.optimType.toInt32, .long s.timestamp.toInt64, .long camId, .str deviceId]
  insertEach (optimSql splitId deviceId id) s.optimDataList
  pure sql

def camPolygonPosSql (camPolygonId : Int64) (i : ℕ) (p : Position3D) : Insertion σ (Text σ) := do
  let id ← nextId
  camDataPolygonPosition3D.append i
    [.long id, .int splitId, .int p.lon, .int p.lat, .int p.ele, .long camPolygonId]

/-- A region, and under its identifier its corners. -/
def camPolygonSql (camId : Int64) (i : ℕ) (p : Polygon) : Insertion σ (Text σ) := do
  let id ← nextId
  let sql ← camDataPolygon.append i
    [.long id, .int splitId, .long camId]
  insertEach (camPolygonPosSql splitId id) p.pos
  pure sql

end

/-! ## What is stored -/

section

variable (content : σ → List Char) (splitId : Int32)

/-- The row of a light, with the conversions of `int`. -/
def phaseStateRow (deviceId : σ) (phaseDataId id : Int64) (s : PhaseState) : Row :=
  [("id", int64 id), ("split_id", int32 splitId),
   ("start_time", int32 (s.timing.elim 0 (·.startTime.toInt32))),
   ("min_end_time", int32 (s.timing.elim 0 (·.minEndTime.toInt32))),
   ("max_end_time", int32 (s.timing.elim 0 (·.maxEndTime.toInt32))),
   ("likely_end_time", int32 (s.timing.elim 0 (·.likelyEndTime.toInt32))),
   ("next_start_time", int32 (s.timing.elim 0 (·.nextStartTime.toInt32))),
   ("next_duration", int32 (s.timing.elim 0 (·.nextDuration.toInt32))),
   ("light_id", int64 s.light.toInt64),
   ("time_confidence_id", int64 (s.timing.elim 0 (·.timeConfidence.toInt64))),
   ("phase_id", int64 phaseDataId), ("device_id", text content deviceId)]

def phaseRow (deviceId : σ) (intersectionStateId id : Int64) (p : Phase) : Row :=
  [("id", int64 id), ("split_id", int32 splitId), ("phase_id", int32 p.id.toInt32),
   ("intersection_state_id", int64 intersectionStateId), ("device_id", text content deviceId)]

def intersectionStateRow (camId : Int64) (deviceId : σ) (id : Int64) (s : IntersectionState σ) :
    Row :=
  [("id", int64 id), ("split_id", int32 splitId),
   ("node_region_id", int32 (regionOf s.intersectionId)),
   ("node_id", int32 (nodeIdOf s.intersectionId)), ("status", text content s.status),
   ("timestamp", int64 s.timestamp.toInt64),
   ("time_confidence_id", int64 s.timeConfidence.toInt64), ("cam_data_id", int64 camId),
   ("device_id", text content deviceId)]

def optimPhaseMovementExRow (deviceId : σ) (optimPhaseId id : Int64) (m : MovementEx) : Row :=
  [("id", int64 id), ("split_id", int32 splitId),
   ("node_region_id", int32 (regionOf m.remoteIntersection)),
   ("node_id", int32 (nodeIdOf m.remoteIntersection)), ("phase_id", int32 m.phaseId.toInt32),
   ("turn_direction_id", int64 m.turnDirection.toInt64), ("optim_phase_id", int64 optimPhaseId),
   ("device_id", text content deviceId)]

def optimPhaseRow (deviceId : σ) (optimId id : Int64) (p : OptimPhase) : Row :=
  [("id", int64 id), ("split_id", int32 splitId), ("phase_id", int32 p.phaseId.toInt32),
   ("jhi_order", int32 p.order.toInt32), ("phase_time", int32 p.phaseTime.toInt32),
   ("green", int32 p.green.toInt32), ("phase_yellow_time", int32 p.phaseYellowTime.toInt32),
   ("phase_all_red_time", int32 p.phaseAllRedTime.toInt32),
   ("min_green", int32 p.minGreen.toInt32), ("max_green", int32 p.maxGreen.toInt32),
   ("optim_data_id", int64 optimId), ("device_id", text content deviceId)]

/-- The row of a plan: of the two kinds of spans one reads `0` at least. -/
def optimDataRow (deviceId : σ) (signalSchemeId id : Int64) (o : OptimData σ) : Row :=
  [("id", int64 id), ("split_id", int32 splitId),
   ("start_time", int64 ((singleOf o.optimTimeType).elim 0 (·.startTime.toInt64))),
   ("end_time", int64 ((singleOf o.optimTimeType).elim 0 (·.endTime.toInt64))),
   ("month_filter", int32 ((periodicOf o.optimTimeType).elim 0 (·.monthFilter))),
   ("day_filter", int32 ((periodicOf o.optimTimeType).elim 0 (·.dayFilter))),
   ("weekday_filter", int32 ((periodicOf o.optimTimeType).elim 0 (·.weekdayFilter))),
   ("fromhh", int32 ((fromTimePointOf o.optimTimeType).elim 0 (·.hh))),
   ("frommm", int32 ((fromTimePointOf o.optimTimeType).elim 0 (·.mm))),
   ("fromss", int32 ((fromTimePointOf o.optimTimeType).elim 0 (·.ss))),
   ("tohh", int32 ((toTimePointOf o.optimTimeType).elim 0 (·.hh))),
   ("tomm", int32 ((toTimePointOf o.optimTimeType).elim 0 (·.mm))),
   ("toss", int32 ((toTimePointOf o.optimTimeType).elim 0 (·.ss))),
   ("optim_cycle_time", int32 o.optimCycleTime.toInt32),
   ("min_cycle_time", int32 o.minCycleTime.toInt32),
   ("max_cycle_time", int32 o.maxCycleTime.toInt32), ("coor_phase", text content o.coorPhase),
   ("offset", int32 o.offset.toInt32), ("signal_scheme_id", int64 signalSchemeId),
   ("device_id", text content deviceId)]

def signalSchemeRow (camId : Int64) (deviceId : σ) (id : Int64) (s : SignalScheme σ) : Row :=
  [("id", int64 id), ("split_id", int32 splitId), ("node_region_id", int32 (regionOf s.nodeId)),
   ("node_id", int32 (nodeIdOf s.nodeId)), ("optim_type", int32 s.optimType.toInt32),
   ("timestamp", int64 s.timestamp.toInt64), ("cam_data_id", int64 camId),
   ("device_id", text content deviceId)]

def camDataPolygonPosition3DRow (camPolygonId id : Int64) (p : Position3D) : Row :=
  [("id", int64 id), ("split_id", int32 splitId), ("lon", int32 p.lon), ("lat", int32 p.lat),
   ("ele", int32 p.ele), ("cam_data_polygon_id", int64 camPolygonId)]

def camDataPolygonRow (camId id : Int64) : Row :=
  [("id", int64 id), ("split_id", int32 splitId), ("cam_data_id", int64 camId)]

/-- The intersections, their phases, and the states of these. -/
def IntersectionForest (camId : Int64) (deviceId : σ) :
    List (IntersectionState σ) → Forest Int64 Row → Prop :=
  Forest.Grown "intersection_state" (intersectionStateRow content splitId camId deviceId) fun id s =>
    Forest.Grown "phase" (phaseRow content splitId deviceId id) (fun phaseId p =>
      Forest.Leaves "phase_state" (phaseStateRow content splitId deviceId phaseId) p.phaseStates)
      s.phases

/-- The phases of a plan and their turns. -/
def OptimPhaseForest (deviceId : σ) (optimId : Int64) :
    List OptimPhase → Forest Int64 Row → Prop :=
  Forest.Grown "optim_phase" (optimPhaseRow content splitId deviceId optimId) fun id p =>
    Forest.Leaves "optim_phase_movement_ex" (optimPhaseMovementExRow content splitId deviceId id)
      p.movementId

/-- The plans of a scheme, with what is below them. -/
def OptimDataForest (deviceId : σ) (signalSchemeId : Int64) :
    List (OptimData σ) → Forest Int64 Row → Prop :=
  Forest.Grown "optim_data" (optimDataRow content splitId deviceId signalSchemeId) fun id o =>
    OptimPhaseForest content splitId deviceId id o.optimPhaseList

/-- The schemes, what they optimise, the phases of it, and their movements. -/
def SignalSchemeForest (camId : Int64) (deviceId : σ) :
    List (SignalScheme σ) → Forest Int64 Row → Prop :=
  Forest.Grown "signal_scheme" (signalSchemeRow content splitId camId deviceId) fun id s =>
    OptimDataForest content splitId deviceId id s.optimDataList

/-- The regions and their outlines. -/
def PolygonForest (camId : Int64) : List Polygon → Forest Int64 Row → Prop :=
  Forest.Grown "cam_data_polygon" (fun id _ => camDataPolygonRow splitId camId id) fun id p =>
    Forest.Leaves "cam_data_polygon_position_3_d" (camDataPolygonPosition3DRow splitId id) p.pos

end

/-! ## The tables of the statements -/

variable {splitId : Int32} {W : Text σ → Prop}

/-- The tables of the signals' states. -/
def intersectionTables : List String := ["intersection_state", "phase", "phase_state"]

/-- The tables of the plans, from the top to the bottom. -/
def signalSchemeTables : List String :=
  ["signal_scheme", "optim_data", "optim_phase", "optim_phase_movement_ex"]

def polygonTables : List String := ["cam_data_polygon", "cam_data_polygon_position_3_d"]

theorem always_phaseStateSql (deviceId : σ) (id : Int64) (i : ℕ) (s : PhaseState) :
    Always W (phaseStateSql splitId deviceId id i s) (Adds intersectionTables i) :=
  phaseState.always_leaf intersectionTables (.tail _ (.tail _ (.head _))) i

theorem always_phaseDataSql (deviceId : σ) (id : Int64) (i : ℕ) (p : Phase) :
    Always (Executed intersectionTables) (phaseDataSql splitId deviceId id i p)
      (Adds intersectionTables i) :=
  phase.always_nested intersectionTables (.tail _ (.head _)) (always_phaseStateSql deviceId) i

theorem always_intersectionStateSql (camId : Int64) (deviceId : σ) (i : ℕ)
    (s : IntersectionState σ) :
    Always (Executed intersectionTables) (intersectionStateSql splitId camId deviceId i s)
      (Adds intersectionTables i) :=
  intersectionState.always_nested intersectionTables (.head _) (always_phaseDataSql deviceId) i

theorem always_movementsSql (deviceId : σ) (id : Int64) (i : ℕ) (m : MovementEx) :
    Always W (movementsSql splitId deviceId id i m) (Adds signalSchemeTables i) :=
  optimPhaseMovementEx.always_leaf signalSchemeTables (.tail _ (.tail _ (.tail _ (.head _)))) i

theorem always_optimPhaseSql (deviceId : σ) (id : Int64) (i : ℕ) (p : OptimPhase) :
    Always (Executed signalSchemeTables) (optimPhaseSql splitId deviceId id i p)
      (Adds signalSchemeTables i) :=
  optimPhase.always_nested signalSchemeTables (.tail _ (.tail _ (.head _)))
    (always_movementsSql deviceId) i

theorem always_optimSql (deviceId : σ) (id : Int64) (i : ℕ) (o : OptimData σ) :
    Always (Executed signalSchemeTables) (optimSql splitId deviceId id i o)
      (Adds signalSchemeTables i) :=
  optimData.always_nested signalSchemeTables (.tail _ (.head _)) (always_optimPhaseSql deviceId) i

/-- Each level inserts into the tables of the levels below it. -/
theorem always_signalSchemeSql (camId : Int64) (deviceId : σ) (i : ℕ) (s : SignalScheme σ) :
    Always (Executed signalSchemeTables) (signalSchemeSql splitId camId deviceId i s)
      (Adds signalSchemeTables i) :=
  signalScheme.always_nested signalSchemeTables (.head _) (always_optimSql deviceId) i

theorem always_camPolygonPosSql (id : Int64) (i : ℕ) (p : Position3D) :
    Always W (camPolygonPosSql (σ := σ) splitId id i p) (Adds polygonTables i) :=
  camDataPolygonPosition3D.always_leaf polygonTables (.tail _ (.head _)) i

theorem always_camPolygonSql (camId : Int64) (i : ℕ) (p : Polygon) :
    Always (Executed polygonTables) (camPolygonSql (σ := σ) splitId camId i p)
      (Adds polygonTables i) :=
  camDataPolygon.always_nested polygonTables (.head _) always_camPolygonPosSql i

/-! ## The rows are those of the message -/

variable {print : σ → List Char} {I : Int64 → Prop} (content : σ → List Char)
  (carried : List Int64)

theorem grows_phaseStateSql (deviceId : σ) (id : Int64)
    (es : List PhaseState) :
    Grows print content I carried (insertEach (phaseStateSql splitId deviceId id) es)
      (Forest.Leaves "phase_state" (phaseStateRow content splitId deviceId id) es) :=
  grows_leaves (t := phaseState) (fun _ _ => Table.stores rfl rfl) es

/-- Phases are stored with their lights. -/
theorem grows_phaseDataSql (deviceId : σ) (id : Int64)
    (es : List Phase) :
    Grows print content I carried (insertEach (phaseDataSql splitId deviceId id) es)
      (Forest.Grown "phase" (phaseRow content splitId deviceId id) (fun phaseId p =>
        Forest.Leaves "phase_state" (phaseStateRow content splitId deviceId phaseId) p.phaseStates)
        es) := by
  refine grows_nested (t := phase) (fun _ _ => Table.stores rfl rfl) ?_
    (fun phaseId p => grows_phaseStateSql content carried deviceId phaseId p.phaseStates) es
  intro _ p f hf
  exact hf.rowsAt_eq_nil (by decide)

/-- **Intersections are stored.** -/
theorem grows_intersectionStateSql (camId : Int64) (deviceId : σ)
    (es : List (IntersectionState σ)) :
    Grows print content I carried (insertEach (intersectionStateSql splitId camId deviceId) es)
      (IntersectionForest content splitId camId deviceId es) := by
  refine grows_nested (t := intersectionState) (fun _ _ => Table.stores rfl rfl) ?_
    (fun id s => grows_phaseDataSql content carried deviceId id s.phases) es
  intro _ s f hf
  exact hf.rowsAt_eq_nil (by decide) fun _ p g hg => hg.rowsAt_eq_nil (by decide)

theorem grows_movementsSql (deviceId : σ) (id : Int64)
    (es : List MovementEx) :
    Grows print content I carried (insertEach (movementsSql splitId deviceId id) es)
      (Forest.Leaves "optim_phase_movement_ex" (optimPhaseMovementExRow content splitId deviceId id)
        es) :=
  grows_leaves (t := optimPhaseMovementEx) (fun _ _ => Table.stores rfl rfl) es

/-- Phases of a plan are stored with their turns. -/
theorem grows_optimPhaseSql (deviceId : σ) (id : Int64)
    (es : List OptimPhase) :
    Grows print content I carried (insertEach (optimPhaseSql splitId deviceId id) es)
      (OptimPhaseForest content splitId deviceId id es) := by
  refine grows_nested (t := optimPhase) (fun _ _ => Table.stores rfl rfl) ?_
    (fun phaseId p => grows_movementsSql content carried deviceId phaseId p.movementId) es
  intro _ p f hf
  exact hf.rowsAt_eq_nil (by decide)

/-- Plans are stored with their phases. -/
theorem grows_optimSql (deviceId : σ) (id : Int64)
    (es : List (OptimData σ)) :
    Grows print content I carried (insertEach (optimSql splitId deviceId id) es)
      (OptimDataForest content splitId deviceId id es) := by
  refine grows_nested (t := optimData) (fun _ _ => Table.stores rfl rfl) ?_
    (fun optimId o => grows_optimPhaseSql content carried deviceId optimId o.optimPhaseList) es
  intro _ o f hf
  exact hf.rowsAt_eq_nil (by decide) fun _ p g hg => hg.rowsAt_eq_nil (by decide)

/-- **Signal schemes are stored.** -/
theorem grows_signalSchemeSql (camId : Int64) (deviceId : σ)
    (es : List (SignalScheme σ)) :
    Grows print content I carried (insertEach (signalSchemeSql splitId camId deviceId) es)
      (SignalSchemeForest content splitId camId deviceId es) := by
  refine grows_nested (t := signalScheme) (fun _ _ => Table.stores rfl rfl) ?_
    (fun id s => grows_optimSql content carried deviceId id s.optimDataList) es
  intro _ s f hf
  refine hf.rowsAt_eq_nil (by decide) fun _ o g hg => ?_
  exact hg.rowsAt_eq_nil (by decide) fun _ p h hh => hh.rowsAt_eq_nil (by decide)

theorem grows_camPolygonPosSql (id : Int64)
    (es : List Position3D) :
    Grows print content I carried (insertEach (camPolygonPosSql splitId id) es)
      (Forest.Leaves "cam_data_polygon_position_3_d" (camDataPolygonPosition3DRow splitId id) es) :=
  grows_leaves (t := camDataPolygonPosition3D) (fun _ _ => Table.stores rfl rfl) es

/-- **Regions are stored.** -/
theorem grows_camPolygonSql (camId : Int64) (es : List Polygon) :
    Grows print content I carried (insertEach (camPolygonSql splitId camId) es)
      (PolygonForest splitId camId es) := by
  refine grows_nested (t := camDataPolygon) (fun _ _ => Table.stores rfl rfl) ?_
    (fun id p => grows_camPolygonPosSql content carried id p.pos) es
  intro _ p f hf
  exact hf.rowsAt_eq_nil (by decide)

end DataInsert

end Sadip
