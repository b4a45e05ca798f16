import Sadip.DataInsert.Message
import Sadip.DataInsert.Table

/-!
# DataInsert/Intention — intentions and requests of vehicles

Vehicles (`virList`) with the paths they plan and the requests they make; a request for sensor data
has an area of several paths.

The loop over the points of such a path tests and advances the index of the vehicles, `i`, so the
loops around it go on with another vehicle.  They carry a `Cursor`: where in the list of vehicles
they are.  Since it only ever moves on, they come to an end.
-/

set_option maxRecDepth 10000

namespace Sadip

namespace DataInsert

open Printf Sql Insertion Conversions

variable {σ : Type}

/-! ## Tables -/

/-- One row for a vehicle, with the place where it is. -/
def virData : Table where
  table := "vir_data"
  header :=
    "INSERT INTO `vir_data`\t\t\t(`id`,`split_id`,`msg_cnt`,`vehicle_id`,`timestamp`,\t\t\t`lat`,`lon`,`ele`,`current_pos_lat`,`current_pos_lon`,\t\t\t`current_pos_ele`,`upstream_node_region_id`,`upstream_node_id`,`downstream_node_region_id`,`downstream_node_id`,\t\t\t`reference_lanes`,`speed`,`heading`,`acceleration_lon`,`acceleration_lat`,\t\t\t`acceleration_vert`,`acceleration_yaw`,`estimated_time`,`current_behavior`,`pos_confid_id`,\t\t\t`ele_confid_id`,`speed_confid_id`,`heading_confid_id`,`lon_accel_confid_id`,`lat_accel_confid_id`,\t\t\t`vertical_accel_confid_id`,`yaw_rate_confid_id`,`time_confidence_id`,`cam_data_id`)VALUES"
  row :=
    "(%lld,%d,%d,'%s',%lld,        %d,%d,%d,%d,%d,        %d,%d,%d,%d,%d,        %d,%d,%d,%d,%d,        %d,%d,%d,%d,%d,        %d,%d,%d,%d,%d,        %d,%d,%d,%lld),"
  size := 10240
  slots := [lld, d, d, s, lld, d, d, d, d, d, d, d, d, d, d, d, d, d, d, d, d, d, d, d, d, d, d,
            d, d, d, d, d, d, lld]
  sound := .of_chars rfl rfl rfl (by decide +kernel)
  columns :=
    ["id", "split_id", "msg_cnt", "vehicle_id", "timestamp", "lat", "lon", "ele",
     "current_pos_lat", "current_pos_lon", "current_pos_ele", "upstream_node_region_id",
     "upstream_node_id", "downstream_node_region_id", "downstream_node_id", "reference_lanes",
     "speed", "heading", "acceleration_lon", "acceleration_lat", "acceleration_vert",
     "acceleration_yaw", "estimated_time", "current_behavior", "pos_confid_id", "ele_confid_id",
     "speed_confid_id", "heading_confid_id", "lon_accel_confid_id", "lat_accel_confid_id",
     "vertical_accel_confid_id", "yaw_rate_confid_id", "time_confidence_id", "cam_data_id"]
  matched := .of_chars rfl rfl rfl (by repeat first | exact .nil | apply Spells.cons rfl)
    (by decide +kernel)

/-- The points of the way that it means to take. -/
def virDataPathPlanningPoint : Table where
  table := "vir_data_path_planning_point"
  header :=
    "INSERT INTO `vir_data_path_planning_point`\t\t\t\t(`id`,`split_id`,`lat`,`lon`,`ele`,\t\t\t\t`upstream_node_region_id`,`upstream_node_id`,`downstream_node_region_id`,`downstream_node_id`,`reference_lanes`,\t\t\t\t`speed`,`heading`,`acceleration_lon`,`acceleration_lat`,`acceleration_vert`,\t\t\t\t`acceleration_yaw`,`estimated_time`,`pos_confid_id`,`ele_confid_id`,`speed_confid_id`,\t\t\t\t`heading_confid_id`,`lon_accel_confid_id`,`lat_accel_confid_id`,`vertical_accel_confid_id`,`yaw_rate_confid_id`,\t\t\t\t`time_confidence_id`,`vir_data_id`)VALUES"
  row :=
    "(%lld,%d,%d,%d,%d,\t\t\t%d,%d,%d,%d,%d,\t\t\t%d,%d,%d,%d,%d,\t\t\t%d,%d,%d,%d,%d,        \t\t%d,%d,%d,%d,%d,%d,%lld),"
  size := 10240
  slots := [lld, d, d, d, d, d, d, d, d, d, d, d, d, d, d, d, d, d, d, d, d, d, d, d, d, d, lld]
  sound := .of_chars rfl rfl rfl (by decide +kernel)
  columns :=
    ["id", "split_id", "lat", "lon", "ele", "upstream_node_region_id", "upstream_node_id",
     "downstream_node_region_id", "downstream_node_id", "reference_lanes", "speed", "heading",
     "acceleration_lon", "acceleration_lat", "acceleration_vert", "acceleration_yaw",
     "estimated_time", "pos_confid_id", "ele_confid_id", "speed_confid_id", "heading_confid_id",
     "lon_accel_confid_id", "lat_accel_confid_id", "vertical_accel_confid_id",
     "yaw_rate_confid_id", "time_confidence_id", "vir_data_id"]
  matched := .of_chars rfl rfl rfl (by repeat first | exact .nil | apply Spells.cons rfl)
    (by decide +kernel)

/-- One row for a request, with the columns of all its kinds. -/
def driveRequest : Table where
  table := "drive_request"
  header :=
    "INSERT INTO `drive_request`\t\t\t\t(`id`,`split_id`,`req_id`,`req_priority`,`target_veh`,\t\t\t\t`targer_rsu`,`lane_change_up_stream_node_region_id`,`lane_change_up_stream_node_id`,`lane_change_down_stream_node_region_id`,`lane_change_down_stream_node_id`,\t\t\t\t`lane_change_target_lane`,`clear_the_way_up_stream_node_region_id`,`clear_the_way_up_stream_node_id`,`clear_the_way_down_stream_node_region_id`,`clear_the_way_down_stream_node_id`,\t\t\t\t`clear_the_way_target_lane`,`intersection_node_region_id`,`intersection_node_id`,`movement_stat_info_node_region_id`,`movement_stat_info_node_id`,\t\t\t\t`estimated_arrival_time`,`distance_2_intersection`,`req`,`parking_type`,`expected_parking_slot_id`,\t\t\t\t`life_time`,`status_id`,`vehicle_type_id`,`turn_direction_id`,`vir_data_id`)VALUES"
  row :=
    "(%lld,%d,%d,'%s','%s',            '%s',%d,%d,%d,%d,            %d,%d,%d,%d,%d,            %d,%d,%d,%d,%d,            %d,%d,%d,%d,%d,            %d,%d,%d,%d,%lld),"
  size := 10240
  slots := [lld, d, d, s, s, s, d, d, d, d, d, d, d, d, d, d, d, d, d, d, d, d, d, d, d, d, d, d,
            d, lld]
  sound := .of_chars rfl rfl rfl (by decide +kernel)
  columns :=
    ["id", "split_id", "req_id", "req_priority", "target_veh", "targer_rsu",
     "lane_change_up_stream_node_region_id", "lane_change_up_stream_node_id",
     "lane_change_down_stream_node_region_id", "lane_change_down_stream_node_id",
     "lane_change_target_lane", "clear_the_way_up_stream_node_region_id",
     "clear_the_way_up_stream_node_id", "clear_the_way_down_stream_node_region_id",
     "clear_the_way_down_stream_node_id", "clear_the_way_target_lane",
     "intersection_node_region_id", "intersection_node_id", "movement_stat_info_node_region_id",
     "movement_stat_info_node_id", "estimated_arrival_time", "distance_2_intersection", "req",
     "parking_type", "expected_parking_slot_id", "life_time", "status_id", "vehicle_type_id",
     "turn_direction_id", "vir_data_id"]
  matched := .of_chars rfl rfl rfl (by repeat first | exact .nil | apply Spells.cons rfl)
    (by decide +kernel)

/-- The paths along which it asks what is seen. -/
def driveRequestReferencePath : Table where
  table := "drive_request_reference_path"
  header :=
    "INSERT INTO `drive_request_reference_path`\t\t\t\t\t(`id`,`split_id`,`path_radius`,`drive_request_id`)VALUES"
  row := "(%lld,%d,%d,%lld),"
  size := 10240
  slots := [lld, d, d, lld]
  sound := .of_chars rfl rfl rfl (by decide +kernel)
  columns := ["id", "split_id", "path_radius", "drive_request_id"]
  matched := .of_chars rfl rfl rfl (by repeat first | exact .nil | apply Spells.cons rfl)
    (by decide +kernel)

def driveRequestReferencePathPosition3D : Table where
  table := "drive_request_reference_path_position_3_d"
  header :=
    "INSERT INTO `drive_request_reference_path_position_3_d`\t\t\t\t\t\t(`id`,`split_id`,`lon`,`lat`,`ele`,`drive_request_reference_path_id`)VALUES"
  row := "(%lld,%d,%d,%d,%d,%lld),"
  size := 10240
  slots := [lld, d, d, d, d, lld]
  sound := .of_chars rfl rfl rfl (by decide +kernel)
  columns := ["id", "split_id", "lon", "lat", "ele", "drive_request_reference_path_id"]
  matched := .of_chars rfl rfl rfl (by repeat first | exact .nil | apply Spells.cons rfl)
    (by decide +kernel)

/-! ## What is inserted -/

/-! What is asked for. -/

def laneChangeOf : Option (ReqInfo σ) → Option ReqLaneChange
  | some (.laneChange l) => some l
  | _ => none

def clearTheWayOf : Option (ReqInfo σ) → Option ReqClearTheWay
  | some (.clearTheWay c) => some c
  | _ => none

def signalPriorityOf : Option (ReqInfo σ) → Option (ReqSignalPriority σ)
  | some (.signalPriority s) => some s
  | _ => none

/-- The paths, if this is what it asks for. -/
def detectorAreaOfInfo : Option (ReqInfo σ) → List ReferencePath
  | some (.sensorSharing s) => s.detectorArea
  | _ => []

def parkingOf : Option (ReqInfo σ) → Option ReqParkingArea
  | some (.parking p) => some p
  | _ => none

/-- The requests; none without intentions. -/
def reqsOf (v : VirData σ) : List (DriveRequest σ) := v.intAndReq.elim [] (·.reqs)

/-- The points; none without intentions or without a way. -/
def pathPlanningOf (v : VirData σ) : List PathPlanningPoint :=
  (v.intAndReq.bind (·.pathPlanning)).elim [] (·.pathPlanning)

/-- The request that is read as `camData.virlist(i).intandreq().reqs(j)`, with the vehicles from the
`i`th on. -/
def request (j : ℕ) : List (VirData σ) → Option (DriveRequest σ)
  | [] => none
  | v :: _ => (reqsOf v)[j]?

/-- How many paths the area of the `j`th request has. -/
def areaSize (j : ℕ) (vs : List (VirData σ)) : ℕ :=
  (request j vs).elim 0 fun r => (detectorAreaOfInfo r.info).length

/-- How many requests the vehicle has. -/
def reqsSize (vs : List (VirData σ)) : ℕ := vs.head?.elim 0 fun v => (reqsOf v).length

/-- A path that is found is one of those that are counted. -/
theorem lt_areaSize {j k : ℕ} {vs : List (VirData σ)} {r : DriveRequest σ} {p : ReferencePath}
    (hr : request j vs = some r) (hp : (detectorAreaOfInfo r.info)[k]? = some p) :
    k < areaSize j vs := by
  rw [areaSize, hr]
  exact (List.getElem?_eq_some_iff.mp hp).1

theorem lt_reqsSize {j : ℕ} {v : VirData σ} {vs : List (VirData σ)} {r : DriveRequest σ}
    (hr : request j (v :: vs) = some r) : j < reqsSize (v :: vs) :=
  (List.getElem?_eq_some_iff.mp hr).1

/-- A place in a list of vehicles: the index `i` and the vehicles from there on. -/
structure Cursor (vs : List (VirData σ)) where
  i : ℕ
  rest : List (VirData σ)
  suffix : rest <:+ vs

namespace Cursor

variable {vs us : List (VirData σ)}

/-- The place where a loop begins. -/
def here (i : ℕ) (vs : List (VirData σ)) : Cursor vs := ⟨i, vs, List.suffix_rfl⟩

/-- The same place in a longer list. -/
def within (c : Cursor us) (h : us <:+ vs) : Cursor vs := { c with suffix := c.suffix.trans h }

/-- A loop that counts up to `f` comes to an end, also if it goes on elsewhere. -/
theorem lex (c : Cursor vs) {f : List (VirData σ) → ℕ} {k : ℕ} (hk : k < f vs) :
    Prod.Lex (· < ·) (· < ·) (c.rest.length, f c.rest - (k + 1)) (vs.length, f vs - k) := by
  rcases Nat.lt_or_eq_of_le c.suffix.length_le with hlt | heq
  · exact .left _ _ hlt
  · rw [c.suffix.eq_of_length heq]
    exact .right _ (by omega)

end Cursor

section

variable (splitId : Int32)

def virPathSql (virId : Int64) (i : ℕ) (p : PathPlanningPoint) : Insertion σ (Text σ) := do
  let id ← nextId
  virDataPathPlanningPoint.append i
    [.long id, .int splitId, .int (latOf p.pos), .int (lonOf p.pos), .int (eleOf p.pos),
     .int (regionOf (p.posInMap.bind (·.upstreamNodeId))),
     .int (nodeIdOf (p.posInMap.bind (·.upstreamNodeId))),
     .int (regionOf (p.posInMap.bind (·.downstreamNodeId))),
     .int (nodeIdOf (p.posInMap.bind (·.downstreamNodeId))),
     .int ((p.posInMap.bind (·.referenceLanes)).elim 0 (·.referenceLanes.toInt32)),
     .int p.speed.toInt32, .int p.heading.toInt32, .int (p.acceleration.elim 0 (·.lon)),
     .int (p.acceleration.elim 0 (·.lat)), .int (p.acceleration.elim 0 (·.vert)),
     .int (p.acceleration.elim 0 (·.yaw)), .int p.estimatedTime.toInt32,
     .int (p.posConfid.elim 0 (·.posConfid)), .int (p.posConfid.elim 0 (·.eleConfid)),
     .int p.speedConfid, .int p.headingConfid,
     .int (p.accelerationConfid.elim 0 (·.lonAccelConfid)),
     .int (p.accelerationConfid.elim 0 (·.latAccelConfid)),
     .int (p.accelerationConfid.elim 0 (·.verticalAccelConfid)),
     .int (p.accelerationConfid.elim 0 (·.yawRateConfid)), .int p.timeConfidence, .long virId]

/-- The points of the `k`th path in the area of the `j`th request, as they are inserted: `m` stays
zero, and it is `i` that is compared with the count of the paths and advanced. -/
def driveReqRefPosSql (j k : ℕ) (pathId : Int64) (i : ℕ) :
    (vs : List (VirData σ)) → Insertion σ (Text σ × Cursor vs)
  | [] => .undefined
  | v :: vs =>
    match request j (v :: vs) with
    | none => .undefined
    | some r =>
      let area := detectorAreaOfInfo r.info
      if i < area.length then do
        let id ← nextId
        match area[k]? with
        | none => .undefined
        | some path =>
          let pos := path.activePath.head?
          let sql ← driveRequestReferencePathPosition3D.append 0
            [.long id, .int splitId, .int (lonOf pos), .int (latOf pos), .int (eleOf pos),
             .long pathId]
          let (sqls, c) ← driveReqRefPosSql j k pathId (i + 1) vs
          pure (sql ++ sqls, c.within (List.suffix_cons v vs))
      else pure ([], .here i (v :: vs))

/-- The paths in the area of the `j`th request, from the `k`th on. -/
def driveReqRefSql (j : ℕ) (requestId : Int64) (k i : ℕ) (vs : List (VirData σ)) :
    Insertion σ (Text σ × Cursor vs) :=
  match _hr : request j vs with
  | none => .undefined
  | some r =>
    match _hp : (detectorAreaOfInfo r.info)[k]? with
    | none => pure ([], .here i vs)
    | some p => do
      let id ← nextId
      let sql ← driveRequestReferencePath.append k
        [.long id, .int splitId, .int p.pathRadius.toInt32, .long requestId]
      let (posSqls, c) ← driveReqRefPosSql splitId j k id i vs
      flush posSqls
      let (sqls, c') ← driveReqRefSql j requestId (k + 1) c.i c.rest
      pure (sql ++ sqls, c'.within c.suffix)
termination_by (vs.length, areaSize j vs - k)
decreasing_by exact c.lex (lt_areaSize _hr _hp)

/-- The requests of the vehicle, from the `j`th on. -/
def virReqsSql (virId : Int64) (j i : ℕ) : (vs : List (VirData σ)) →
    Insertion σ (Text σ × Cursor vs)
  | [] => .undefined
  | v :: vs =>
    match _hr : request j (v :: vs) with
    | none => pure ([], .here i (v :: vs))
    | some r => do
      let id ← nextId
      let laneChange := laneChangeOf r.info
      let clearTheWay := clearTheWayOf r.info
      let signalPriority := signalPriorityOf r.info
      let move := signalPriority.bind (·.requiredMove)
      let parking := parkingOf r.info
      let sql ← driveRequest.append j
        [.long id, .int splitId, .int r.reqId.toInt32, .str r.reqPriority, .str r.targetVeh,
         .str r.targetRsu, .int (regionOf (laneChange.bind (·.upStreamNode))),
         .int (nodeIdOf (laneChange.bind (·.upStreamNode))),
         .int (nodeIdOf (laneChange.bind (·.downStreamNode))), .int 0,
         .int (laneChange.elim 0 (·.targetLane.toInt32)),
         .int (regionOf (clearTheWay.bind (·.upStreamNode))),
         .int (nodeIdOf (clearTheWay.bind (·.upStreamNode))),
         .int (regionOf (clearTheWay.bind (·.downStreamNode))),
         .int (nodeIdOf (clearTheWay.bind (·.downStreamNode))),
         .int (clearTheWay.elim 0 (·.targetLane.toInt32)),
         .int (regionOf (signalPriority.bind (·.intersectionId))),
         .int (nodeIdOf (signalPriority.bind (·.intersectionId))),
         .int (regionOf (move.bind (·.remoteIntersection))),
         .int (nodeIdOf (move.bind (·.remoteIntersection))),
         .int (signalPriority.elim 0 (·.estimatedArrivalTime.toInt32)),
         .int (signalPriority.elim 0 (·.distance2Intersection.toInt32)),
         .int ((parking.bind (·.req)).elim 0 (·.req.toInt32)),
         .int ((parking.bind (·.parkingType)).elim 0 (·.parkingType.toInt32)),
         .int (parking.elim 0 (·.expectedParkingSlotId.toInt32)), .int r.lifeTime.toInt32,
         .int r.status, .int (parking.elim 0 (·.vehicleType)),
         .int (move.elim 0 (·.turnDirection)), .long virId]
      let (refSqls, c) ← driveReqRefSql splitId j id 0 i (v :: vs)
      flush refSqls
      let (sqls, c') ← virReqsSql virId (j + 1) c.i c.rest
      pure (sql ++ sqls, c'.within c.suffix)
termination_by vs => (vs.length, reqsSize vs - j)
decreasing_by exact c.lex (lt_reqsSize _hr)

/-- The vehicles, with `i` the index of the first of them. -/
def virSql (camId : Int64) (i : ℕ) : List (VirData σ) → Insertion σ (Text σ)
  | [] => pure []
  | v :: vs => do
    let id ← nextId
    let current := v.intAndReq.bind (·.currentPos)
    let inMap := current.bind (·.posInMap)
    let sql ← virData.append i
      [.long id, .int splitId, .int v.msgCnt.toInt32, .str v.vehicleId, .long v.timestamp.toInt64,
       .int (latOf v.pos), .int (lonOf v.pos), .int (eleOf v.pos),
       .int (latOf (current.bind (·.pos))), .int (lonOf (current.bind (·.pos))),
       .int (eleOf (current.bind (·.pos))), .int (regionOf (inMap.bind (·.upstreamNodeId))),
       .int (nodeIdOf (inMap.bind (·.upstreamNodeId))),
       .int (regionOf (inMap.bind (·.downstreamNodeId))),
       .int (nodeIdOf (inMap.bind (·.downstreamNodeId))),
       .int ((inMap.bind (·.referenceLanes)).elim 0 (·.referenceLanes.toInt32)),
       .int (current.elim 0 (·.speed.toInt32)), .int (current.elim 0 (·.heading.toInt32)),
       .int ((current.bind (·.acceleration)).elim 0 (·.lon)),
       .int ((current.bind (·.acceleration)).elim 0 (·.lat)),
       .int ((current.bind (·.acceleration)).elim 0 (·.vert)),
       .int ((current.bind (·.acceleration)).elim 0 (·.yaw)),
       .int (current.elim 0 (·.estimatedTime.toInt32)),
       .int ((v.intAndReq.bind (·.currentBehavior)).elim 0 (·.driveBehavior)),
       .int ((current.bind (·.posConfid)).elim 0 (·.posConfid)),
       .int ((current.bind (·.posConfid)).elim 0 (·.eleConfid)),
       .int (current.elim 0 (·.speedConfid)), .int (current.elim 0 (·.headingConfid)),
       .int ((current.bind (·.accelerationConfid)).elim 0 (·.lonAccelConfid)),
       .int ((current.bind (·.acceleration)).elim 0 (·.lat)),
       .int ((current.bind (·.accelerationConfid)).elim 0 (·.verticalAccelConfid)),
       .int ((current.bind (·.accelerationConfid)).elim 0 (·.yawRateConfid)),
       .int (current.elim 0 (·.timeConfidence)), .long camId]
    insertEach (virPathSql splitId id) (pathPlanningOf v)
    let (reqsSqls, c) ← virReqsSql splitId id 0 i (v :: vs)
    flush reqsSqls
    let sqls ← virSql camId (c.i + 1) c.rest.tail
    pure (sql ++ sqls)
termination_by vs => vs.length
decreasing_by
  have hle := c.suffix.length_le
  rw [List.length_tail]
  exact Nat.lt_succ_of_le (Nat.sub_le_sub_right hle 1)

/-- The loop over the vehicles, and the statement at its end. -/
def virList (camId : Int64) (vs : List (VirData σ)) : Insertion σ Unit := do
  let sqls ← virSql splitId camId 0 vs
  flush sqls

end

/-! ## The tables of the statements -/

variable {splitId : Int32} {W : Text σ → Prop}

/-- All tables of this part. -/
def virTables : List String :=
  ["vir_data", "vir_data_path_planning_point", "drive_request", "drive_request_reference_path",
   "drive_request_reference_path_position_3_d"]

/-- The tables below the vehicles. -/
def virBelow : List String := virTables.tail

theorem always_virPathSql (id : Int64) (i : ℕ) (p : PathPlanningPoint) :
    Always W (virPathSql (σ := σ) splitId id i p) (Adds virBelow i) :=
  virDataPathPlanningPoint.always_leaf virBelow (.head _) i

/-- Whatever the walk executes inserts into these tables; by induction on the vehicles that are
left. -/
theorem always_driveReqRefPosSql (j k : ℕ) (pathId : Int64) : ∀ (i : ℕ) (vs : List (VirData σ)),
    Always W (driveReqRefPosSql splitId j k pathId i vs) fun q => Gathers virBelow q.1
  | _, [] => trivial
  | i, v :: vs => by
      rw [driveReqRefPosSql]
      split
      · trivial
      dsimp only
      split
      · refine .bind (always_nextId fun _ => trivial) fun id _ => ?_
        split
        · trivial
        refine .bind (driveRequestReferencePathPosition3D.always_append virBelow
          (.tail _ (.tail _ (.tail _ (.head _)))) 0 _) fun sql hsql => ?_
        refine (always_driveReqRefPosSql j k pathId (i + 1) vs).bind fun q hq => ?_
        exact Gathers.append (.inr ⟨hsql.1, hsql.2 rfl⟩) hq
      · exact .inl rfl

theorem always_driveReqRefSql (j : ℕ) (requestId : Int64) (k i : ℕ) (vs : List (VirData σ)) :
    Always (Executed virBelow) (driveReqRefSql splitId j requestId k i vs)
      fun q => Trails virBelow k q.1 := by
  rw [driveReqRefSql]
  split
  · trivial
  · split
    · exact .inl rfl
    · refine .bind (always_nextId fun _ => trivial) fun id _ => ?_
      refine .bind (driveRequestReferencePath.always_append virBelow
        (.tail _ (.tail _ (.head _))) k _) fun sql hsql => ?_
      refine (always_driveReqRefPosSql j k id i vs).bind fun q hq => ?_
      refine (always_flush hq).bind fun _ _ => ?_
      exact (always_driveReqRefSql j requestId (k + 1) q.2.i q.2.rest).bind fun u hu =>
        hsql.trails hu
termination_by (vs.length, areaSize j vs - k)
decreasing_by
  exact q.2.lex (lt_areaSize ‹request j vs = some _› ‹(detectorAreaOfInfo _)[k]? = some _›)

theorem always_virReqsSql (virId : Int64) (j i : ℕ) (vs : List (VirData σ)) :
    Always (Executed virBelow) (virReqsSql splitId virId j i vs)
      fun q => Trails virBelow j q.1 := by
  cases vs with
  | nil =>
      rw [virReqsSql]
      trivial
  | cons v vs =>
      rw [virReqsSql]
      split
      · exact .inl rfl
      · refine .bind (always_nextId fun _ => trivial) fun id _ => ?_
        refine .bind (driveRequest.always_append virBelow (.tail _ (.head _)) j _)
          fun sql hsql => ?_
        refine (always_driveReqRefSql j id 0 i (v :: vs)).bind fun q hq => ?_
        refine (always_flush hq.gathers).bind fun _ _ => ?_
        exact (always_virReqsSql virId (j + 1) q.2.i q.2.rest).bind fun u hu => hsql.trails hu
termination_by (vs.length, reqsSize vs - j)
decreasing_by exact q.2.lex (lt_reqsSize ‹request j (v :: vs) = some _›)

/-- The vehicles that the walk has passed are not in the text. -/
theorem always_virSql (camId : Int64) (i : ℕ) (vs : List (VirData σ)) :
    Always (Executed virBelow) (virSql splitId camId i vs) (Trails virTables i) := by
  cases vs with
  | nil =>
      rw [virSql]
      exact .inl rfl
  | cons v vs =>
      rw [virSql]
      refine .bind (always_nextId fun _ => trivial) fun id _ => ?_
      refine .bind (virData.always_append virTables (.head _) i _) fun sql hsql => ?_
      refine (always_insertEach (always_virPathSql id) (pathPlanningOf v)).bind fun _ _ => ?_
      refine (always_virReqsSql id 0 i (v :: vs)).bind fun q hq => ?_
      refine (always_flush hq.gathers).bind fun _ _ => ?_
      exact (always_virSql camId (q.2.i + 1) q.2.rest.tail).bind fun u hu => hsql.trails hu
termination_by vs.length
decreasing_by
  have hle := q.2.suffix.length_le
  rw [List.length_tail]
  exact Nat.lt_succ_of_le (Nat.sub_le_sub_right hle 1)

theorem always_virList (camId : Int64) (vs : List (VirData σ)) :
    Always (Executed virTables) (virList splitId camId vs) fun _ => True :=
  (Always.weaken (fun _ ht => ht.mono (List.subset_cons_self _ _)) (always_virSql camId 0 vs)).bind
    fun _ hsqls => always_flush hsqls.gathers

end DataInsert

end Sadip
