import Sadip.DataInsert.Message
import Sadip.DataInsert.Table

/-!
# DataInsert/TrafficFlow — traffic flow

Three levels of tables: the flow at a node, its statistics for the elements of the map, and below
each of them the outline of a detector area and the five kinds of additional indices.

The row of a statistic has columns for every kind of element, of which one is set at most.
-/

set_option maxRecDepth 10000

namespace Sadip

namespace DataInsert

open Printf Sql Insertion Conversions

variable {σ : Type}

/-! ## Tables -/

/-- One row for a node and the time over which its flow was counted. -/
def trafficFlow : Table where
  table := "traffic_flow"
  header :=
    "INSERT INTO `traffic_flow`\t\t\t(`id`,`split_id`,`node_region_id`,`node_id`,`gen_time`,\t\t\t`jhi_interval`,`cycle_start_time`,`cycle_end_time`,`cycle_time`,`cam_data_id`,`device_id`)VALUES"
  row := "(%lld,%d,%d,%d,%lld,%d,%lld,%lld,%d,%lld,'%s'),"
  size := 10240
  slots := [lld, d, d, d, lld, d, lld, lld, d, lld, s]
  sound := .of_chars rfl rfl rfl (by decide +kernel)
  columns :=
    ["id", "split_id", "node_region_id", "node_id", "gen_time", "jhi_interval",
     "cycle_start_time", "cycle_end_time", "cycle_time", "cam_data_id", "device_id"]
  matched := .of_chars rfl rfl rfl (by repeat first | exact .nil | apply Spells.cons rfl)
    (by decide +kernel)

/-- One row for a statistic, with the columns of all six kinds of map elements.  One number stands
between quotes, as if it were a string. -/
def trafficFlowStat : Table where
  table := "traffic_flow_stat"
  header :=
    "INSERT INTO `traffic_flow_stat`\t\t\t\t(`id`,`split_id`,`area_id`,`set_time`,`detector_area_node_region_id`,\t\t\t\t`detector_area_node_node_id`,`detector_area_lane_id`,`lane_id`,`lane_link_upstream_node_region_id`,`lane_link_upstream_node_node_id`,\t\t\t\t`lane_link_name`, `lane_link_node_region_id`,`lane_link_node_node_id`, `lane_link_ext_id`,\t\t\t\t`lane_section_id`,  `lane_section_link_upstream_node_region_id`, `lane_section_link_upstream_node_node_id`,`lane_section_link_name`, `lane_section_link_node_region_id`,\t\t\t\t`lane_section_link_node_node_id`, `lane_section_link_ext_id`, `lane_section_ext_id`,`lane_ext_id`, `section_id`,\t\t\t\t`section_link_upstream_node_region_id`, `section_link_upstream_node_node_id`, `section_link_name`,`section_link_node_region_id`, `section_link_node_node_id`,\t\t\t\t`section_link_ext_id`,`section_ext_id`, `link_upstream_node_region_id`, `link_upstream_node_node_id`,`link_name`, `link_node_region_id`,\t\t\t\t`link_node_node_id`, `link_ext_id`, `node_region_id`,`node_id`, `movement_remote_intersection_node_region_id`,\t\t\t\t`movement_remote_intersection_node_id`, `movement_node_region_id`, `movement_node_node_id`,`movement_ext_id`, `timestamp`,\t\t\t\t`volume`,`speed_point`,`speed_area`,`density`,`travel_time`,\t\t\t\t`delay`,`queue_length`,`queue_int`,`congestion`,`time_headway`,\t\t\t\t`space_headway`,`stop_nums`,`ptc_type_id`,`vehicle_type_id`,`maneuver_id`,\t\t\t\t`map_element_type_id`,`traffic_flow_id`,`device_id`)VALUES"
  row :=
    "(%lld,%d,%d,%lld,%d,\t\t\t%d,%d,%d,'%d',%d,\t\t\t'%s',%d,%d,'%s',\t\t\t%d,%d,%d,'%s',%d,\t\t\t%d,'%s','%s','%s',%d,\t\t\t%d,%d,'%s',%d,%d,\t\t\t'%s','%s',%d,%d,'%s',%d,\t\t\t%d,'%s',%d,%d,%d,\t\t\t%d,%d,%d,'%s',%lld,\t\t\t%d,%d,%d,%d,%d,\t\t\t%d,%d,%d,%d,%d,\t\t\t%d,%d,%lld,%lld,%lld,%lld,%lld,'%s'),"
  size := 10240
  slots := [lld, d, d, lld, d, d, d, d, quoted, d, s, d, d, s, d, d, d, s, d, d, s, s, s, d, d, d,
            s, d, d, s, s, d, d, s, d, d, s, d, d, d, d, d, d, s, lld, d, d, d, d, d, d, d, d, d,
            d, d, d, lld, lld, lld, lld, lld, s]
  sound := .of_chars rfl rfl rfl (by decide +kernel)
  columns :=
    ["id", "split_id", "area_id", "set_time", "detector_area_node_region_id",
     "detector_area_node_node_id", "detector_area_lane_id", "lane_id",
     "lane_link_upstream_node_region_id", "lane_link_upstream_node_node_id", "lane_link_name",
     "lane_link_node_region_id", "lane_link_node_node_id", "lane_link_ext_id", "lane_section_id",
     "lane_section_link_upstream_node_region_id", "lane_section_link_upstream_node_node_id",
     "lane_section_link_name", "lane_section_link_node_region_id",
     "lane_section_link_node_node_id", "lane_section_link_ext_id", "lane_section_ext_id",
     "lane_ext_id", "section_id", "section_link_upstream_node_region_id",
     "section_link_upstream_node_node_id", "section_link_name", "section_link_node_region_id",
     "section_link_node_node_id", "section_link_ext_id", "section_ext_id",
     "link_upstream_node_region_id", "link_upstream_node_node_id", "link_name",
     "link_node_region_id", "link_node_node_id", "link_ext_id", "node_region_id", "node_id",
     "movement_remote_intersection_node_region_id", "movement_remote_intersection_node_id",
     "movement_node_region_id", "movement_node_node_id", "movement_ext_id", "timestamp", "volume",
     "speed_point", "speed_area", "density", "travel_time", "delay", "queue_length", "queue_int",
     "congestion", "time_headway", "space_headway", "stop_nums", "ptc_type_id", "vehicle_type_id",
     "maneuver_id", "map_element_type_id", "traffic_flow_id", "device_id"]
  matched := .of_chars rfl rfl rfl (by repeat first | exact .nil | apply Spells.cons rfl)
    (by decide +kernel)

/-- The corners of a detector area; longitude comes first here. -/
def trafficFlowStatPosition3D : Table where
  table := "traffic_flow_stat_position_3_d"
  header :=
    "INSERT INTO `traffic_flow_stat_position_3_d`\t\t\t\t\t\t\t\t(`id`,`split_id`,`lon`,`lat`,`ele`,`traffic_flow_stat_id`)VALUES"
  row := "(%lld,%d,%d,%d,%d,%lld),"
  size := 10240
  slots := [lld, d, d, d, d, lld]
  sound := .of_chars rfl rfl rfl (by decide +kernel)
  columns := ["id", "split_id", "lon", "lat", "ele", "traffic_flow_stat_id"]
  matched := .of_chars rfl rfl rfl (by repeat first | exact .nil | apply Spells.cons rfl)
    (by decide +kernel)

/-- The time share comes before the space share, the other way round than in the message. -/
def laneIndexAdded : Table where
  table := "lane_index_added"
  header :=
    "INSERT INTO `lane_index_added`\t\t\t\t\t\t(`id`,`split_id`,`timestamp`,`lane_capacity`,`lane_saturation`,\t\t\t\t\t\t`lane_time_occupy`,`lane_space_occupy`,`lane_avg_grn_queue`,`lane_grn_utilization`,`traffic_flow_stat_id`)VALUES"
  row := "(%lld,%d,%lld,%d,%d,%d,%d,%d,%d,%lld),"
  size := 10240
  slots := [lld, d, lld, d, d, d, d, d, d, lld]
  sound := .of_chars rfl rfl rfl (by decide +kernel)
  columns :=
    ["id", "split_id", "timestamp", "lane_capacity", "lane_saturation", "lane_time_occupy",
     "lane_space_occupy", "lane_avg_grn_queue", "lane_grn_utilization", "traffic_flow_stat_id"]
  matched := .of_chars rfl rfl rfl (by repeat first | exact .nil | apply Spells.cons rfl)
    (by decide +kernel)

def linkIndexAdded : Table where
  table := "link_index_added"
  header :=
    "INSERT INTO `link_index_added`\t\t\t\t\t\t(`id`,`split_id`,`timestamp`,`link_capacity`,`link_saturation`,\t\t\t\t\t\t`link_time_occupy`,`link_space_occupy`,`link_avg_grn_queue`,`link_grn_utilization`,`traffic_flow_stat_id`)VALUES"
  row := "(%lld,%d,%lld,%d,%d,%d,%d,%d,%d,%lld),"
  size := 10240
  slots := [lld, d, lld, d, d, d, d, d, d, lld]
  sound := .of_chars rfl rfl rfl (by decide +kernel)
  columns :=
    ["id", "split_id", "timestamp", "link_capacity", "link_saturation", "link_time_occupy",
     "link_space_occupy", "link_avg_grn_queue", "link_grn_utilization", "traffic_flow_stat_id"]
  matched := .of_chars rfl rfl rfl (by repeat first | exact .nil | apply Spells.cons rfl)
    (by decide +kernel)

def movementIndexAdded : Table where
  table := "movement_index_added"
  header :=
    "INSERT INTO `movement_index_added`\t\t\t\t\t\t(`id`,`split_id`,`timestamp`,`movement_capacity`,`movement_saturation`,\t\t\t\t\t\t`movement_time_occupy`,`movement_space_occupy`,`movement_avg_grn_queue`,`movement_grn_utilization`,`traffic_flow_stat_id`)VALUES"
  row := "(%lld,%d,%lld,%d,%d,%d,%d,%d,%d,%lld),"
  size := 10240
  slots := [lld, d, lld, d, d, d, d, d, d, lld]
  sound := .of_chars rfl rfl rfl (by decide +kernel)
  columns :=
    ["id", "split_id", "timestamp", "movement_capacity", "movement_saturation",
     "movement_time_occupy", "movement_space_occupy", "movement_avg_grn_queue",
     "movement_grn_utilization", "traffic_flow_stat_id"]
  matched := .of_chars rfl rfl rfl (by repeat first | exact .nil | apply Spells.cons rfl)
    (by decide +kernel)

def nodeIndexAdded : Table where
  table := "node_index_added"
  header :=
    "INSERT INTO `node_index_added`\t\t\t\t\t\t(`id`,`split_id`,`timestamp`,`node_capacity`,`node_saturation`,\t\t\t\t\t\t`node_time_occupy`,`node_space_occupy`,`node_avg_grn_queue`,`node_grn_utilization`,`demand_index`,\t\t\t\t\t\t`supply_index`,`theory_index`,`traffic_flow_stat_id`)VALUES"
  row := "(%lld,%d,%lld,%d,%d,%d,%d,%d,%d,%d,%d,%d,%lld),"
  size := 10240
  slots := [lld, d, lld, d, d, d, d, d, d, d, d, d, lld]
  sound := .of_chars rfl rfl rfl (by decide +kernel)
  columns :=
    ["id", "split_id", "timestamp", "node_capacity", "node_saturation", "node_time_occupy",
     "node_space_occupy", "node_avg_grn_queue", "node_grn_utilization", "demand_index",
     "supply_index", "theory_index", "traffic_flow_stat_id"]
  matched := .of_chars rfl rfl rfl (by repeat first | exact .nil | apply Spells.cons rfl)
    (by decide +kernel)

/-- The only index without a time of its own. -/
def signalControlIndexAdded : Table where
  table := "signal_control_index_added"
  header :=
    "INSERT INTO `signal_control_index_added`\t\t\t\t\t\t(`id`,`split_id`,`phase_id`,`green_start_queue`,`red_start_queue`,\t\t\t\t\t\t`green_utilization`,`traffic_flow_stat_id`)VALUES"
  row := "(%lld,%d,%d,%d,%d,%d,%lld),"
  size := 10240
  slots := [lld, d, d, d, d, d, lld]
  sound := .of_chars rfl rfl rfl (by decide +kernel)
  columns :=
    ["id", "split_id", "phase_id", "green_start_queue", "red_start_queue", "green_utilization",
     "traffic_flow_stat_id"]
  matched := .of_chars rfl rfl rfl (by repeat first | exact .nil | apply Spells.cons rfl)
    (by decide +kernel)

/-! ## What is inserted -/

/-- The variables that are filled from the element of the map. -/
structure MapElementColumns (σ : Type) where
  (areaId detectorAreaNodeRegionId detectorAreaNodeNodeId detectorAreaLaneId laneId : Int32 := 0)
  (laneLinkUpstreamNodeRegionId laneLinkUpstreamNodeNodeId laneLinkNodeRegionId : Int32 := 0)
  (laneLinkNodeNodeId laneSectionId laneSectionLinkUpstreamNodeRegionId : Int32 := 0)
  (laneSectionLinkUpstreamNodeNodeId laneSectionLinkNodeRegionId : Int32 := 0)
  (laneSectionLinkNodeNodeId sectionId sectionLinkUpstreamNodeRegionId : Int32 := 0)
  (sectionLinkUpstreamNodeNodeId sectionLinkNodeRegionId sectionLinkNodeNodeId : Int32 := 0)
  (linkUpstreamNodeNodeId linkUpstreamNodeRegionId linkNodeRegionId linkNodeNodeId : Int32 := 0)
  (nodeRegionId nodeId movementRemoteIntersectionNodeRegionId : Int32 := 0)
  (movementRemoteIntersectionNodeId movementNodeRegionId movementNodeNodeId : Int32 := 0)
  (setTime mapElementType turnDirection : Int64 := 0)
  (laneLinkName laneLinkExtId laneSectionLinkName laneSectionLinkExtId : Option σ := none)
  (laneSectionExtId laneExtId sectionLinkName sectionLinkExtId sectionExtId : Option σ := none)
  (linkName linkExtId movementExtId : Option σ := none)

/-- The node that a link comes from. -/
def upstreamOf (l : Option (LinkStatInfo σ)) : Option NodeReferenceId := l.bind (·.upstreamNodeId)

/-- The node that a link leads to. -/
def nodeOf (l : Option (LinkStatInfo σ)) : Option NodeReferenceId :=
  (l.bind (·.nodeStatInfo)).bind (·.nodeId)

/-- Read of the element that is set; the variables of the others keep their initial values. -/
def mapElementColumns : Option (TrafficFlowStatMapElement σ) → MapElementColumns σ
  | some (.detectorArea d) =>
    { mapElementType := 1
      areaId := d.areaId
      setTime := d.setTime
      detectorAreaNodeRegionId := regionOf d.nodeId
      detectorAreaNodeNodeId := nodeIdOf d.nodeId
      detectorAreaLaneId := d.laneId }
  | some (.laneStatInfo l) =>
    let link := l.linkStatInfo
    let sectionInfo := l.sectionStatInfo
    let sectionLink := sectionInfo.bind (·.linkStatInfo)
    { mapElementType := 2
      laneId := l.laneId.toInt32
      laneLinkUpstreamNodeRegionId := regionOf (upstreamOf link)
      laneLinkUpstreamNodeNodeId := nodeIdOf (upstreamOf link)
      laneLinkName := link.map (·.name)
      laneLinkNodeRegionId := regionOf (nodeOf link)
      laneLinkNodeNodeId := nodeIdOf (nodeOf link)
      laneLinkExtId := link.map (·.extId)
      laneSectionId := sectionInfo.elim 0 (·.sectionId.toInt32)
      laneSectionLinkUpstreamNodeRegionId := regionOf (upstreamOf sectionLink)
      laneSectionLinkUpstreamNodeNodeId := nodeIdOf (upstreamOf sectionLink)
      laneSectionLinkName := sectionLink.map (·.name)
      laneSectionLinkNodeRegionId := regionOf (nodeOf sectionLink)
      laneSectionLinkNodeNodeId := nodeIdOf (nodeOf sectionLink)
      laneSectionLinkExtId := sectionLink.map (·.extId)
      laneSectionExtId := sectionInfo.map (·.extId)
      laneExtId := l.extId }
  | some (.sectionStatInfo s) =>
    let link := s.linkStatInfo
    { mapElementType := 3
      sectionId := s.sectionId.toInt32
      sectionLinkUpstreamNodeRegionId := regionOf (upstreamOf link)
      sectionLinkUpstreamNodeNodeId := nodeIdOf (upstreamOf link)
      sectionLinkName := link.map (·.name)
      sectionLinkNodeRegionId := regionOf (nodeOf link)
      sectionLinkNodeNodeId := nodeIdOf (nodeOf link)
      sectionLinkExtId := link.map (·.extId)
      sectionExtId := s.extId }
  | some (.linkStatInfo l) =>
    { mapElementType := 4
      linkUpstreamNodeRegionId := regionOf l.upstreamNodeId
      linkUpstreamNodeNodeId := nodeIdOf l.upstreamNodeId
      linkName := l.name
      linkNodeRegionId := regionOf (l.nodeStatInfo.bind (·.nodeId))
      linkNodeNodeId := nodeIdOf (l.nodeStatInfo.bind (·.nodeId))
      linkExtId := l.extId }
  | some (.nodeStatInfo n) =>
    { mapElementType := 5
      nodeRegionId := regionOf n.nodeId
      nodeId := nodeIdOf n.nodeId }
  | some (.movementStatInfo m) =>
    { mapElementType := 6
      movementRemoteIntersectionNodeRegionId := regionOf m.remoteIntersection
      movementRemoteIntersectionNodeId := nodeIdOf m.remoteIntersection
      movementNodeRegionId := regionOf (m.nodeStatInfo.bind (·.nodeId))
      movementNodeNodeId := nodeIdOf (m.nodeStatInfo.bind (·.nodeId))
      movementExtId := m.extId
      turnDirection := m.turnDirection.toInt64 }
  | some .notSet => {}
  | none => {}

/-- The outline to store: that of a detector area, no other element has one. -/
def detectorAreaPolygon : Option (TrafficFlowStatMapElement σ) → Option Polygon
  | some (.detectorArea d) => d.polygon
  | _ => none

section

variable (splitId : Int32)

/-- A corner of the area, under the statistic it belongs to. -/
def trafficFlowStatPosSql (statId : Int64) (i : ℕ) (p : Position3D) : Insertion σ (Text σ) := do
  let id ← nextId
  trafficFlowStatPosition3D.append i
    [.long id, .int splitId, .int p.lon, .int p.lat, .int p.ele, .long statId]

def laneIndexAddSql (statId : Int64) (i : ℕ) (x : LaneIndexAdded) : Insertion σ (Text σ) := do
  let id ← nextId
  laneIndexAdded.append i
    [.long id, .int splitId, .long x.timestamp.toInt64, .int x.laneCapacity.toInt32,
     .int x.laneSaturation.toInt32, .int x.laneTimeOccupy.toInt32, .int x.laneSpaceOccupy.toInt32,
     .int x.laneAvgGrnQueue.toInt32, .int x.laneGrnUtilization.toInt32, .long statId]

def linkIndexAddSql (statId : Int64) (i : ℕ) (x : LinkIndexAdded) : Insertion σ (Text σ) := do
  let id ← nextId
  linkIndexAdded.append i
    [.long id, .int splitId, .long x.timestamp.toInt64, .int x.linkCapacity.toInt32,
     .int x.linkSaturation.toInt32, .int x.linkTimeOccupy.toInt32, .int x.linkSpaceOccupy.toInt32,
     .int x.linkAvgGrnQueue.toInt32, .int x.linkGrnUtilization.toInt32, .long statId]

def movementIndexAddSql (statId : Int64) (i : ℕ) (x : MovementIndexAdded) :
    Insertion σ (Text σ) := do
  let id ← nextId
  movementIndexAdded.append i
    [.long id, .int splitId, .long x.timestamp.toInt64, .int x.movementCapacity.toInt32,
     .int x.movementSaturation.toInt32, .int x.movementTimeOccupy.toInt32,
     .int x.movementSpaceOccupy.toInt32, .int x.movementAvgGrnQueue.toInt32,
     .int x.movementGrnUtilization.toInt32, .long statId]

/-- The capacity has 64 bits in the message and is printed as an `int`. -/
def nodeIndexAddSql (statId : Int64) (i : ℕ) (x : NodeIndexAdded) : Insertion σ (Text σ) := do
  let id ← nextId
  nodeIndexAdded.append i
    [.long id, .int splitId, .long x.timestamp.toInt64, .int x.nodeCapacity.toUInt32.toInt32,
     .int x.nodeSaturation.toInt32, .int x.nodeTimeOccupy.toInt32, .int x.nodeSpaceOccupy.toInt32,
     .int x.nodeAvgGrnQueue.toInt32, .int x.nodeGrnUtilization.toInt32,
     .int x.demandIndex.toInt32, .int x.supplyIndex.toInt32, .int x.theoryIndex.toInt32,
     .long statId]

def signalIndexAddSql (statId : Int64) (i : ℕ) (x : SignalControlIndexAdded) :
    Insertion σ (Text σ) := do
  let id ← nextId
  signalControlIndexAdded.append i
    [.long id, .int splitId, .int x.phaseId.toInt32, .int x.greenStartQueue.toInt32,
     .int x.redStartQueue.toInt32, .int x.greenUtilization.toInt32, .long statId]

/-- The five lists of the extension, each into its table. -/
def trafficFlowExtensionSql (statId : Int64) (x : TrafficFlowExtension) : Insertion σ Unit := do
  insertEach (laneIndexAddSql splitId statId) x.laneIndex
  insertEach (linkIndexAddSql splitId statId) x.linkIndex
  insertEach (movementIndexAddSql splitId statId) x.movementIndex
  insertEach (nodeIndexAddSql splitId statId) x.nodeIndex
  insertEach (signalIndexAddSql splitId statId) x.signalIndex

/-- The values of a statistic. -/
def trafficFlowStatArgs (trafficFlowId : Int64) (deviceId : σ) (id : Int64)
    (s : TrafficFlowStat σ) : List (Arg σ) :=
  let c := mapElementColumns s.mapElement
  [.long id, .int splitId, .int c.areaId, .long c.setTime, .int c.detectorAreaNodeRegionId,
   .int c.detectorAreaNodeNodeId, .int c.detectorAreaLaneId, .int c.laneId,
   .int c.laneLinkUpstreamNodeRegionId, .int c.laneLinkUpstreamNodeNodeId, .str c.laneLinkName,
   .int c.laneLinkNodeRegionId, .int c.laneLinkNodeNodeId, .str c.laneLinkExtId,
   .int c.laneSectionId, .int c.laneSectionLinkUpstreamNodeRegionId,
   .int c.laneSectionLinkUpstreamNodeNodeId, .str c.laneSectionLinkName,
   .int c.laneSectionLinkNodeRegionId, .int c.laneSectionLinkNodeNodeId,
   .str c.laneSectionLinkExtId, .str c.laneSectionExtId, .str c.laneExtId, .int c.sectionId,
   .int c.sectionLinkUpstreamNodeRegionId, .int c.sectionLinkUpstreamNodeNodeId,
   .str c.sectionLinkName, .int c.sectionLinkNodeRegionId, .int c.sectionLinkNodeNodeId,
   .str c.sectionLinkExtId, .str c.sectionExtId, .int c.linkUpstreamNodeRegionId,
   .int c.linkUpstreamNodeNodeId, .str c.linkName, .int c.linkNodeRegionId,
   .int c.linkNodeNodeId, .str c.linkExtId, .int c.nodeRegionId, .int c.nodeId,
   .int c.movementRemoteIntersectionNodeRegionId, .int c.movementRemoteIntersectionNodeId,
   .int c.movementNodeRegionId, .int c.movementNodeNodeId, .str c.movementExtId,
   .long s.timestamp.toInt64, .int s.volume.toInt32, .int s.speedPoint.toInt32,
   .int s.speedArea.toInt32, .int s.density.toInt32, .int s.travelTime.toInt32,
   .int s.delay.toInt32, .int s.queueLength.toInt32, .int s.queueInt.toInt32,
   .int s.congestion.toInt32, .int s.timeHeadway.toInt32, .int s.spaceHeadway.toInt32,
   .int s.stopNums.toInt32, .long s.ptcType.toInt64, .long s.vehicleType.toInt64,
   .long c.turnDirection, .long c.mapElementType, .long trafficFlowId, .str deviceId]

/-- A statistic: its corners are inserted before its own row is printed, its indices after that. -/
def trafficFlowStatSql (trafficFlowId : Int64) (deviceId : σ) (i : ℕ) (s : TrafficFlowStat σ) :
    Insertion σ (Text σ) := do
  let id ← nextId
  optionally (detectorAreaPolygon s.mapElement) fun polygon =>
    insertEach (trafficFlowStatPosSql splitId id) polygon.pos
  let sql ← trafficFlowStat.append i (trafficFlowStatArgs splitId trafficFlowId deviceId id s)
  optionally s.trafficFlowExtension (trafficFlowExtensionSql splitId id)
  pure sql

/-- The flow at a node; the statistics below it bear its identifier. -/
def trafficFlowSql (camId : Int64) (deviceId : σ) (i : ℕ) (f : TrafficFlow σ) :
    Insertion σ (Text σ) := do
  let id ← nextId
  let sql ← trafficFlow.append i
    [.long id, .int splitId, .int (regionOf f.nodeId), .int (nodeIdOf f.nodeId),
     .long f.genTime.toInt64, .int ((f.statType.bind (·.interval)).elim 0 (·.interval.toInt32)),
     .long ((f.statType.bind (·.sequence)).elim 0 (·.cycleStartTime.toInt64)),
     .long ((f.statType.bind (·.sequence)).elim 0 (·.cycleEndTime.toInt64)),
     .int ((f.statType.bind (·.sequence)).elim 0 (·.cycleTime.toInt32)), .long camId,
     .str deviceId]
  insertEach (trafficFlowStatSql splitId id deviceId) f.stats
  pure sql

end

/-! ## What is stored -/

/-! The element of the map, if it is of this kind. -/

def detectorAreaOf : Option (TrafficFlowStatMapElement σ) → Option DetectorArea
  | some (.detectorArea d) => some d
  | _ => none

def laneStatInfoOf : Option (TrafficFlowStatMapElement σ) → Option (LaneStatInfo σ)
  | some (.laneStatInfo l) => some l
  | _ => none

def sectionStatInfoOf : Option (TrafficFlowStatMapElement σ) → Option (SectionStatInfo σ)
  | some (.sectionStatInfo s) => some s
  | _ => none

def linkStatInfoOf : Option (TrafficFlowStatMapElement σ) → Option (LinkStatInfo σ)
  | some (.linkStatInfo l) => some l
  | _ => none

def nodeStatInfoOf : Option (TrafficFlowStatMapElement σ) → Option NodeStatInfo
  | some (.nodeStatInfo n) => some n
  | _ => none

def movementStatInfoOf : Option (TrafficFlowStatMapElement σ) → Option (MovementStatInfo σ)
  | some (.movementStatInfo m) => some m
  | _ => none

/-- The number of the kind, by its place in the message. -/
def caseOf : Option (TrafficFlowStatMapElement σ) → Int64
  | none => 0
  | some .notSet => 0
  | some (.detectorArea _) => 1
  | some (.laneStatInfo _) => 2
  | some (.sectionStatInfo _) => 3
  | some (.linkStatInfo _) => 4
  | some (.nodeStatInfo _) => 5
  | some (.movementStatInfo _) => 6

/-- A number between quotes. -/
def quotedInt32 (v : Int32) : Value := .text (decimal v.toInt)

section

variable (content : σ → List Char) (splitId : Int32)

def trafficFlowStatPosition3DRow (statId id : Int64) (p : Position3D) : Row :=
  [("id", int64 id), ("split_id", int32 splitId), ("lon", int32 p.lon), ("lat", int32 p.lat),
   ("ele", int32 p.ele), ("traffic_flow_stat_id", int64 statId)]

def laneIndexAddedRow (statId id : Int64) (x : LaneIndexAdded) : Row :=
  [("id", int64 id), ("split_id", int32 splitId), ("timestamp", int64 x.timestamp.toInt64),
   ("lane_capacity", int32 x.laneCapacity.toInt32),
   ("lane_saturation", int32 x.laneSaturation.toInt32),
   ("lane_time_occupy", int32 x.laneTimeOccupy.toInt32),
   ("lane_space_occupy", int32 x.laneSpaceOccupy.toInt32),
   ("lane_avg_grn_queue", int32 x.laneAvgGrnQueue.toInt32),
   ("lane_grn_utilization", int32 x.laneGrnUtilization.toInt32),
   ("traffic_flow_stat_id", int64 statId)]

def linkIndexAddedRow (statId id : Int64) (x : LinkIndexAdded) : Row :=
  [("id", int64 id), ("split_id", int32 splitId), ("timestamp", int64 x.timestamp.toInt64),
   ("link_capacity", int32 x.linkCapacity.toInt32),
   ("link_saturation", int32 x.linkSaturation.toInt32),
   ("link_time_occupy", int32 x.linkTimeOccupy.toInt32),
   ("link_space_occupy", int32 x.linkSpaceOccupy.toInt32),
   ("link_avg_grn_queue", int32 x.linkAvgGrnQueue.toInt32),
   ("link_grn_utilization", int32 x.linkGrnUtilization.toInt32),
   ("traffic_flow_stat_id", int64 statId)]

def movementIndexAddedRow (statId id : Int64) (x : MovementIndexAdded) : Row :=
  [("id", int64 id), ("split_id", int32 splitId), ("timestamp", int64 x.timestamp.toInt64),
   ("movement_capacity", int32 x.movementCapacity.toInt32),
   ("movement_saturation", int32 x.movementSaturation.toInt32),
   ("movement_time_occupy", int32 x.movementTimeOccupy.toInt32),
   ("movement_space_occupy", int32 x.movementSpaceOccupy.toInt32),
   ("movement_avg_grn_queue", int32 x.movementAvgGrnQueue.toInt32),
   ("movement_grn_utilization", int32 x.movementGrnUtilization.toInt32),
   ("traffic_flow_stat_id", int64 statId)]

def nodeIndexAddedRow (statId id : Int64) (x : NodeIndexAdded) : Row :=
  [("id", int64 id), ("split_id", int32 splitId), ("timestamp", int64 x.timestamp.toInt64),
   ("node_capacity", int32 x.nodeCapacity.toUInt32.toInt32),
   ("node_saturation", int32 x.nodeSaturation.toInt32),
   ("node_time_occupy", int32 x.nodeTimeOccupy.toInt32),
   ("node_space_occupy", int32 x.nodeSpaceOccupy.toInt32),
   ("node_avg_grn_queue", int32 x.nodeAvgGrnQueue.toInt32),
   ("node_grn_utilization", int32 x.nodeGrnUtilization.toInt32),
   ("demand_index", int32 x.demandIndex.toInt32), ("supply_index", int32 x.supplyIndex.toInt32),
   ("theory_index", int32 x.theoryIndex.toInt32), ("traffic_flow_stat_id", int64 statId)]

def signalControlIndexAddedRow (statId id : Int64) (x : SignalControlIndexAdded) : Row :=
  [("id", int64 id), ("split_id", int32 splitId), ("phase_id", int32 x.phaseId.toInt32),
   ("green_start_queue", int32 x.greenStartQueue.toInt32),
   ("red_start_queue", int32 x.redStartQueue.toInt32),
   ("green_utilization", int32 x.greenUtilization.toInt32), ("traffic_flow_stat_id", int64 statId)]

/-- The row of a statistic: what the element in it has, and `0` or nothing for all others. -/
def trafficFlowStatRow (trafficFlowId : Int64) (deviceId : σ) (id : Int64)
    (s : TrafficFlowStat σ) : Row :=
  let area := detectorAreaOf s.mapElement
  let lane := laneStatInfoOf s.mapElement
  let laneLink := lane.bind (·.linkStatInfo)
  let laneSection := lane.bind (·.sectionStatInfo)
  let laneSectionLink := laneSection.bind (·.linkStatInfo)
  let sectionInfo := sectionStatInfoOf s.mapElement
  let sectionLink := sectionInfo.bind (·.linkStatInfo)
  let link := linkStatInfoOf s.mapElement
  let node := nodeStatInfoOf s.mapElement
  let movement := movementStatInfoOf s.mapElement
  let remote := movement.bind (·.remoteIntersection)
  [("id", int64 id), ("split_id", int32 splitId), ("area_id", int32 (area.elim 0 (·.areaId))),
   ("set_time", int64 (area.elim 0 (·.setTime))),
   ("detector_area_node_region_id", int32 (regionOf (area.bind (·.nodeId)))),
   ("detector_area_node_node_id", int32 (nodeIdOf (area.bind (·.nodeId)))),
   ("detector_area_lane_id", int32 (area.elim 0 (·.laneId))),
   ("lane_id", int32 (lane.elim 0 (·.laneId.toInt32))),
   ("lane_link_upstream_node_region_id", quotedInt32 (regionOf (upstreamOf laneLink))),
   ("lane_link_upstream_node_node_id", int32 (nodeIdOf (upstreamOf laneLink))),
   ("lane_link_name", text content (laneLink.map (·.name))),
   ("lane_link_node_region_id", int32 (regionOf (nodeOf laneLink))),
   ("lane_link_node_node_id", int32 (nodeIdOf (nodeOf laneLink))),
   ("lane_link_ext_id", text content (laneLink.map (·.extId))),
   ("lane_section_id", int32 (laneSection.elim 0 (·.sectionId.toInt32))),
   ("lane_section_link_upstream_node_region_id", int32 (regionOf (upstreamOf laneSectionLink))),
   ("lane_section_link_upstream_node_node_id", int32 (nodeIdOf (upstreamOf laneSectionLink))),
   ("lane_section_link_name", text content (laneSectionLink.map (·.name))),
   ("lane_section_link_node_region_id", int32 (regionOf (nodeOf laneSectionLink))),
   ("lane_section_link_node_node_id", int32 (nodeIdOf (nodeOf laneSectionLink))),
   ("lane_section_link_ext_id", text content (laneSectionLink.map (·.extId))),
   ("lane_section_ext_id", text content (laneSection.map (·.extId))),
   ("lane_ext_id", text content (lane.map (·.extId))),
   ("section_id", int32 (sectionInfo.elim 0 (·.sectionId.toInt32))),
   ("section_link_upstream_node_region_id", int32 (regionOf (upstreamOf sectionLink))),
   ("section_link_upstream_node_node_id", int32 (nodeIdOf (upstreamOf sectionLink))),
   ("section_link_name", text content (sectionLink.map (·.name))),
   ("section_link_node_region_id", int32 (regionOf (nodeOf sectionLink))),
   ("section_link_node_node_id", int32 (nodeIdOf (nodeOf sectionLink))),
   ("section_link_ext_id", text content (sectionLink.map (·.extId))),
   ("section_ext_id", text content (sectionInfo.map (·.extId))),
   ("link_upstream_node_region_id", int32 (regionOf (upstreamOf link))),
   ("link_upstream_node_node_id", int32 (nodeIdOf (upstreamOf link))),
   ("link_name", text content (link.map (·.name))),
   ("link_node_region_id", int32 (regionOf (nodeOf link))),
   ("link_node_node_id", int32 (nodeIdOf (nodeOf link))),
   ("link_ext_id", text content (link.map (·.extId))),
   ("node_region_id", int32 (regionOf (node.bind (·.nodeId)))),
   ("node_id", int32 (nodeIdOf (node.bind (·.nodeId)))),
   ("movement_remote_intersection_node_region_id", int32 (regionOf remote)),
   ("movement_remote_intersection_node_id", int32 (nodeIdOf remote)),
   ("movement_node_region_id", int32 (regionOf ((movement.bind (·.nodeStatInfo)).bind (·.nodeId)))),
   ("movement_node_node_id", int32 (nodeIdOf ((movement.bind (·.nodeStatInfo)).bind (·.nodeId)))),
   ("movement_ext_id", text content (movement.map (·.extId))),
   ("timestamp", int64 s.timestamp.toInt64), ("volume", int32 s.volume.toInt32),
   ("speed_point", int32 s.speedPoint.toInt32), ("speed_area", int32 s.speedArea.toInt32),
   ("density", int32 s.density.toInt32), ("travel_time", int32 s.travelTime.toInt32),
   ("delay", int32 s.delay.toInt32), ("queue_length", int32 s.queueLength.toInt32),
   ("queue_int", int32 s.queueInt.toInt32), ("congestion", int32 s.congestion.toInt32),
   ("time_headway", int32 s.timeHeadway.toInt32), ("space_headway", int32 s.spaceHeadway.toInt32),
   ("stop_nums", int32 s.stopNums.toInt32), ("ptc_type_id", int64 s.ptcType.toInt64),
   ("vehicle_type_id", int64 s.vehicleType.toInt64),
   ("maneuver_id", int64 (movement.elim 0 (·.turnDirection.toInt64))),
   ("map_element_type_id", int64 (caseOf s.mapElement)), ("traffic_flow_id", int64 trafficFlowId),
   ("device_id", text content deviceId)]

/-- The row of a flow; of the two ways to count, the one that was not used reads `0`. -/
def trafficFlowRow (camId : Int64) (deviceId : σ) (id : Int64) (f : TrafficFlow σ) : Row :=
  [("id", int64 id), ("split_id", int32 splitId), ("node_region_id", int32 (regionOf f.nodeId)),
   ("node_id", int32 (nodeIdOf f.nodeId)), ("gen_time", int64 f.genTime.toInt64),
   ("jhi_interval", int32 ((f.statType.bind (·.interval)).elim 0 (·.interval.toInt32))),
   ("cycle_start_time", int64 ((f.statType.bind (·.sequence)).elim 0 (·.cycleStartTime.toInt64))),
   ("cycle_end_time", int64 ((f.statType.bind (·.sequence)).elim 0 (·.cycleEndTime.toInt64))),
   ("cycle_time", int32 ((f.statType.bind (·.sequence)).elim 0 (·.cycleTime.toInt32))),
   ("cam_data_id", int64 camId), ("device_id", text content deviceId)]

/-- What is below a statistic: the outline of the detector area, if it is for one, and the indices
of the extension, if it has one. -/
def StatForest (statId : Int64) (s : TrafficFlowStat σ) : Forest Int64 Row → Prop :=
  let x := s.trafficFlowExtension
  Forest.Both
    (Forest.Leaves "traffic_flow_stat_position_3_d" (trafficFlowStatPosition3DRow splitId statId)
      (((detectorAreaOf s.mapElement).bind (·.polygon)).elim [] (·.pos))) <|
  Forest.Both
    (Forest.Leaves "lane_index_added" (laneIndexAddedRow splitId statId)
      (x.elim [] (·.laneIndex))) <|
  Forest.Both
    (Forest.Leaves "link_index_added" (linkIndexAddedRow splitId statId)
      (x.elim [] (·.linkIndex))) <|
  Forest.Both
    (Forest.Leaves "movement_index_added" (movementIndexAddedRow splitId statId)
      (x.elim [] (·.movementIndex))) <|
  Forest.Both
    (Forest.Leaves "node_index_added" (nodeIndexAddedRow splitId statId)
      (x.elim [] (·.nodeIndex)))
    (Forest.Leaves "signal_control_index_added" (signalControlIndexAddedRow splitId statId)
      (x.elim [] (·.signalIndex)))

/-- The tables of `StatForest`. -/
def statTables : List String :=
  ["traffic_flow_stat_position_3_d", "lane_index_added", "link_index_added",
   "movement_index_added", "node_index_added", "signal_control_index_added"]

/-- Nothing below a statistic lies in another table. -/
theorem rowsAt_statForest {statId : Int64} {s : TrafficFlowStat σ} {f : Forest Int64 Row}
    {table : String} (htable : table ∉ statTables) (h : StatForest splitId statId s f) :
    f.rowsAt table = [] := by
  simp only [statTables, List.mem_cons, not_or] at htable
  obtain ⟨hposition, hlane, hlink, hmovement, hnode, hsignal, -⟩ := htable
  refine Forest.Both.rowsAt_eq_nil (fun _ hf => hf.rowsAt_eq_nil hposition) ?_ f h
  refine Forest.Both.rowsAt_eq_nil (fun _ hf => hf.rowsAt_eq_nil hlane) ?_
  refine Forest.Both.rowsAt_eq_nil (fun _ hf => hf.rowsAt_eq_nil hlink) ?_
  refine Forest.Both.rowsAt_eq_nil (fun _ hf => hf.rowsAt_eq_nil hmovement) ?_
  exact Forest.Both.rowsAt_eq_nil (fun _ hf => hf.rowsAt_eq_nil hnode)
    (fun _ hf => hf.rowsAt_eq_nil hsignal)

/-- The traffic flows, their statistics, and what is below these. -/
def TrafficFlowForest (camId : Int64) (deviceId : σ) :
    List (TrafficFlow σ) → Forest Int64 Row → Prop :=
  Forest.Grown "traffic_flow" (trafficFlowRow content splitId camId deviceId) fun id f =>
    Forest.Grown "traffic_flow_stat" (trafficFlowStatRow content splitId id deviceId)
      (StatForest splitId) f.stats

end

/-! ## The tables of the statements -/

variable {splitId : Int32} {W : Text σ → Prop}

/-- All tables of this part. -/
def trafficFlowTables : List String :=
  ["traffic_flow", "traffic_flow_stat", "traffic_flow_stat_position_3_d", "lane_index_added",
   "link_index_added", "movement_index_added", "node_index_added", "signal_control_index_added"]

theorem always_trafficFlowExtensionSql (statId : Int64) (x : TrafficFlowExtension) :
    Always (Executed trafficFlowTables) (trafficFlowExtensionSql (σ := σ) splitId statId x)
      fun _ => True := by
  refine .bind (always_insertEach (fun k e => .bind (always_nextId fun _ => trivial) fun _ _ =>
    laneIndexAdded.always_append trafficFlowTables
      (.tail _ (.tail _ (.tail _ (.head _)))) k _) x.laneIndex) fun _ _ => ?_
  refine .bind (always_insertEach (fun k e => .bind (always_nextId fun _ => trivial) fun _ _ =>
    linkIndexAdded.always_append trafficFlowTables
      (.tail _ (.tail _ (.tail _ (.tail _ (.head _))))) k _) x.linkIndex) fun _ _ => ?_
  refine .bind (always_insertEach (fun k e => .bind (always_nextId fun _ => trivial) fun _ _ =>
    movementIndexAdded.always_append trafficFlowTables
      (.tail _ (.tail _ (.tail _ (.tail _ (.tail _ (.head _)))))) k _) x.movementIndex)
    fun _ _ => ?_
  refine .bind (always_insertEach (fun k e => .bind (always_nextId fun _ => trivial) fun _ _ =>
    nodeIndexAdded.always_append trafficFlowTables
      (.tail _ (.tail _ (.tail _ (.tail _ (.tail _ (.tail _ (.head _))))))) k _) x.nodeIndex)
    fun _ _ => ?_
  exact always_insertEach (fun k e => .bind (always_nextId fun _ => trivial) fun _ _ =>
    signalControlIndexAdded.always_append trafficFlowTables
      (.tail _ (.tail _ (.tail _ (.tail _ (.tail _ (.tail _ (.tail _ (.head _)))))))) k _)
    x.signalIndex

theorem always_trafficFlowStatSql (trafficFlowId : Int64) (deviceId : σ) (i : ℕ)
    (s : TrafficFlowStat σ) :
    Always (Executed trafficFlowTables) (trafficFlowStatSql splitId trafficFlowId deviceId i s)
      (Adds trafficFlowTables i) := by
  refine .bind (always_nextId fun _ => trivial) fun id _ => ?_
  refine .bind (always_optionally fun polygon => always_insertEach (fun k p => .bind
    (always_nextId fun _ => trivial) fun _ _ => trafficFlowStatPosition3D.always_append
      trafficFlowTables (.tail _ (.tail _ (.head _))) k _) polygon.pos) fun _ _ => ?_
  refine .bind (trafficFlowStat.always_append trafficFlowTables (.tail _ (.head _)) i _)
    fun sql hsql => ?_
  exact .bind (always_optionally fun x => always_trafficFlowExtensionSql id x) fun _ _ => hsql

/-- Whatever is executed for a flow inserts into these tables, and the text goes on. -/
theorem always_trafficFlowSql (camId : Int64) (deviceId : σ) (i : ℕ) (f : TrafficFlow σ) :
    Always (Executed trafficFlowTables) (trafficFlowSql splitId camId deviceId i f)
      (Adds trafficFlowTables i) := by
  refine .bind (always_nextId fun _ => trivial) fun id _ => ?_
  refine .bind (trafficFlow.always_append trafficFlowTables (.head _) i _) fun sql hsql => ?_
  exact .bind (always_insertEach (always_trafficFlowStatSql id deviceId) f.stats) fun _ _ => hsql

/-! ## The rows are those of the message -/

variable {print : σ → List Char} {I : Int64 → Prop} (content : σ → List Char)
  (carried : List Int64)

/-- The indices are stored; without an extension there are none. -/
theorem grows_trafficFlowExtensionSql (statId : Int64)
    (x : Option TrafficFlowExtension) :
    Grows print content I carried (optionally x (trafficFlowExtensionSql splitId statId))
      (Forest.Both
      (Forest.Leaves "lane_index_added" (laneIndexAddedRow splitId statId)
        (x.elim [] (·.laneIndex))) <| Forest.Both
      (Forest.Leaves "link_index_added" (linkIndexAddedRow splitId statId)
        (x.elim [] (·.linkIndex))) <| Forest.Both
      (Forest.Leaves "movement_index_added" (movementIndexAddedRow splitId statId)
        (x.elim [] (·.movementIndex))) <| Forest.Both
      (Forest.Leaves "node_index_added" (nodeIndexAddedRow splitId statId)
        (x.elim [] (·.nodeIndex)))
      (Forest.Leaves "signal_control_index_added" (signalControlIndexAddedRow splitId statId)
        (x.elim [] (·.signalIndex)))) := by
  cases x with
  | none =>
      refine ⟨.nil, ?_, .nil⟩
      exact ⟨.nil, .nil, rfl, rfl, .nil, .nil, rfl, rfl, .nil, .nil, rfl, rfl, .nil, .nil, rfl, rfl,
        rfl⟩
  | some x =>
      refine .both ?_ (.both ?_ (.both ?_ (.both ?_ ?_)))
      · exact grows_leaves (t := laneIndexAdded) (fun _ _ => Table.stores rfl rfl) _
      · exact grows_leaves (t := linkIndexAdded) (fun _ _ => Table.stores rfl rfl) _
      · exact grows_leaves (t := movementIndexAdded) (fun _ _ => Table.stores rfl rfl) _
      · exact grows_leaves (t := nodeIndexAdded) (fun _ _ => Table.stores rfl rfl) _
      · exact grows_leaves (t := signalControlIndexAdded) (fun _ _ => Table.stores rfl rfl) _

/-- The polygon is looked for in the same place as the area. -/
theorem detectorAreaPolygon_eq (e : Option (TrafficFlowStatMapElement σ)) :
    detectorAreaPolygon e = (detectorAreaOf e).bind (·.polygon) := by
  rcases e with - | ⟨- | - | - | - | - | - | -⟩ <;> rfl

/-- **The variables hold what the row says**, for each kind of element. -/
theorem stores_trafficFlowStat (id trafficFlowId : Int64) (deviceId : σ) (s : TrafficFlowStat σ) :
    trafficFlowStat.Stores content
      (trafficFlowStatArgs splitId trafficFlowId deviceId id s)
      (trafficFlowStatRow content splitId trafficFlowId deviceId id s) := by
  refine Table.stores rfl ?_
  obtain ⟨e, _, _, _, _, _, _, _, _, _, _, _, _, _, _, _, _⟩ := s
  rcases e with - | ⟨- | - | - | - | - | - | -⟩ <;> rfl

/-- Statistics are stored, each with its corners and its indices below it. -/
theorem grows_trafficFlowStatSql (trafficFlowId : Int64)
    (deviceId : σ) (ss : List (TrafficFlowStat σ)) :
    Grows print content I carried (insertEach
      (trafficFlowStatSql splitId trafficFlowId deviceId) ss)
      (Forest.Grown "traffic_flow_stat" (trafficFlowStatRow content splitId trafficFlowId deviceId)
        (StatForest splitId) ss) := by
  refine grows_insertEach (t := trafficFlowStat) ?_ fun i s _ => ?_
  · intro id s f hf
    exact rowsAt_statForest splitId (by decide) hf
  · rw [trafficFlowStatSql, yields_bind, yields_nextId]
    intro id hid
    have hpolygon : Grows print content I carried (optionally (detectorAreaPolygon s.mapElement)
        fun polygon => insertEach (trafficFlowStatPosSql splitId id) polygon.pos)
        (Forest.Leaves "traffic_flow_stat_position_3_d" (trafficFlowStatPosition3DRow splitId id)
          (((detectorAreaOf s.mapElement).bind (·.polygon)).elim [] (·.pos))) := by
      rw [← detectorAreaPolygon_eq]
      exact grows_optionally fun polygon => grows_leaves (t := trafficFlowStatPosition3D)
        (fun _ _ => Table.stores rfl rfl) polygon.pos
    refine hpolygon.bind fun ds₁ ss₁ F hF hbF => ?_
    rw [yields_bind]
    refine yields_append (trafficFlowStatRow content splitId trafficFlowId deviceId id s)
      (stores_trafficFlowStat content id trafficFlowId deviceId s) fun text htext => ?_
    refine (grows_trafficFlowExtensionSql content carried id s.trafficFlowExtension).bind
      fun ds₂ ss₂ G hG hbG => ?_
    rw [yields_pure]
    simp only [List.nil_append, List.append_nil]
    exact .of_bears htext List.filter_sublist.subperm ⟨F, G, rfl, hF, hG⟩ (hbF.append hbG)

/-- **Traffic flow is stored.** -/
theorem grows_trafficFlowSql (camId : Int64) (deviceId : σ)
    (fs : List (TrafficFlow σ)) :
    Grows print content I carried (insertEach (trafficFlowSql splitId camId deviceId) fs)
      (TrafficFlowForest content splitId camId deviceId fs) := by
  refine grows_insertEach (t := trafficFlow) ?_ fun i f _ => ?_
  · intro id f g hg
    refine Forest.Grown.rowsAt_eq_nil (by decide) (fun id s h hh => ?_) hg
    exact rowsAt_statForest splitId (by decide) hh
  · rw [trafficFlowSql, yields_bind, yields_nextId]
    intro id hid
    rw [yields_bind]
    refine yields_append (trafficFlowRow content splitId camId deviceId id f)
      (Table.stores rfl rfl) fun text htext => ?_
    refine (grows_trafficFlowStatSql content carried id deviceId f.stats).bind
      fun ds ss F hF hbF => ?_
    rw [yields_pure]
    simp only [List.nil_append, List.append_nil]
    exact .of_bears htext List.filter_sublist.subperm hF hbF

end DataInsert

end Sadip
