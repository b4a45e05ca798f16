import Sadip.DataInsert.Message
import Sadip.DataInsert.Table

/-!
# DataInsert/Event — traffic events and signs

Events (`rteList`) and signs (`rtsList`) of a manual source are passed over.  Since only the element
with index 0 prints the start of its statement, the statement has none when that element is passed
over.

The points of a sign's paths are read from the event with the same index, which may not be there:
the insertion reaches the end of the signs exactly if it always is (`completes_rtsDataSql`).
-/

set_option maxRecDepth 10000

namespace Sadip

namespace DataInsert

open Printf Sql Insertion Conversions

variable {σ : Type}

/-! ## Tables -/

/-- One row for an event. -/
def rteData : Table where
  table := "rte_data"
  header :=
    "INSERT INTO `rte_data` (`id`,`split_id`,`rte_id`,`rte_type`,`description`,\t\t\t`device_id_list`,`lat`,`lon`,`ele`,`node_region_id`,\t\t\t`node_id`,`link_name`,`upstream_node_region_id`,`upstream_node_node_id`,`section_id`,\t\t\t`lane_id`,`event_radius`,`start_time`,`end_time`,`priority`,\t\t\t`event_confid`,`event_images`,`event_videos`,`event_source_id`,`data_source_id`,\t\t\t`end_time_confidence_id`,`cam_data_id`,`device_id`)VALUES"
  row :=
    "(%lld,%d,%d,%d,'%s',\t\t'%s',%d,%d,%d,%d,\t\t%d,'%s',%d,%d,%d,\t\t%d,%d,%lld,%lld,'%s',\t\t%d,'%s','%s',%d,%d,\t\t%d,%lld,'%s'),"
  size := 10240
  slots := [lld, d, d, d, s, s, d, d, d, d, d, s, d, d, d, d, d, lld, lld, s, d, s, s, d, d, d,
            lld, s]
  sound := .of_chars rfl rfl rfl (by decide +kernel)
  columns :=
    ["id", "split_id", "rte_id", "rte_type", "description", "device_id_list", "lat", "lon", "ele",
     "node_region_id", "node_id", "link_name", "upstream_node_region_id", "upstream_node_node_id",
     "section_id", "lane_id", "event_radius", "start_time", "end_time", "priority",
     "event_confid", "event_images", "event_videos", "event_source_id", "data_source_id",
     "end_time_confidence_id", "cam_data_id", "device_id"]
  matched := .of_chars rfl rfl rfl (by repeat first | exact .nil | apply Spells.cons rfl)
    (by decide +kernel)

/-- A path of an event.  Its last identifier is drawn anew for each event. -/
def rteDataReferencePath : Table where
  table := "rte_data_reference_path"
  header :=
    "INSERT INTO `rte_data_reference_path` \t\t\t\t(`id`,`split_id`,`path_radius`,`rte_data_id`,`forward_rte_data_id`)VALUES"
  row := "(%lld,%d,%d,%lld,%lld),"
  size := 10240
  slots := [lld, d, d, lld, lld]
  sound := .of_chars rfl rfl rfl (by decide +kernel)
  columns := ["id", "split_id", "path_radius", "rte_data_id", "forward_rte_data_id"]
  matched := .of_chars rfl rfl rfl (by repeat first | exact .nil | apply Spells.cons rfl)
    (by decide +kernel)

def rteDataReferencePathPosition3D : Table where
  table := "rte_data_reference_path_position_3_d"
  header :=
    "INSERT INTO `rte_data_reference_path_position_3_d`\t\t\t\t\t(`id`,`split_id`,`lon`,`lat`,`ele`,`rte_data_reference_path_id`)VALUES"
  row := "(%lld,%d,%d,%d,%d,%lld),"
  size := 10240
  slots := [lld, d, d, d, d, lld]
  sound := .of_chars rfl rfl rfl (by decide +kernel)
  columns := ["id", "split_id", "lon", "lat", "ele", "rte_data_reference_path_id"]
  matched := .of_chars rfl rfl rfl (by repeat first | exact .nil | apply Spells.cons rfl)
    (by decide +kernel)

/-- A link of an event. -/
def rteDataReferenceLink : Table where
  table := "rte_data_reference_link"
  header :=
    "INSERT INTO `rte_data_reference_link`\t\t\t\t(`id`,`split_id`,`upstream_node_region_id`,`upstream_node_id`,`downstream_node_region_id`,\t\t\t\t`downstream_node_id`,`reference_lanes`,`rte_data_id`,`forward_rte_data_id`)VALUES"
  row := "(%lld,%d,%d,%d,%d,%d,%d,%lld,%lld),"
  size := 10240
  slots := [lld, d, d, d, d, d, d, lld, lld]
  sound := .of_chars rfl rfl rfl (by decide +kernel)
  columns :=
    ["id", "split_id", "upstream_node_region_id", "upstream_node_id", "downstream_node_region_id",
     "downstream_node_id", "reference_lanes", "rte_data_id", "forward_rte_data_id"]
  matched := .of_chars rfl rfl rfl (by repeat first | exact .nil | apply Spells.cons rfl)
    (by decide +kernel)

/-- The column list is not closed. -/
def objIdValue : Layout where
  table := "obj_id_value"
  header :=
    "INSERT INTO `obj_id_value`\t\t\t\t(`id`,`split_id`,`ptc_id`,`obs_id`,`role_id`,\t\t\t\t`rte_data_id`,`forward_rte_data_id`VALUES"
  row := "(%lld,%d,%lld,%lld,%d,%lld,%lld),"
  size := 10240
  slots := [lld, d, lld, lld, d, lld, lld]
  sound := .of_chars rfl rfl rfl (by decide +kernel)

/-- One row for a sign. -/
def rtsData : Table where
  table := "rts_data"
  header :=
    "INSERT INTO `rts_data`\t\t\t(`id`,`split_id`,`rts_id`,`rts_type`,`priority`,\t\t\t`lat`,`lon`,`ele`,`start_time`,`end_time`,\t\t\t`description`,`path_radius`,`data_source_id`,`end_time_confidence_id`,`cam_data_id`,`device_id`)VALUES"
  row := "(%lld,%d,%d,%d,'%s',%d,%d,%d,%lld,%lld,'%s',%d,%lld,%d,%lld,'%s'),"
  size := 10240
  slots := [lld, d, d, d, s, d, d, d, lld, lld, s, d, lld, d, lld, s]
  sound := .of_chars rfl rfl rfl (by decide +kernel)
  columns :=
    ["id", "split_id", "rts_id", "rts_type", "priority", "lat", "lon", "ele", "start_time",
     "end_time", "description", "path_radius", "data_source_id", "end_time_confidence_id",
     "cam_data_id", "device_id"]
  matched := .of_chars rfl rfl rfl (by repeat first | exact .nil | apply Spells.cons rfl)
    (by decide +kernel)

def rtsDataReferencePath : Table where
  table := "rts_data_reference_path"
  header :=
    "INSERT INTO `rts_data_reference_path`\t\t\t\t(`id`,`split_id`,`path_radius`,`rts_data_id`,`forward_rts_data_id`)VALUES"
  row := "(%lld,%d,%d,%lld,%lld),"
  size := 10240
  slots := [lld, d, d, lld, lld]
  sound := .of_chars rfl rfl rfl (by decide +kernel)
  columns := ["id", "split_id", "path_radius", "rts_data_id", "forward_rts_data_id"]
  matched := .of_chars rfl rfl rfl (by repeat first | exact .nil | apply Spells.cons rfl)
    (by decide +kernel)

/-- The points of a path of a sign. -/
def rtsDataReferencePathPosition3D : Table where
  table := "rts_data_reference_path_position_3_d"
  header :=
    "INSERT INTO `rts_data_reference_path_position_3_d`\t\t\t\t\t(`id`,`split_id`,`lon`,`lat`,`ele`,`rts_data_reference_path_id`)VALUES"
  row := "(%lld,%d,%d,%d,%d,%lld),"
  size := 10240
  slots := [lld, d, d, d, d, lld]
  sound := .of_chars rfl rfl rfl (by decide +kernel)
  columns := ["id", "split_id", "lon", "lat", "ele", "rts_data_reference_path_id"]
  matched := .of_chars rfl rfl rfl (by repeat first | exact .nil | apply Spells.cons rfl)
    (by decide +kernel)

def rtsDataReferenceLink : Table where
  table := "rts_data_reference_link"
  header :=
    "INSERT INTO `rts_data_reference_link`\t\t\t\t(`id`,`split_id`,`upstream_node_region_id`,`upstream_node_id`,`downstream_node_region_id`,\t\t\t\t`downstream_node_id`,`reference_lanes`,`rts_data_id`,`forward_rts_data_id`)VALUES"
  row := "(%lld,%d,%d,%d,%d,%d,%d,%lld,%lld),"
  size := 10240
  slots := [lld, d, d, d, d, d, d, lld, lld]
  sound := .of_chars rfl rfl rfl (by decide +kernel)
  columns :=
    ["id", "split_id", "upstream_node_region_id", "upstream_node_id", "downstream_node_region_id",
     "downstream_node_id", "reference_lanes", "rts_data_id", "forward_rts_data_id"]
  matched := .of_chars rfl rfl rfl (by repeat first | exact .nil | apply Spells.cons rfl)
    (by decide +kernel)

/-! ## What is inserted -/

/-- A manual source. -/
def isManual (dataSource : Int32) : Bool := dataSource == 9 || dataSource == 12

section

variable (splitId : Int32)

def rteActivepathSql (pathId : Int64) (i : ℕ) (p : Position3D) : Insertion σ (Text σ) := do
  let id ← nextId
  rteDataReferencePathPosition3D.append i
    [.long id, .int splitId, .int p.lon, .int p.lat, .int p.ele, .long pathId]

/-- A path, and under its identifier its points. -/
def rteReferencePathSql (rteDataId forwardRteDataId : Int64) (i : ℕ) (p : ReferencePath) :
    Insertion σ (Text σ) := do
  let id ← nextId
  let sql ← rteDataReferencePath.append i
    [.long id, .int splitId, .int p.pathRadius.toInt32, .long rteDataId, .long forwardRteDataId]
  insertEach (rteActivepathSql splitId id) p.activePath
  pure sql

/-- The downstream node is looked at only if there is an upstream node. -/
def rteReferenceLinkSql (rteDataId forwardRteDataId : Int64) (i : ℕ) (l : ReferenceLink) :
    Insertion σ (Text σ) := do
  let id ← nextId
  rteDataReferenceLink.append i
    [.long id, .int splitId, .int (regionOf l.upstreamNodeId), .int (nodeIdOf l.upstreamNodeId),
     .int (l.upstreamNodeId.elim 0 fun _ => regionOf l.downstreamNodeId),
     .int (l.upstreamNodeId.elim 0 fun _ => nodeIdOf l.downstreamNodeId),
     .int (l.referenceLanes.elim 0 (·.referenceLanes.toInt32)), .long rteDataId,
     .long forwardRteDataId]

/-- An object that takes part in the event. -/
def eventObjIdSql (rteDataId forwardRteDataId : Int64) (i : ℕ) (o : ObjIdValue) :
    Insertion σ (Text σ) := do
  let id ← nextId
  objIdValue.append i
    [.long id, .int splitId, .long o.ptcId.toInt64, .long o.obsId.toInt64, .int o.role,
     .long rteDataId, .long forwardRteDataId]

/-- An event, unless its source is manual; then it is skipped without a text. -/
def rteSql (camId : Int64) (deviceId : σ) (i : ℕ) (e : RteData σ) : Insertion σ (Text σ) :=
  if isManual e.dataSource then pure []
  else do
    let id ← ownId e.id
    let sql ← rteData.append i
      [.long id, .int splitId, .int e.rteId.toInt32, .int e.rteType.toInt32, .str e.description,
       .str e.deviceIdList, .int (latOf e.rtePos), .int (lonOf e.rtePos), .int (eleOf e.rtePos),
       .int (regionOf (e.mapLocation.bind (·.nodeId))),
       .int (nodeIdOf (e.mapLocation.bind (·.nodeId))), .str (e.mapLocation.map (·.linkName)),
       .int (regionOf (e.mapLocation.bind (·.upstreamNodeId))),
       .int (nodeIdOf (e.mapLocation.bind (·.upstreamNodeId))),
       .int (e.mapLocation.elim 0 (·.sectionId.toInt32)),
       .int (e.mapLocation.elim 0 (·.laneId.toInt32)), .int e.eventRadius.toInt32,
       .long (e.timeDetails.elim 0 (·.startTime.toInt64)),
       .long (e.timeDetails.elim 0 (·.endTime.toInt64)), .str e.priority, .int e.eventConfid,
       .str e.eventImages, .str e.eventVideos, .int e.eventSource, .int e.dataSource,
       .int (e.timeDetails.elim 0 (·.endTimeConfidence)), .long camId, .str deviceId]
    let forwardRteDataId ← nextId
    insertEach (rteReferencePathSql splitId id forwardRteDataId) e.referencePath
    insertEach (rteReferenceLinkSql splitId id forwardRteDataId) e.referenceLinks
    insertEach (eventObjIdSql splitId id forwardRteDataId) e.eventObjId
    pure sql

/-- `camData.rtelist(i).referencepath(j).activepath(k)`, if there is one. -/
def rteActivepath (rteList : List (RteData σ)) (i j k : ℕ) : Option Position3D :=
  rteList[i]?.bind fun e => e.referencePath[j]?.bind fun p => p.activePath[k]?

/-- The `k`th point of the `j`th path of the `i`th sign; it is read from the `i`th event. -/
def rtsActivepathSql (rteList : List (RteData σ)) (i j : ℕ) (pathId : Int64) (k : ℕ)
    (_ : Position3D) : Insertion σ (Text σ) := do
  let id ← nextId
  match rteActivepath rteList i j k with
  | none => .undefined
  | some p =>
    rtsDataReferencePathPosition3D.append k
      [.long id, .int splitId, .int p.lon, .int p.lat, .int p.ele, .long pathId]

/-- The `j`th path of a sign, with the number `i` of the sign for its points. -/
def rtsReferencePathSql (rteList : List (RteData σ)) (i : ℕ) (rtsDataId forwardRtsDataId : Int64)
    (j : ℕ) (p : ReferencePath) : Insertion σ (Text σ) := do
  let id ← nextId
  let sql ← rtsDataReferencePath.append j
    [.long id, .int splitId, .int p.pathRadius.toInt32, .long rtsDataId, .long forwardRtsDataId]
  insertEach (rtsActivepathSql splitId rteList i j id) p.activePath
  pure sql

/-- The downstream node is looked at only if there is an upstream node. -/
def rtsReferenceLinkSql (rtsDataId forwardRtsDataId : Int64) (i : ℕ) (l : ReferenceLink) :
    Insertion σ (Text σ) := do
  let id ← nextId
  rtsDataReferenceLink.append i
    [.long id, .int splitId, .int (regionOf l.upstreamNodeId), .int (nodeIdOf l.upstreamNodeId),
     .int (l.upstreamNodeId.elim 0 fun _ => regionOf l.downstreamNodeId),
     .int (l.upstreamNodeId.elim 0 fun _ => nodeIdOf l.downstreamNodeId),
     .int (l.referenceLanes.elim 0 (·.referenceLanes.toInt32)), .long rtsDataId,
     .long forwardRtsDataId]

/-- A sign, unless its source is manual. -/
def rtsDataSql (rteList : List (RteData σ)) (camId : Int64) (deviceId : σ) (i : ℕ)
    (e : RtsData σ) : Insertion σ (Text σ) :=
  if isManual e.dataSource then pure []
  else do
    let id ← nextId
    let sql ← rtsData.append i
      [.long id, .int splitId, .int e.rtsId, .int e.rtsType, .str e.priority,
       .int (latOf e.rtsPos), .int (lonOf e.rtsPos), .int (eleOf e.rtsPos),
       .long (e.timeDetails.elim 0 (·.startTime.toInt64)),
       .long (e.timeDetails.elim 0 (·.endTime.toInt64)), .str e.description,
       .int e.pathRadius.toInt32, .long e.dataSource.toInt64,
       .int (e.timeDetails.elim 0 (·.endTimeConfidence)), .long camId, .str deviceId]
    let forwardRtsDataId ← nextId
    insertEach (rtsReferencePathSql splitId rteList i id forwardRtsDataId) e.refPathList
    insertEach (rtsReferenceLinkSql splitId id forwardRtsDataId) e.refLinkList
    pure sql

end

/-! ## The tables of the statements -/

variable {splitId : Int32} {W : Text σ → Prop}

/-- The tables of the events. -/
def rteTables : List String :=
  ["rte_data", "rte_data_reference_path", "rte_data_reference_path_position_3_d",
   "rte_data_reference_link", "obj_id_value"]

/-- The tables of the signs. -/
def rtsTables : List String :=
  ["rts_data", "rts_data_reference_path", "rts_data_reference_path_position_3_d",
   "rts_data_reference_link"]

/-- A tuple alone is long enough to be executed; the header is missing if the first event is passed
over. -/
theorem long_rteData : rteData.Long := .of_chars rfl (by decide +kernel)

theorem long_rtsData : rtsData.Long := .of_chars rfl (by decide +kernel)

/-! Below an event or a sign every list has tables of its own. -/

def rtePathTables : List String :=
  ["rte_data_reference_path", "rte_data_reference_path_position_3_d"]

def rtsPathTables : List String :=
  ["rts_data_reference_path", "rts_data_reference_path_position_3_d"]

/-- The tables below an event: its own row is executed with the others at the end. -/
def rteBelow : List String := rtePathTables ++ ["rte_data_reference_link", "obj_id_value"]

def rtsBelow : List String := rtsPathTables ++ ["rts_data_reference_link"]

theorem always_rteReferencePathSql (rteDataId forwardRteDataId : Int64) (i : ℕ)
    (p : ReferencePath) :
    Always (Executed rtePathTables)
      (rteReferencePathSql (σ := σ) splitId rteDataId forwardRteDataId i p)
      (Adds rtePathTables i) :=
  rteDataReferencePath.always_nested rtePathTables (.head _) (fun _ k _ =>
    rteDataReferencePathPosition3D.always_leaf rtePathTables (.tail _ (.head _)) k) i

theorem always_rteReferenceLinkSql (rteDataId forwardRteDataId : Int64) (i : ℕ)
    (l : ReferenceLink) :
    Always W (rteReferenceLinkSql (σ := σ) splitId rteDataId forwardRteDataId i l)
      (Adds ["rte_data_reference_link"] i) :=
  rteDataReferenceLink.always_leaf ["rte_data_reference_link"] (.head _) i

theorem always_eventObjIdSql (rteDataId forwardRteDataId : Int64) (i : ℕ) (o : ObjIdValue) :
    Always W (eventObjIdSql (σ := σ) splitId rteDataId forwardRteDataId i o)
      (Adds ["obj_id_value"] i) :=
  objIdValue.always_leaf ["obj_id_value"] (.head _) i

/-- Whatever is executed for an event goes into the tables below it. -/
theorem always_rteSql (camId : Int64) (deviceId : σ) (i : ℕ) (e : RteData σ) :
    Always (Executed rteBelow) (rteSql splitId camId deviceId i e) (Gathers rteTables) := by
  rw [rteSql]
  split
  · exact .inl rfl
  · refine .bind (always_ownId fun _ => trivial) fun id _ => ?_
    refine .bind (long_rteData.always_append rteTables (.head _) i _) fun sql hsql => ?_
    refine .bind (always_nextId fun _ => trivial) fun forwardId _ => ?_
    refine .bind (always_among (by decide) (always_insertEach
      (always_rteReferencePathSql id forwardId) e.referencePath)) fun _ _ => ?_
    refine .bind (always_among (by decide) (always_insertEach
      (always_rteReferenceLinkSql id forwardId) e.referenceLinks)) fun _ _ => ?_
    exact .bind (always_among (by decide) (always_insertEach
      (always_eventObjIdSql id forwardId) e.eventObjId)) fun _ _ => .inr hsql

theorem always_rtsActivepathSql (rteList : List (RteData σ)) (i j : ℕ) (pathId : Int64) (k : ℕ)
    (q : Position3D) :
    Always W (rtsActivepathSql splitId rteList i j pathId k q) (Adds rtsPathTables k) := by
  refine .bind (always_nextId fun _ => trivial) fun id _ => ?_
  split
  · trivial
  · exact rtsDataReferencePathPosition3D.always_append rtsPathTables (.tail _ (.head _)) k _

theorem always_rtsReferencePathSql (rteList : List (RteData σ)) (i : ℕ)
    (rtsDataId forwardRtsDataId : Int64) (j : ℕ) (p : ReferencePath) :
    Always (Executed rtsPathTables)
      (rtsReferencePathSql splitId rteList i rtsDataId forwardRtsDataId j p)
      (Adds rtsPathTables j) :=
  rtsDataReferencePath.always_nested rtsPathTables (.head _)
    (fun id => always_rtsActivepathSql rteList i j id) j

theorem always_rtsReferenceLinkSql (rtsDataId forwardRtsDataId : Int64) (i : ℕ)
    (l : ReferenceLink) :
    Always W (rtsReferenceLinkSql (σ := σ) splitId rtsDataId forwardRtsDataId i l)
      (Adds ["rts_data_reference_link"] i) :=
  rtsDataReferenceLink.always_leaf ["rts_data_reference_link"] (.head _) i

/-- The same of a sign. -/
theorem always_rtsDataSql (rteList : List (RteData σ)) (camId : Int64) (deviceId : σ) (i : ℕ)
    (e : RtsData σ) :
    Always (Executed rtsBelow) (rtsDataSql splitId rteList camId deviceId i e)
      (Gathers rtsTables) := by
  rw [rtsDataSql]
  split
  · exact .inl rfl
  · refine .bind (always_nextId fun _ => trivial) fun id _ => ?_
    refine .bind (long_rtsData.always_append rtsTables (.head _) i _) fun sql hsql => ?_
    refine .bind (always_nextId fun _ => trivial) fun forwardId _ => ?_
    refine .bind (always_among (by decide) (always_insertEach
      (always_rtsReferencePathSql rteList i id forwardId) e.refPathList)) fun _ _ => ?_
    exact .bind (always_among (by decide) (always_insertEach
      (always_rtsReferenceLinkSql id forwardId) e.refLinkList)) fun _ _ => .inr hsql

/-- For all events together their own table is among those executed. -/
theorem always_rteList (camId : Int64) (deviceId : σ) (rteList : List (RteData σ)) :
    Always (Executed rteTables) (insertEach (rteSql splitId camId deviceId) rteList)
      fun _ => True :=
  always_insertEach_of_gathers (fun i e =>
    .weaken (fun _ h => h.mono (by decide)) (always_rteSql camId deviceId i e)) rteList

theorem always_rtsList (rteList : List (RteData σ)) (camId : Int64) (deviceId : σ)
    (rtsList : List (RtsData σ)) :
    Always (Executed rtsTables) (insertEach (rtsDataSql splitId rteList camId deviceId) rtsList)
      fun _ => True :=
  always_insertEach_of_gathers (fun i e =>
    .weaken (fun _ h => h.mono (by decide)) (always_rtsDataSql rteList camId deviceId i e)) rtsList

/-! ## Reaching the end -/

variable {print : σ → List Char}

theorem completes_rteReferencePathSql (rteDataId forwardRteDataId : Int64) (i : ℕ)
    (p : ReferencePath) :
    Completes print (rteReferencePathSql splitId rteDataId forwardRteDataId i p) True := by
  refine completes_nextId.then fun id => ?_
  refine (rteDataReferencePath.completes_append i rfl).then fun sql => ?_
  refine (completes_insertEach_of_forall (fun k q => ?_) p.activePath).then fun _ => trivial
  exact completes_nextId.then fun _ => rteDataReferencePathPosition3D.completes_append k rfl

/-- The end of an event is always reached. -/
theorem completes_rteSql (camId : Int64) (deviceId : σ) (i : ℕ) (e : RteData σ) :
    Completes print (rteSql splitId camId deviceId i e) True := by
  rw [rteSql]
  split
  · trivial
  · refine (completes_ownId e.id).then fun id => ?_
    refine (rteData.completes_append i rfl).then fun sql => ?_
    refine completes_nextId.then fun forwardId => ?_
    refine (completes_insertEach_of_forall (completes_rteReferencePathSql id forwardId)
      e.referencePath).then fun _ => ?_
    refine (completes_insertEach_of_forall (fun k l => completes_nextId.then fun _ =>
      rteDataReferenceLink.completes_append k rfl) e.referenceLinks).then fun _ => ?_
    exact (completes_insertEach_of_forall (fun k o => completes_nextId.then fun _ =>
      objIdValue.completes_append k rfl) e.eventObjId).then fun _ => trivial

/-- For every point of a path of a sign there is one of an event, with the same three indices. -/
def RtsInRange (rteList : List (RteData σ)) (rtsList : List (RtsData σ)) : Prop :=
  ∀ i e, rtsList[i]? = some e → isManual e.dataSource = false → ∀ j p, e.refPathList[j]? = some p →
    ∀ k q, p.activePath[k]? = some q → (rteActivepath rteList i j k).isSome = true

/-- A point of a sign is reached if there is one of an event with its indices. -/
theorem completes_rtsActivepathSql (rteList : List (RteData σ)) (i j : ℕ) (pathId : Int64) (k : ℕ)
    (q : Position3D) : Completes print (rtsActivepathSql splitId rteList i j pathId k q)
      ((rteActivepath rteList i j k).isSome = true) := by
  refine completes_nextId.then fun id => ?_
  split
  · next hnone =>
      rw [hnone]
      exact Bool.false_ne_true
  · next p hp =>
      rw [hp]
      exact (rtsDataReferencePathPosition3D.completes_append k rfl).congr
        ⟨fun _ => rfl, fun _ => trivial⟩

theorem completes_rtsReferencePathSql (rteList : List (RteData σ)) (i : ℕ)
    (rtsDataId forwardRtsDataId : Int64) (j : ℕ) (p : ReferencePath) :
    Completes print (rtsReferencePathSql splitId rteList i rtsDataId forwardRtsDataId j p)
      (∀ k q, p.activePath[k]? = some q → (rteActivepath rteList i j k).isSome = true) := by
  refine completes_nextId.then fun id => ?_
  refine (rtsDataReferencePath.completes_append j rfl).then fun sql => ?_
  refine ((completes_insertEach (completes_rtsActivepathSql rteList i j id) p.activePath).bind
    fun _ => completes_pure sql).congr ?_
  rw [and_true]

/-- **The end of the signs is reached if their points are found.** -/
theorem completes_rtsDataSql (rteList : List (RteData σ)) (rtsList : List (RtsData σ))
    (camId : Int64) (deviceId : σ) :
    Completes print (insertEach (rtsDataSql splitId rteList camId deviceId) rtsList)
      (RtsInRange rteList rtsList) := by
  refine completes_insertEach (fun i e => ?_) rtsList
  rw [rtsDataSql]
  split
  · next hmanual =>
      refine (completes_pure _).congr ⟨fun _ h => ?_, fun _ => trivial⟩
      rw [hmanual] at h
      cases h
  · next hmanual =>
      have hkept : isManual e.dataSource = false := by rwa [Bool.not_eq_true] at hmanual
      refine Completes.congr (P := ∀ j p, e.refPathList[j]? = some p → ∀ k q,
        p.activePath[k]? = some q → (rteActivepath rteList i j k).isSome = true) ?_
        ⟨fun h _ => h, fun h => h hkept⟩
      refine completes_nextId.then fun id => (rtsData.completes_append i rfl).then fun sql => ?_
      refine completes_nextId.then fun forwardId => ?_
      refine ((completes_insertEach (completes_rtsReferencePathSql rteList i id forwardId)
        e.refPathList).bind fun _ => ?_).congr (and_iff_left trivial)
      exact (completes_insertEach_of_forall (fun k l => completes_nextId.then fun _ =>
        rtsDataReferenceLink.completes_append k rfl) e.refLinkList).then fun _ => trivial

end DataInsert

end Sadip
