import Sadip.DataInsert.Coordination
import Sadip.DataInsert.Intention.Rows
import Sadip.DataInsert.Obstacle
import Sadip.DataInsert.Room
import Sadip.DataInsert.Stored
import Sadip.DataInsert.Strings

/-!
# DataInsert/Roadside — when obstacles and coordinations are stored as they are

The rows of the obstacles and of what the roadside coordinates, and of the lists below them.  Two
columns are not taken from the message and are parameters here: `cfd`, how sure the type of an
obstacle is, for which the builder prints the type; and `info`, what a vehicle is told, for which it
prints zero.  `roadside_iff` says when this makes no difference.
-/

set_option maxRecDepth 10000

namespace Sadip

namespace DataInsert

open Printf Sql Insertion

variable {σ α : Type}

/-! ## Lists that are stored as forests -/

/-- **A list with the rows that it should have**: its strings have to be literal, and what is
written in place of a column has to be the same. -/
theorem Grows.delivered_iff {content : σ → List Char} {carried : List Int64} {T : List String}
    {table : String} {row row' : Int64 → α → Row} {kids : Int64 → α → Forest Int64 Row → Prop}
    {es : List α} {p : Insertion σ Unit} {texts : List σ} {cond : α → Prop}
    (hp : Grows (printed content) content (fun _ => True) carried p
      (Forest.Grown table row kids es))
    (hon : Always (Executed T) p fun _ => True) (htable : table ∈ T)
    (htexts : Admits (printed content) (fun s => isLiteral (content s) = true) p
      ((∀ s ∈ texts, isLiteral (content s) = true) ∧ True) (fun _ => True) fun _ => True)
    (hkids : ∀ id e f, kids id e f → f.rowsAt table = [])
    (halike : ∀ t e id id' f f', kids id e f → kids id' e f' → Forest.Alike rowLetters t f f')
    (hletters : ∀ e id id', rowLetters (row' id e) = rowLetters (row id' e))
    (hrow : ∀ e id, cond e → row id e = row' id e)
    (hinj : ∀ e id id', row id e = row' id' e → cond e) (ids : ℕ → Int64) (n : ℕ) :
    (p.run (printed content) ids n).Delivers
        (fun _ ss _ => StoredAs (printed content) T (Forest.Grown table row' kids es) ss) ↔
      Fits (printed content) ids p n ∧ (∀ s ∈ texts, isLiteral (content s) = true) ∧
        ∀ e ∈ es, cond e := by
  refine Yields.delivered_iff (I := fun _ => True) (fun _ => trivial) ?_ n
  refine ((Yields.and hp hon.yields).and htexts.yields).mono ?_ fun _ _ h => h.1.1.elim
  rintro ds ss - ⟨⟨⟨F, hF, hbears⟩, -, hss⟩, hliteral⟩
  rw [storedAs_iff hss hbears.formed (List.Subset.refl T) (fun F' hF' u _ => ?_) (fun u hu => ?_),
    show Literal content ss ↔ _ from hliteral, and_true]
  · refine and_congr_right fun _ => ⟨?_, fun hcond => ⟨F, ?_, fun u _ => hbears.rows u⟩⟩
    · rintro ⟨F', hF', hrows⟩ e he
      obtain ⟨id, id', heq⟩ := hF.row_eq hkids hkids hF'
        (by rw [← hbears.rows, hrows table htable]) e he
      exact hinj e id id' heq
    · exact Forest.Grown.congr (fun e he id => hrow e id (hcond e he)) (fun _ _ _ _ h => h) hF
  · rw [hbears.rows]
    exact hF'.alike (fun _ => hletters) (halike u) hF
  · rw [meantRows_eq_nil hss hu]
    exact nofun

/-! ## Rows -/

section

variable (content : σ → List Char) (splitId : Int32)

/-- The row of a position below a row, whose column is called `parent`. -/
def positionRow (parent : String) (parentId id : Int64) (p : Position3D) : Row :=
  [("id", int64 id), ("split_id", int32 splitId), ("lat", int32 p.lat), ("lon", int32 p.lon),
   ("ele", int32 p.ele), (parent, int64 parentId)]

/-- The row of an obstacle, with `cfd` in the column of the confidence. -/
def obstacleDataRow (cfd : ObstacleData σ → Int32) (camId id : Int64) (o : ObstacleData σ) : Row :=
  [("id", int64 id), ("split_id", int32 splitId), ("obs_id", int64 o.obsId.toInt64),
   ("obs_type_cfd", int32 (cfd o)), ("timestamp", int64 o.timestamp.toInt64),
   ("device_id_list", text content o.deviceIdList), ("lat", int32 (latOf o.obsPos)),
   ("lon", int32 (lonOf o.obsPos)), ("ele", int32 (eleOf o.obsPos)),
   ("node_region_id", int32 (regionOf (o.mapLocation.bind (·.nodeId)))),
   ("node_id", int32 (nodeIdOf (o.mapLocation.bind (·.nodeId)))),
   ("link_name", text content (o.mapLocation.map (·.linkName))),
   ("upstream_node_region_id", int32 (regionOf (o.mapLocation.bind (·.upstreamNodeId)))),
   ("upstream_node_node_id", int32 (nodeIdOf (o.mapLocation.bind (·.upstreamNodeId)))),
   ("section_id", int32 (o.mapLocation.elim 0 (·.sectionId.toInt32))),
   ("lane_id", int32 (o.mapLocation.elim 0 (·.laneId.toInt32))), ("speed", int32 o.speed.toInt32),
   ("heading", int32 o.heading.toInt32), ("ver_speed", int32 o.verSpeed.toInt32),
   ("acceleration_lon", int32 (o.acceleration.elim 0 (·.lon))),
   ("acceleration_lat", int32 (o.acceleration.elim 0 (·.lat))),
   ("acceleration_vert", int32 (o.acceleration.elim 0 (·.vert))),
   ("acceleration_yaw", int32 (o.acceleration.elim 0 (·.yaw))),
   ("width", int32 (o.size.elim 0 (·.width.toInt32))),
   ("length", int32 (o.size.elim 0 (·.length.toInt32))),
   ("height", int32 (o.size.elim 0 (·.height.toInt32))), ("tracking", int32 o.tracking.toInt32),
   ("obs_type_id", int32 o.obsType), ("obs_source_id", int32 o.obsSource),
   ("pos_confid_id", int32 (o.posConfid.elim 0 (·.posConfid))),
   ("ele_confid_id", int32 (o.posConfid.elim 0 (·.eleConfid))),
   ("speed_cfd_id", int32 (o.motionConfid.elim 0 (·.speedCfd))),
   ("heading_cfd_id", int32 (o.motionConfid.elim 0 (·.headingCfd))),
   ("steer_cfd_id", int32 (o.motionConfid.elim 0 (·.steerCfd))),
   ("ver_speed_confid_id", int32 o.verSpeedConfid),
   ("width_confid_id", int32 (o.obsSizeConfid.elim 0 (·.widthConfid))),
   ("length_confid_id", int32 (o.obsSizeConfid.elim 0 (·.lengthConfid))),
   ("height_confid_id", int32 (o.obsSizeConfid.elim 0 (·.heightConfid))),
   ("cam_data_id", int64 camId)]

/-- The row of an advice, with `info` in the column of the vehicle's information. -/
def rscDataRow (info : Option CoordinationInfo → Int32) (camId id : Int64) (r : RscData σ) : Row :=
  let suggestion := r.coordinates.bind (·.driveSuggestion)
  let link := suggestion.bind (·.relatedLink)
  let lane := r.laneCoordinates.bind (·.targetLane)
  [("id", int64 id), ("split_id", int32 splitId), ("msg_cnt", int32 r.msgCnt.toInt32),
   ("rsu_id", text content r.rsuId), ("timestamp", int64 r.timestamp.toInt64),
   ("lat", int32 (latOf r.pos)), ("lon", int32 (lonOf r.pos)), ("ele", int32 (eleOf r.pos)),
   ("veh_id", text content (r.coordinates.map (·.vehId))),
   ("drive_suggestion_suggestion",
     int32 ((suggestion.bind (·.suggestion)).elim 0 (·.driveBehavior))),
   ("time_offset", int32 (suggestion.elim 0 (·.timeOffset.toInt32))),
   ("drive_suggestion_upstream_node_region_id", int32 (regionOf (link.bind (·.upstreamNodeId)))),
   ("drive_suggestion_upstream_node_id", int32 (nodeIdOf (link.bind (·.upstreamNodeId)))),
   ("drive_suggestion_downstream_node_region_id",
     int32 (regionOf (link.bind (·.downstreamNodeId)))),
   ("drive_suggestion_downstream_node_id", int32 (nodeIdOf (link.bind (·.downstreamNodeId)))),
   ("drive_suggestion_reference_lanes",
     int32 ((link.bind (·.referenceLanes)).elim 0 (·.referenceLanes.toInt32))),
   ("drive_suggestion_path_radius",
     int32 ((suggestion.bind (·.relatedPath)).elim 0 (·.pathRadius.toInt32))),
   ("coordinates_info", int32 (info (r.coordinates.bind (·.info)))),
   ("lane_coordinatio_upstream_node_region_id", int32 (regionOf (lane.bind (·.upstreamNodeId)))),
   ("lane_coordinatio_upstream_node_id", int32 (nodeIdOf (lane.bind (·.upstreamNodeId)))),
   ("lane_coordinatio_downstream_node_region_id",
     int32 (regionOf (lane.bind (·.downstreamNodeId)))),
   ("lane_coordinatio_downstream_node_id", int32 (nodeIdOf (lane.bind (·.downstreamNodeId)))),
   ("lane_coordinatio_reference_lanes",
     int32 ((lane.bind (·.referenceLanes)).elim 0 (·.referenceLanes.toInt32))),
   ("path_radius",
     int32 ((r.laneCoordinates.bind (·.relatedPath)).elim 0 (·.pathRadius.toInt32))),
   ("t_begin", int64 (r.laneCoordinates.elim 0 (·.tBegin.toInt64))),
   ("t_end", int64 (r.laneCoordinates.elim 0 (·.tEnd.toInt64))),
   ("recommended_speed", int32 (r.laneCoordinates.elim 0 (·.recommendedSpeed.toInt32))),
   ("recommended_behavior",
     int32 ((r.laneCoordinates.bind (·.recommendedBehavior)).elim 0 (·.driveBehavior))),
   ("lane_coordinates_info",
     int32 ((r.laneCoordinates.bind (·.info)).elim 0 (·.coordinationInfo))),
   ("description", text content (r.laneCoordinates.map (·.description))),
   ("cam_data_id", int64 camId)]

/-! ## Forests -/

/-- The positions below a row. -/
def PositionForest (table parent : String) (parentId : Int64) :
    List Position3D → Forest Int64 Row → Prop :=
  Forest.Leaves table (positionRow splitId parent parentId)

/-- The outline of an obstacle. -/
def ObstacleKids (id : Int64) (o : ObstacleData σ) : Forest Int64 Row → Prop :=
  PositionForest splitId "obstacle_data_position_3_d" "obstacle_data_id" id
    (o.polygon.elim [] (·.pos))

/-- The obstacles with their corners, and `cfd` for the confidence. -/
def ObstacleForest (cfd : ObstacleData σ → Int32) (camId : Int64) :
    List (ObstacleData σ) → Forest Int64 Row → Prop :=
  Forest.Grown "obstacle_data" (obstacleDataRow content splitId cfd camId) (ObstacleKids splitId)

/-- The path and the planned points that a vehicle is told, and the path of a lane. -/
def RscKids (id : Int64) (r : RscData σ) : Forest Int64 Row → Prop :=
  Forest.Both (PositionForest splitId "rsc_data_drive_suggestion_position_3_d" "rsc_data_id" id
      (((r.coordinates.bind (·.driveSuggestion)).bind (·.relatedPath)).elim [] (·.activePath)))
    (Forest.Both (Forest.Leaves "rsc_data_path_planning_point"
        (pathPlanningPointRow splitId "rsc_data_id" id)
        ((r.coordinates.bind (·.pathGuidance)).elim [] (·.pathPlanning)))
      (PositionForest splitId "rsc_data_lane_coordination_position_3_d" "rsc_data_id" id
        ((r.laneCoordinates.bind (·.relatedPath)).elim [] (·.activePath))))

/-- The advices with their paths, and `info` for the information. -/
def RscForest (info : Option CoordinationInfo → Int32) (camId : Int64) :
    List (RscData σ) → Forest Int64 Row → Prop :=
  Forest.Grown "rsc_data" (rscDataRow content splitId info camId) (RscKids splitId)

end

/-! ## What is inserted -/

variable {print : σ → List Char} {I : Int64 → Prop} {splitId : Int32} (content : σ → List Char)
  (carried : List Int64)

theorem ObstacleKids.rowsAt_eq_nil {id : Int64} {o : ObstacleData σ} {f : Forest Int64 Row}
    (h : ObstacleKids splitId id o f) : f.rowsAt "obstacle_data" = [] :=
  Forest.Leaves.rowsAt_eq_nil (by decide) h

theorem RscKids.rowsAt_eq_nil {id : Int64} {r : RscData σ} {f : Forest Int64 Row}
    (h : RscKids splitId id r f) : f.rowsAt "rsc_data" = [] :=
  Forest.Both.rowsAt_eq_nil (fun _ => Forest.Leaves.rowsAt_eq_nil (by decide))
    (fun _ => Forest.Both.rowsAt_eq_nil (fun _ => Forest.Leaves.rowsAt_eq_nil (by decide))
      (fun _ => Forest.Leaves.rowsAt_eq_nil (by decide)) _) f h

/-- **Obstacles are stored, with their types as confidence.** -/
theorem grows_obslistSql (camId : Int64) (es : List (ObstacleData σ)) :
    Grows print content I carried (insertEach (obslistSql splitId camId) es)
      (ObstacleForest content splitId (·.obsType) camId es) := by
  refine grows_insertEach (t := obstacleData) (fun _ _ _ => ObstacleKids.rowsAt_eq_nil)
    fun i o _ => ?_
  rw [obslistSql, yields_bind, yields_nextId]
  intro id _
  rw [yields_bind]
  refine yields_append (obstacleDataRow content splitId (·.obsType) camId id o)
    (Table.stores rfl rfl) fun text htext => ?_
  have hpolygon : Grows print content I carried
      (optionally o.polygon fun polygon => insertEach (obspolySql splitId id) polygon.pos)
      (ObstacleKids splitId id o) :=
    grows_optionally fun polygon =>
      grows_leaves (t := obstacleDataPosition3D) (fun _ _ => Table.stores rfl rfl) polygon.pos
  refine hpolygon.bind fun ds ss F hF hbF => ?_
  rw [yields_pure]
  simp only [List.nil_append, List.append_nil]
  exact .of_bears htext List.filter_sublist.subperm hF hbF

/-- **Advices are stored, with `0` as the vehicle's information.** -/
theorem grows_rscSql (camId : Int64) (es : List (RscData σ)) :
    Grows print content I carried (insertEach (rscSql splitId camId) es)
      (RscForest content splitId (fun _ => 0) camId es) := by
  refine grows_insertEach (t := rscData) (fun _ _ _ => RscKids.rowsAt_eq_nil) fun i r _ => ?_
  rw [rscSql, yields_bind, yields_nextId]
  intro id _
  have hsuggested : Grows print content I carried
      (optionally ((r.coordinates.bind (·.driveSuggestion)).bind (·.relatedPath)) fun path =>
        insertEach (rscDriveSugPosSql splitId id) path.activePath)
      (PositionForest splitId "rsc_data_drive_suggestion_position_3_d" "rsc_data_id" id _) :=
    grows_optionally fun path =>
      grows_leaves (t := rscDataDriveSuggestionPosition3D) (fun _ _ => Table.stores rfl rfl) _
  have hplanned : Grows print content I carried
      (optionally (r.coordinates.bind (·.pathGuidance)) fun guidance =>
        insertEach (rscPathPlanningSql splitId id) guidance.pathPlanning)
      (Forest.Leaves "rsc_data_path_planning_point"
        (pathPlanningPointRow splitId "rsc_data_id" id) _) :=
    grows_optionally fun guidance =>
      grows_leaves (t := rscDataPathPlanningPoint) (fun _ _ => Table.stores rfl rfl) _
  have hlane : Grows print content I carried
      (optionally (r.laneCoordinates.bind (·.relatedPath)) fun path =>
        insertEach (rscLaneCoorPosSql splitId id) path.activePath)
      (PositionForest splitId "rsc_data_lane_coordination_position_3_d" "rsc_data_id" id _) :=
    grows_optionally fun path =>
      grows_leaves (t := rscDataLaneCoordinationPosition3D) (fun _ _ => Table.stores rfl rfl) _
  refine hsuggested.bind fun ds₁ ss₁ F hF hbF => hplanned.bind fun ds₂ ss₂ G hG hbG =>
    hlane.bind fun ds₃ ss₃ H hH hbH => ?_
  refine yields_append (rscDataRow content splitId (fun _ => 0) camId id r) (Table.stores rfl rfl)
    fun text htext => ?_
  have hplanted : Planted rscData content carried (rscDataRow content splitId (fun _ => 0) camId)
      (RscKids splitId) i r ([id] ++ (ds₁ ++ (ds₂ ++ ds₃))) (ss₁ ++ (ss₂ ++ ss₃)) text :=
    .of_bears htext List.filter_sublist.subperm ⟨F, _, rfl, hF, G, H, rfl, hG, hH⟩
      (hbF.append (hbG.append hbH))
  simpa only [List.append_nil, List.nil_append] using hplanted

/-! ## The columns -/

/-- The column can be read off the row. -/
theorem obstacleDataRow_inj {cfd cfd' : ObstacleData σ → Int32} {camId id id' : Int64}
    {o : ObstacleData σ}
    (h : obstacleDataRow content splitId cfd camId id o =
      obstacleDataRow content splitId cfd' camId id' o) :
    cfd o = cfd' o := by
  simp only [obstacleDataRow, List.cons.injEq, Prod.mk.injEq, true_and, and_true, int32_inj] at h
  exact h.2

theorem rscDataRow_inj {info info' : Option CoordinationInfo → Int32} {camId id id' : Int64}
    {r : RscData σ}
    (h : rscDataRow content splitId info camId id r =
      rscDataRow content splitId info' camId id' r) :
    info (r.coordinates.bind (·.info)) = info' (r.coordinates.bind (·.info)) := by
  simp only [rscDataRow, List.cons.injEq, Prod.mk.injEq, true_and, and_true, int32_inj] at h
  exact h.2

/-- What a vehicle is told, zero if nothing. -/
def coordinationInfoOf (info : Option CoordinationInfo) : Int32 := info.elim 0 (·.coordinationInfo)

/-! ## The strings -/

/-- The strings of an obstacle. -/
def ObstacleData.texts (o : ObstacleData σ) : List σ :=
  o.deviceIdList :: (o.mapLocation.map (·.linkName)).toList

/-- The strings of an advice. -/
def RscData.texts (r : RscData σ) : List σ :=
  r.rsuId :: ((r.coordinates.map (·.vehId)).toList ++
    (r.laneCoordinates.map (·.description)).toList)

theorem long_obstacleData : obstacleData.Long := .of_chars rfl (by decide +kernel)

theorem long_rscData : rscData.Long := .of_chars rfl (by decide +kernel)

variable {D : σ → Prop} {R : Prop}

/-- Obstacles: their statements are executed if their strings are admitted. -/
theorem admits_obslistSql (camId : Int64) (os : List (ObstacleData σ)) :
    Admits print D (insertEach (obslistSql splitId camId) os)
      ((∀ s ∈ os.flatMap (·.texts), D s) ∧ R) (fun _ => True) fun _ => R := by
  refine admits_insertEach fun i o R => demands_nextId.bind fun id _ => ?_
  refine (admits_append_own rfl (by simp [ObstacleData.texts]) long_obstacleData).bind
    fun text htext => ?_
  exact Demands.bind (admits_optionally_nil fun polygon => admits_insertEach_nil fun _ _ _ =>
    demands_nextId.bind fun _ _ => admits_append_nil rfl rfl) fun _ _ => admits_pure htext

theorem admits_rscSql (camId : Int64) (rs : List (RscData σ)) :
    Admits print D (insertEach (rscSql splitId camId) rs)
      ((∀ s ∈ rs.flatMap (·.texts), D s) ∧ R) (fun _ => True) fun _ => R := by
  refine admits_insertEach fun i r R => demands_nextId.bind fun id _ => ?_
  refine (admits_optionally_nil fun path => admits_insertEach_nil fun _ _ _ =>
    demands_nextId.bind fun _ _ => admits_append_nil rfl rfl).bind fun _ _ => ?_
  refine (admits_optionally_nil fun guidance => admits_insertEach_nil fun _ _ _ =>
    demands_nextId.bind fun _ _ => admits_append_nil rfl rfl).bind fun _ _ => ?_
  refine (admits_optionally_nil fun path => admits_insertEach_nil fun _ _ _ =>
    demands_nextId.bind fun _ _ => admits_append_nil rfl rfl).bind fun _ _ => ?_
  exact admits_append_own rfl (by simp [RscData.texts]) long_rscData

/-! ## When it is as it should be -/

theorem PositionForest.alike {table parent t : String} {parentId parentId' : Int64}
    {ps : List Position3D} {f f' : Forest Int64 Row}
    (h : PositionForest splitId table parent parentId ps f)
    (h' : PositionForest splitId table parent parentId' ps f') :
    Forest.Alike rowLetters t f f' := by
  refine Forest.Leaves.alike (fun p id id' => ?_) h h'
  simp only [rowLetters, positionRow, List.map_cons, letters_int32, letters_int64]

/-- What is below an advice shows no strings, whatever identifier it is under. -/
theorem RscKids.alike {t : String} {id id' : Int64} {r : RscData σ} {f f' : Forest Int64 Row}
    (h : RscKids splitId id r f) (h' : RscKids splitId id' r f') :
    Forest.Alike rowLetters t f f' := by
  obtain ⟨f₁, f, rfl, hf₁, hf⟩ := h
  obtain ⟨f₁', f', rfl, hf₁', hf'⟩ := h'
  obtain ⟨f₂, f₃, rfl, hf₂, hf₃⟩ := hf
  obtain ⟨f₂', f₃', rfl, hf₂', hf₃'⟩ := hf'
  have hplanned : Forest.Alike rowLetters t f₂ f₂' := by
    refine Forest.Leaves.alike ?_ hf₂ hf₂'
    exact fun p id id' => rowLetters_pathPlanningPointRow
  exact (hf₁.alike hf₁').append (hplanned.append (hf₃.alike hf₃'))

/-- The strings in the row do not depend on what stands for the confidence. -/
theorem rowLetters_obstacleDataRow {cfd cfd' : ObstacleData σ → Int32} {camId id id' : Int64}
    {o : ObstacleData σ} : rowLetters (obstacleDataRow content splitId cfd camId id o)
      = rowLetters (obstacleDataRow content splitId cfd' camId id' o) := by
  simp only [rowLetters, obstacleDataRow, List.map_cons, letters_int32, letters_int64]

theorem rowLetters_rscDataRow {info info' : Option CoordinationInfo → Int32} {camId id id' : Int64}
    {r : RscData σ} : rowLetters (rscDataRow content splitId info camId id r)
      = rowLetters (rscDataRow content splitId info' camId id' r) := by
  simp only [rowLetters, rscDataRow, List.map_cons, letters_int32, letters_int64]

/-- **The obstacles are stored as in the message** exactly if the statements fit, the strings are
literal, and each type is the number of its confidence. -/
theorem obstacles_iff (ids : ℕ → Int64) (n : ℕ) (camId : Int64) (c : CamData σ) :
    ((insertEach (obslistSql splitId camId) c.obstacleList).run (printed content) ids n).Delivers
        (fun _ ss _ => StoredAs (printed content) obstacleTables
          (ObstacleForest content splitId (·.obstypeCfd.toInt32) camId c.obstacleList) ss) ↔
      Fits (printed content) ids (insertEach (obslistSql splitId camId) c.obstacleList) n ∧
        (∀ s ∈ c.obstacleList.flatMap (·.texts), isLiteral (content s) = true) ∧
        ∀ o ∈ c.obstacleList, o.obsType = o.obstypeCfd.toInt32 := by
  refine Grows.delivered_iff (grows_obslistSql content [] camId c.obstacleList)
    (always_insertEach (always_obslistSql camId) c.obstacleList) (.head _)
    (admits_obslistSql camId c.obstacleList) (fun _ _ _ => ObstacleKids.rowsAt_eq_nil)
    (fun _ _ _ _ _ _ => PositionForest.alike) (fun _ _ _ => rowLetters_obstacleDataRow content)
    (fun o id heq => ?_) (fun o _ _ heq => obstacleDataRow_inj content heq) ids n
  rw [obstacleDataRow, obstacleDataRow, heq]

/-- So are the advices, exactly if the information for every vehicle is `0`. -/
theorem coordinations_iff (ids : ℕ → Int64) (n : ℕ) (camId : Int64) (c : CamData σ) :
    ((insertEach (rscSql splitId camId) c.rscList).run (printed content) ids n).Delivers
        (fun _ ss _ => StoredAs (printed content) rscTables
          (RscForest content splitId coordinationInfoOf camId c.rscList) ss) ↔
      Fits (printed content) ids (insertEach (rscSql splitId camId) c.rscList) n ∧
        (∀ s ∈ c.rscList.flatMap (·.texts), isLiteral (content s) = true) ∧
        ∀ r ∈ c.rscList, coordinationInfoOf (r.coordinates.bind (·.info)) = 0 := by
  refine Grows.delivered_iff (grows_rscSql content [] camId c.rscList)
    (always_insertEach (always_rscSql camId) c.rscList) (.head _) (admits_rscSql camId c.rscList)
    (fun _ _ _ => RscKids.rowsAt_eq_nil) (fun _ _ _ _ _ _ => RscKids.alike)
    (fun _ _ _ => rowLetters_rscDataRow content) (fun r id heq => ?_)
    (fun r _ _ heq => (rscDataRow_inj content heq).symm) ids n
  rw [rscDataRow, rscDataRow, heq]

/-! ## Room -/

/-- How many bytes of strings the buffers have room for. -/
theorem holds_obstacleTables : obstacleData.Holds 30000 ∧ obstacleDataPosition3D.Holds 0 :=
  ⟨.of_chars rfl rfl (by decide +kernel), .of_chars rfl rfl (by decide +kernel)⟩

theorem holds_rscTables :
    rscData.Holds 30000 ∧ rscDataDriveSuggestionPosition3D.Holds 0 ∧
      rscDataPathPlanningPoint.Holds 0 ∧ rscDataLaneCoordinationPosition3D.Holds 0 :=
  ⟨.of_chars rfl rfl (by decide +kernel), .of_chars rfl rfl (by decide +kernel),
    .of_chars rfl rfl (by decide +kernel), .of_chars rfl rfl (by decide +kernel)⟩

/-- The strings in the tuple of an obstacle. -/
def obstacleStrings (o : ObstacleData σ) : List (Arg σ) :=
  [.str o.deviceIdList, .str (o.mapLocation.map (·.linkName))]

/-- The strings in the tuple of a coordination. -/
def rscStrings (r : RscData σ) : List (Arg σ) :=
  [.str r.rsuId, .str (r.coordinates.map (·.vehId)),
   .str (r.laneCoordinates.map (·.description))]

/-- Short strings fit. -/
theorem fits_obslistSql {es : List (ObstacleData σ)}
    (h : ∀ o ∈ es, ((obstacleStrings o).map (Arg.bytes print)).sum ≤ 30000) (ids : ℕ → Int64)
    (n : ℕ) (camId : Int64) : Fits print ids (insertEach (obslistSql splitId camId) es) n := by
  obtain ⟨hobstacle, hpoint⟩ := holds_obstacleTables
  refine (roomy_insertEach fun i o ho => roomy_nextId.bind fun id => ?_).fits ids n
  refine (hobstacle.roomy_append i ?_).bind fun sql => ?_
  · simpa only [obstacleStrings, List.map_cons, List.map_nil, List.sum_cons, Arg.bytes,
      Nat.zero_add] using h o ho
  refine (roomy_optionally fun polygon => roomy_insertEach fun k p _ => ?_).bind
    fun _ => roomy_pure sql
  exact hpoint.roomy_leaf k fun _ => rfl

theorem fits_rscSql {es : List (RscData σ)}
    (h : ∀ r ∈ es, ((rscStrings r).map (Arg.bytes print)).sum ≤ 30000) (ids : ℕ → Int64)
    (n : ℕ) (camId : Int64) : Fits print ids (insertEach (rscSql splitId camId) es) n := by
  obtain ⟨hrow, hsuggestion, hplanning, hcoordination⟩ := holds_rscTables
  refine (roomy_insertEach fun i r hr => roomy_nextId.bind fun id => ?_).fits ids n
  refine (roomy_optionally fun path => roomy_insertEach fun k p _ => ?_).bind fun _ => ?_
  · exact hsuggestion.roomy_leaf k fun _ => rfl
  refine (roomy_optionally fun guidance => roomy_insertEach fun k p _ => ?_).bind fun _ => ?_
  · refine roomy_nextId.bind fun id => hplanning.roomy_append k ?_
    simp only [List.map_cons, List.map_nil, List.sum_cons, List.sum_nil, Arg.bytes, Nat.add_zero,
      Nat.le_refl]
  refine (roomy_optionally fun path => roomy_insertEach fun k p _ => ?_).bind fun _ => ?_
  · exact hcoordination.roomy_leaf k fun _ => rfl
  refine hrow.roomy_append i ?_
  simpa only [rscStrings, List.map_cons, List.map_nil, List.sum_cons, Arg.bytes, Nat.zero_add]
    using h r hr

/-! ## Together -/

/-- **The rows of obstacles and coordinations say what the message says** exactly if their strings
are literal, the type of each obstacle is the number of its own confidence, and no vehicle is told
anything but zero. -/
theorem roadside_iff (content : σ → List Char) (ids : ℕ → Int64) (n : ℕ) (splitId : Int32)
    (camId : Int64) (c : CamData σ) :
    (((insertEach (obslistSql splitId camId) c.obstacleList).run (printed content) ids n).Delivers
        (fun _ ss _ => StoredAs (printed content) obstacleTables
          (ObstacleForest content splitId (·.obstypeCfd.toInt32) camId c.obstacleList) ss) ↔
      Fits (printed content) ids (insertEach (obslistSql splitId camId) c.obstacleList) n ∧
        (∀ s ∈ c.obstacleList.flatMap (·.texts), isLiteral (content s) = true) ∧
        ∀ o ∈ c.obstacleList, o.obsType = o.obstypeCfd.toInt32) ∧
    (((insertEach (rscSql splitId camId) c.rscList).run (printed content) ids n).Delivers
        (fun _ ss _ => StoredAs (printed content) rscTables
          (RscForest content splitId coordinationInfoOf camId c.rscList) ss) ↔
      Fits (printed content) ids (insertEach (rscSql splitId camId) c.rscList) n ∧
        (∀ s ∈ c.rscList.flatMap (·.texts), isLiteral (content s) = true) ∧
        ∀ r ∈ c.rscList, coordinationInfoOf (r.coordinates.bind (·.info)) = 0) :=
  ⟨obstacles_iff content ids n camId c, coordinations_iff content ids n camId c⟩

/-- An obstacle of type one and a vehicle that is told something, of which nothing else is known. -/
def typeAndInfo : CamData (List Char) :=
  { CamData.blank [] with
    obstacleList := [{ ObstacleData.blank [] with obsType := 1 }]
    rscList := [{
      msgCnt := 0, rsuId := [], timestamp := 0, pos := none
      coordinates := some { vehId := [], driveSuggestion := none, pathGuidance := none,
                            info := some { coordinationInfo := 1 } }
      laneCoordinates := none }] }

/-- An obstacle with a confidence and a vehicle with information: neither is stored as in the
message. -/
theorem not_roadside :
    Fits (printed id) (fun n => .ofNat n) (insertEach (obslistSql 1 1) typeAndInfo.obstacleList) 0 ∧
    Fits (printed id) (fun n => .ofNat n) (insertEach (rscSql 1 1) typeAndInfo.rscList) 0 ∧
    (¬((insertEach (obslistSql 1 1) typeAndInfo.obstacleList).run (printed id) (fun n => .ofNat n)
        0).Delivers fun _ ss _ => StoredAs (printed id) obstacleTables
          (ObstacleForest id 1 (·.obstypeCfd.toInt32) 1 typeAndInfo.obstacleList) ss) ∧
    ¬((insertEach (rscSql 1 1) typeAndInfo.rscList).run (printed id) (fun n => .ofNat n)
        0).Delivers fun _ ss _ => StoredAs (printed id) rscTables
          (RscForest id 1 coordinationInfoOf 1 typeAndInfo.rscList) ss := by
  refine ⟨fits_obslistSql (by decide) _ 0 1, fits_rscSql (by decide) _ 0 1,
    fun h => ?_, fun h => ?_⟩
  · have hcfd := ((obstacles_iff id _ 0 1 typeAndInfo).mp h).2.2
    revert hcfd
    decide
  · have hinfo := ((coordinations_iff id _ 0 1 typeAndInfo).mp h).2.2
    revert hinfo
    decide

end DataInsert

end Sadip
