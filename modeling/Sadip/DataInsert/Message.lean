import Mathlib.Data.Nat.Notation

/-!
# DataInsert/Message — `CamData`

The message of `v2x.proto`, with the fields that `camInsert` reads.  An enumeration is a number of
32 bits, also one that has no name for it; a message within a message may be absent; of a `oneof` at
most one case is set.  What a string is stays open: `σ`.
-/

namespace Sadip

namespace DataInsert

/-- From when to when an event or a sign holds. -/
structure RsiTimeDetails where
  (startTime endTime : UInt64)
  endTimeConfidence : Int32

/-- A place: latitude and longitude in `1e-7` degrees, elevation in `0.1 m`. -/
structure Position3D where
  (lat lon ele : Int32)

/-- How far the position is trusted, as classes from 500 m down to 1 cm. -/
structure PositionConfidenceSet where
  (posConfid eleConfid : Int32)

/-- The size of an object: width and length in centimetres, height in steps of five. -/
structure ParticipantSize where
  (width length height : UInt32)

structure ParticipantSizeConfidence where
  (widthConfid lengthConfid heightConfid : Int32)

/-- The corners of a region. -/
structure Polygon where
  pos : List Position3D

/-- An intersection: a region, from the first two decimals of its coordinates, and a number within
it, from the next two. -/
structure NodeReferenceId where
  (region nodeId : UInt32)

/-- A stretch of road under a detector, at the intersection that the flow names. -/
structure DetectorArea where
  areaId : Int32
  setTime : Int64
  polygon : Option Polygon
  nodeId : Option NodeReferenceId
  laneId : Int32

/-- Acceleration along the axes, in `0.01 m/s²` and vertically in `0.02 g`, and the yaw rate. -/
structure AccelerationSet4Way where
  (lat lon vert yaw : Int32)

structure AccelerationConfidence where
  (lonAccelConfid latAccelConfid verticalAccelConfid yawRateConfid : Int32)

/-- How far speed, heading and steering angle are trusted. -/
structure MotionConfidenceSet where
  (speedCfd headingCfd steerCfd : Int32)

structure VehicleSize where
  (width length height : Int32)

/-- Where on the map something is; each part may be left out. -/
structure MapLocation (σ : Type) where
  nodeId : Option NodeReferenceId
  linkName : σ
  upstreamNodeId : Option NodeReferenceId
  (sectionId laneId : UInt32)

/-- A set of lanes: bit `k` stands for lane `k`, counted from the left, up to fifteen. -/
structure ReferenceLanes where
  referenceLanes : UInt32

/-- A path with its radius, in `0.1 m`. -/
structure ReferencePath where
  activePath : List Position3D
  pathRadius : UInt32

/-- A directed link between two intersections, with the lanes of it that are meant. -/
structure ReferenceLink where
  (upstreamNodeId downstreamNodeId : Option NodeReferenceId)
  referenceLanes : Option ReferenceLanes

/-- Statistics of an intersection. -/
structure NodeStatInfo where
  nodeId : Option NodeReferenceId

/-- Statistics of a directed link, which ends at the intersection of `nodeStatInfo`. -/
structure LinkStatInfo (σ : Type) where
  upstreamNodeId : Option NodeReferenceId
  name : σ
  nodeStatInfo : Option NodeStatInfo
  extId : σ

/-- Statistics of a section of a link. -/
structure SectionStatInfo (σ : Type) where
  sectionId : UInt32
  linkStatInfo : Option (LinkStatInfo σ)
  extId : σ

/-- Statistics of a lane, with the link and the section it lies in. -/
structure LaneStatInfo (σ : Type) where
  laneId : UInt32
  linkStatInfo : Option (LinkStatInfo σ)
  sectionStatInfo : Option (SectionStatInfo σ)
  extId : σ

/-- Statistics of a turn towards the next intersection. -/
structure MovementStatInfo (σ : Type) where
  remoteIntersection : Option NodeReferenceId
  turnDirection : Int32
  nodeStatInfo : Option NodeStatInfo
  extId : σ

structure TrafficFlowStatByInterval where
  interval : UInt32

/-- Counted over one cycle of the signal, whose bounds are seconds since 1970. -/
structure TrafficFlowStatBySignalCycle where
  (cycleStartTime cycleEndTime : UInt64)
  cycleTime : UInt32

/-- How a flow was counted: over a fixed time or over a cycle; the message may carry both. -/
structure TrafficFlowStatType where
  interval : Option TrafficFlowStatByInterval
  sequence : Option TrafficFlowStatBySignalCycle

/-- A `oneof`: what of the map one set of counts belongs to. -/
inductive TrafficFlowStatMapElement (σ : Type)
  | notSet
  | detectorArea (d : DetectorArea)
  | laneStatInfo (l : LaneStatInfo σ)
  | sectionStatInfo (s : SectionStatInfo σ)
  | linkStatInfo (l : LinkStatInfo σ)
  | nodeStatInfo (n : NodeStatInfo)
  | movementStatInfo (m : MovementStatInfo σ)

/-- Further figures of a lane: flow in `0.01 pcu/h`, shares in `0.01 %`, queues in `0.01 m`. -/
structure LaneIndexAdded where
  timestamp : UInt64
  (laneCapacity laneSaturation laneSpaceOccupy laneTimeOccupy laneAvgGrnQueue : UInt32)
  laneGrnUtilization : UInt32

/-- The same figures of the approach to an intersection. -/
structure LinkIndexAdded where
  timestamp : UInt64
  (linkCapacity linkSaturation linkSpaceOccupy linkTimeOccupy linkAvgGrnQueue : UInt32)
  linkGrnUtilization : UInt32

/-- The same figures of a turn. -/
structure MovementIndexAdded where
  timestamp : UInt64
  (movementCapacity movementSaturation movementSpaceOccupy movementTimeOccupy : UInt32)
  (movementAvgGrnQueue movementGrnUtilization : UInt32)

/-- The same figures of an intersection as a whole; only its capacity has 64 bits. -/
structure NodeIndexAdded where
  timestamp : UInt64
  (nodeSpaceOccupy nodeTimeOccupy : UInt32)
  nodeCapacity : UInt64
  (nodeSaturation nodeGrnUtilization nodeAvgGrnQueue demandIndex supplyIndex theoryIndex : UInt32)

/-- What a phase of the signal did: the queues when it turned green and red, and the use of the
green. -/
structure SignalControlIndexAdded where
  (phaseId greenStartQueue redStartQueue greenUtilization : UInt32)

/-- The further figures, a list for each kind of map element. -/
structure TrafficFlowExtension where
  laneIndex : List LaneIndexAdded
  linkIndex : List LinkIndexAdded
  movementIndex : List MovementIndexAdded
  nodeIndex : List NodeIndexAdded
  signalIndex : List SignalControlIndexAdded

/-- One set of counts, bound to one map element. -/
structure TrafficFlowStat (σ : Type) where
  mapElement : Option (TrafficFlowStatMapElement σ)
  (ptcType vehicleType : Int32)
  timestamp : UInt64
  (volume speedPoint speedArea density travelTime delay queueLength queueInt congestion : UInt32)
  trafficFlowExtension : Option TrafficFlowExtension
  (timeHeadway spaceHeadway stopNums : UInt32)

/-- The counts of one intersection, with the time at which they were taken together. -/
structure TrafficFlow (σ : Type) where
  nodeId : Option NodeReferenceId
  genTime : UInt64
  statType : Option TrafficFlowStatType
  stats : List (TrafficFlowStat σ)

/-- The countdown of a light, counted from now: this turn of it and the next. -/
structure TimeCountingDown where
  (startTime minEndTime maxEndTime likelyEndTime : UInt32)
  timeConfidence : Int32
  (nextStartTime nextDuration : UInt32)

/-- A light of a phase, with its countdown. -/
structure PhaseState where
  light : Int32
  timing : Option TimeCountingDown

structure Phase where
  id : UInt32
  phaseStates : List PhaseState

/-- What the signals of one intersection show. -/
structure IntersectionState (σ : Type) where
  intersectionId : Option NodeReferenceId
  status : σ
  timestamp : UInt64
  timeConfidence : Int32
  phases : List Phase

/-- The signals' states, of all intersections in range. -/
structure SpatData (σ : Type) where
  msgCnt : UInt32
  timestamp : UInt64
  intersections : List (IntersectionState σ)

structure LocalTimePoint where
  (hh mm ss : Int32)

/-- The days on which a plan holds, and from when to when on such a day. -/
structure PeriodictimeSpan where
  (monthFilter dayFilter weekdayFilter : Int32)
  (fromTimePoint toTimePoint : Option LocalTimePoint)

structure SingleTimeSpan where
  (startTime endTime : UInt64)

/-- A `oneof`: a plan holds once or periodically. -/
inductive OptimTimeType
  | notSet
  | single (s : SingleTimeSpan)
  | periodic (p : PeriodictimeSpan)

/-- A turn that a phase lets through. -/
structure MovementEx where
  remoteIntersection : Option NodeReferenceId
  phaseId : UInt32
  turnDirection : Int32

/-- A phase of a plan: its place in the order, its turns and its times in seconds. -/
structure OptimPhase where
  (phaseId order : UInt32)
  movementId : List MovementEx
  (phaseTime green phaseYellowTime phaseAllRedTime minGreen maxGreen : UInt32)

/-- A plan of the signal for one span of time. -/
structure OptimData (σ : Type) where
  optimTimeType : Option OptimTimeType
  (optimCycleTime minCycleTime maxCycleTime : UInt32)
  optimPhaseList : List OptimPhase
  coorPhase : σ
  offset : UInt32

/-- The plans proposed for one intersection. -/
structure SignalScheme (σ : Type) where
  nodeId : Option NodeReferenceId
  optimType : UInt32
  timestamp : UInt64
  optimDataList : List (OptimData σ)

/-- The seven states of the brakes, with the force on the pedal in `0.1 %`. -/
structure BrakeSystemStatus where
  brakePadel : Int32
  wheelBrakes : UInt32
  (traction abs scs brakeBoost auxBrakes : Int32)
  brakeControl : UInt32

/-- The ellipse of the position's error. -/
structure PositionAccuracy where
  (semiMajor semiMinor orientation : Int32)

structure ThrottleSystemStatus where
  thorttleControl : UInt32
  (throttlePadel wheelThrottles : Int32)

/-- What a vehicle says of itself. -/
structure BsmData (σ : Type) where
  (obuId plateNo : σ)
  timestamp : UInt64
  pos : Option Position3D
  posConfid : Option PositionConfidenceSet
  posAccuracy : Option PositionAccuracy
  acceleration : Option AccelerationSet4Way
  transmission : Int32
  (speed heading : UInt32)
  steeringWheelAngle : Int32
  motionConfid : Option MotionConfidenceSet
  brakes : Option BrakeSystemStatus
  throttle : Option ThrottleSystemStatus
  size : Option VehicleSize
  (vehicleType fuelType driveModedriveStatus emergencyStatus : Int32)
  light : UInt32
  (wiper outofControl : Int32)
  endurance : UInt32

/-- A point of the path behind an object, `timeOffset` steps of 10 ms ago. -/
structure PathHistoryPoint where
  pos : Option Position3D
  (timeOffset speed : UInt32)
  posConfid : Option PositionConfidenceSet
  heading : UInt32

/-- A road user that the roadside sees; `ptcId` stays the same as long as it is followed. -/
structure ParticipantData (σ : Type) where
  ptcId : UInt64
  (ptcType dataSource : Int32)
  deviceIdList : σ
  timestamp : UInt64
  timeConfidence : Int32
  ptcPos : Option Position3D
  mapLocation : Option (MapLocation σ)
  posConfid : Option PositionConfidenceSet
  (speed heading : UInt32)
  motionConfid : Option MotionConfidenceSet
  accelSet : Option AccelerationSet4Way
  accelerationConfid : Option AccelerationConfidence
  ptcSize : Option ParticipantSize
  vehicleBand : σ
  vehicleType : Int32
  plateNo : σ
  (plateType plateColor vehicleColor : Int32)
  ptcSizeConfid : Option ParticipantSizeConfidence
  ptcTypeExt : Int32
  (ptcTypeExtConfid statusDuration : UInt32)
  pathHistory : List PathHistoryPoint
  tracking : UInt32
  polygon : Option Polygon
  id : UInt64

/-- Something in the road that is no road user. -/
structure ObstacleData (σ : Type) where
  obsId : UInt64
  obsType : Int32
  obstypeCfd : UInt32
  obsSource : Int32
  timestamp : UInt64
  deviceIdList : σ
  obsPos : Option Position3D
  posConfid : Option PositionConfidenceSet
  mapLocation : Option (MapLocation σ)
  (speed heading : UInt32)
  motionConfid : Option MotionConfidenceSet
  verSpeed : UInt32
  verSpeedConfid : Int32
  acceleration : Option AccelerationSet4Way
  size : Option ParticipantSize
  obsSizeConfid : Option ParticipantSizeConfidence
  tracking : UInt32
  polygon : Option Polygon

/-- A road user or an obstacle that has a part in an event. -/
structure ObjIdValue where
  (ptcId obsId : UInt64)
  role : Int32

/-- An event on the road, with the paths and links it concerns and the objects that take part. -/
structure RteData (σ : Type) where
  (rteId rteType : UInt32)
  description : σ
  (eventSource dataSource : Int32)
  deviceIdList : σ
  rtePos : Option Position3D
  mapLocation : Option (MapLocation σ)
  eventRadius : UInt32
  timeDetails : Option RsiTimeDetails
  priority : σ
  referencePath : List ReferencePath
  referenceLinks : List ReferenceLink
  eventObjId : List ObjIdValue
  eventConfid : Int32
  (eventImages eventVideos : σ)
  id : UInt64

/-- A traffic sign, with the paths and links it holds for. -/
structure RtsData (σ : Type) where
  (rtsId rtsType dataSource : Int32)
  priority : σ
  rtsPos : Option Position3D
  timeDetails : Option RsiTimeDetails
  description : σ
  refPathList : List ReferencePath
  refLinkList : List ReferenceLink
  pathRadius : UInt32

structure ReqLaneChange where
  (upStreamNode downStreamNode : Option NodeReferenceId)
  targetLane : UInt32

/-- The request to clear a lane; it has the fields of `ReqLaneChange`. -/
structure ReqClearTheWay where
  (upStreamNode downStreamNode : Option NodeReferenceId)
  targetLane : UInt32

/-- The request for a green light at an intersection, for one turn. -/
structure ReqSignalPriority (σ : Type) where
  intersectionId : Option NodeReferenceId
  requiredMove : Option (MovementStatInfo σ)
  (estimatedArrivalTime distance2Intersection : UInt32)

/-- The request for what the roadside sees along some paths. -/
structure ReqSensorSharing where
  detectorArea : List ReferencePath

structure ParkingRequest where
  req : UInt32

structure ParkingType where
  parkingType : UInt32

/-- The request to enter a parking area. -/
structure ReqParkingArea where
  vehicleType : Int32
  req : Option ParkingRequest
  parkingType : Option ParkingType
  expectedParkingSlotId : UInt32

/-- A `oneof`: what a vehicle asks for. -/
inductive ReqInfo (σ : Type)
  | notSet
  | laneChange (l : ReqLaneChange)
  | clearTheWay (c : ReqClearTheWay)
  | signalPriority (s : ReqSignalPriority σ)
  | sensorSharing (s : ReqSensorSharing)
  | parking (p : ReqParkingArea)

/-- One request of a vehicle; `reqId` stays the same as long as it is repeated. -/
structure DriveRequest (σ : Type) where
  reqId : UInt32
  status : Int32
  (reqPriority targetVeh targetRsu : σ)
  info : Option (ReqInfo σ)
  lifeTime : UInt32

structure DriveBehavior where
  driveBehavior : Int32

/-- A point of the way a vehicle means to take, and when it expects to be there. -/
structure PathPlanningPoint where
  pos : Option Position3D
  posConfid : Option PositionConfidenceSet
  (speed heading : UInt32)
  (speedConfid headingConfid : Int32)
  acceleration : Option AccelerationSet4Way
  accelerationConfid : Option AccelerationConfidence
  estimatedTime : UInt32
  timeConfidence : Int32
  posInMap : Option ReferenceLink

structure PathPlanning where
  pathPlanning : List PathPlanningPoint

/-- Intentions and requests of a vehicle. -/
structure IarData (σ : Type) where
  currentPos : Option PathPlanningPoint
  pathPlanning : Option PathPlanning
  currentBehavior : Option DriveBehavior
  reqs : List (DriveRequest σ)

/-- A vehicle's intentions and requests, under the identifier it has in `BsmData`. -/
structure VirData (σ : Type) where
  msgCnt : UInt32
  vehicleId : σ
  timestamp : UInt64
  pos : Option Position3D
  intAndReq : Option (IarData σ)

/-- What a vehicle had better do, where a link or a path may have to fit first. -/
structure DriveSuggestion where
  suggestion : Option DriveBehavior
  timeOffset : UInt32
  relatedLink : Option ReferenceLink
  relatedPath : Option ReferencePath

/-- Further facts about a coordination, one a bit. -/
structure CoordinationInfo where
  coordinationInfo : Int32

/-- What the roadside advises one vehicle. -/
structure VehicleCoordination (σ : Type) where
  vehId : σ
  driveSuggestion : Option DriveSuggestion
  pathGuidance : Option PathPlanning
  info : Option CoordinationInfo

/-- What the roadside advises the vehicles in a lane, for a span of time in milliseconds. -/
structure LaneCoordination (σ : Type) where
  targetLane : Option ReferenceLink
  relatedPath : Option ReferencePath
  (tBegin tEnd : UInt64)
  recommendedSpeed : UInt32
  recommendedBehavior : Option DriveBehavior
  info : Option CoordinationInfo
  description : σ

/-- The roadside's advice: to one vehicle, to a lane, or both. -/
structure RscData (σ : Type) where
  msgCnt : UInt32
  rsuId : σ
  timestamp : UInt64
  pos : Option Position3D
  coordinates : Option (VehicleCoordination σ)
  laneCoordinates : Option (LaneCoordination σ)

/-- The message as a whole: what the roadside unit saw, and how it advises. -/
structure CamData (σ : Type) where
  type : UInt32
  ver : σ
  msgCnt : UInt32
  timestamp : UInt64
  (deviceId mapDeviceId : σ)
  refPos : Option Position3D
  sceneType : Int32
  ptcList : List (ParticipantData σ)
  obstacleList : List (ObstacleData σ)
  rteList : List (RteData σ)
  rtsList : List (RtsData σ)
  bsmList : List (BsmData σ)
  virList : List (VirData σ)
  rscList : List (RscData σ)
  roadSignalState : Option (SpatData σ)
  trafficFlow : List (TrafficFlow σ)
  signalSchemeList : List (SignalScheme σ)
  detectedRegion : List Polygon
  (toAlgorithmTime toDatabusTime toCloudTime id : UInt64)

/-! What is read of a message that may be absent. -/

/-- The region as the statements print it: `%d`, so `region` is taken as a signed number; `0` when
absent. -/
def regionOf (n : Option NodeReferenceId) : Int32 := n.elim 0 (·.region.toInt32)

def nodeIdOf (n : Option NodeReferenceId) : Int32 := n.elim 0 (·.nodeId.toInt32)

def latOf (p : Option Position3D) : Int32 := p.elim 0 (·.lat)

def lonOf (p : Option Position3D) : Int32 := p.elim 0 (·.lon)

def eleOf (p : Option Position3D) : Int32 := p.elim 0 (·.ele)

/-! Messages in which nothing is set, with `s` for every string. -/

variable {σ : Type}

/-- An event with nothing set. -/
def RteData.blank (s : σ) : RteData σ where
  rteId := 0
  rteType := 0
  description := s
  eventSource := 0
  dataSource := 0
  deviceIdList := s
  rtePos := none
  mapLocation := none
  eventRadius := 0
  timeDetails := none
  priority := s
  referencePath := []
  referenceLinks := []
  eventObjId := []
  eventConfid := 0
  eventImages := s
  eventVideos := s
  id := 0

def RtsData.blank (s : σ) : RtsData σ where
  rtsId := 0
  rtsType := 0
  dataSource := 0
  priority := s
  rtsPos := none
  timeDetails := none
  description := s
  refPathList := []
  refLinkList := []
  pathRadius := 0

def ObstacleData.blank (s : σ) : ObstacleData σ where
  obsId := 0
  obsType := 0
  obstypeCfd := 0
  obsSource := 0
  timestamp := 0
  deviceIdList := s
  obsPos := none
  posConfid := none
  mapLocation := none
  speed := 0
  heading := 0
  motionConfid := none
  verSpeed := 0
  verSpeedConfid := 0
  acceleration := none
  size := none
  obsSizeConfid := none
  tracking := 0
  polygon := none

def PathPlanningPoint.blank : PathPlanningPoint where
  pos := none
  posConfid := none
  speed := 0
  heading := 0
  speedConfid := 0
  headingConfid := 0
  acceleration := none
  accelerationConfid := none
  estimatedTime := 0
  timeConfidence := 0
  posInMap := none

def DriveRequest.blank (s : σ) : DriveRequest σ where
  reqId := 0
  status := 0
  reqPriority := s
  targetVeh := s
  targetRsu := s
  info := none
  lifeTime := 0

def VirData.blank (s : σ) : VirData σ where
  msgCnt := 0
  vehicleId := s
  timestamp := 0
  pos := none
  intAndReq := none

def ParticipantData.blank (s : σ) : ParticipantData σ where
  ptcId := 0
  ptcType := 0
  dataSource := 0
  deviceIdList := s
  timestamp := 0
  timeConfidence := 0
  ptcPos := none
  mapLocation := none
  posConfid := none
  speed := 0
  heading := 0
  motionConfid := none
  accelSet := none
  accelerationConfid := none
  ptcSize := none
  vehicleBand := s
  vehicleType := 0
  plateNo := s
  plateType := 0
  plateColor := 0
  vehicleColor := 0
  ptcSizeConfid := none
  ptcTypeExt := 0
  ptcTypeExtConfid := 0
  statusDuration := 0
  pathHistory := []
  tracking := 0
  polygon := none
  id := 0

/-- A message with nothing set. -/
def CamData.blank (s : σ) : CamData σ where
  type := 0
  ver := s
  msgCnt := 0
  timestamp := 0
  deviceId := s
  mapDeviceId := s
  refPos := none
  sceneType := 0
  ptcList := []
  obstacleList := []
  rteList := []
  rtsList := []
  bsmList := []
  virList := []
  rscList := []
  roadSignalState := none
  trafficFlow := []
  signalSchemeList := []
  detectedRegion := []
  toAlgorithmTime := 0
  toDatabusTime := 0
  toCloudTime := 0
  id := 0

end DataInsert

end Sadip
