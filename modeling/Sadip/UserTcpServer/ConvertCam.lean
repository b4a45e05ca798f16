import Sadip.CamQueues
import Sadip.DataInsert.Message
import Sadip.Machinery.Binary64
import Sadip.Machinery.Scale

/-!
# UserTcpServer/ConvertCam — `FusionPathDatas` to `CamData`, `cam-app/src/UserTcpServer.cpp`

`ConvertCam` copies the fields of the message one by one, and the node's own data from `nodeInfo_`.
Only the coordinates are rescaled.  So a quantity comes through if both messages count it in one
unit and its number is in both ranges or in neither; `FusionPosData` and `ParticipantData` have
different units for the speed and for the height.  The heading of a `ParticipantData` is that of the
vehicle's head, of which `objOri` tells; it gets the direction of motion.

`convertCam_iff` is the exact condition: a speed and a height of at most one unit, a head in the
direction of motion, nothing negative in a field without a sign, coordinates and an elevation in the
range of `Position3D`.
-/

namespace Sadip

namespace ConvertCam

open DataInsert CamQueues

/-! ## The messages of `FusionPathDatas.proto` -/

structure FusionPosData where
  (longitude lattitude : Binary64)
  (elevation speed objOri speedHeading objWidth objLength objHeight : Int32)

structure CameraPath where
  plateNo : String
  plateColor : Int32

structure RelOriPosData where
  deviceID : String

structure FusionPath where
  (objID objType objKind : Int32)
  objPosDatas : Option FusionPosData
  objVisionData : Option CameraPath
  oriPosDataList : List RelOriPosData

structure FusionPathDatas where
  (sendTime dataTime : Int64)
  pathList : List FusionPath

/-- `utility::node::nodeInfo_` -/
structure NodeInfo where
  camType_ : Int32
  (camVer_ deviceId_ mapDevId_ : String)
  (sceneType_ lat_ lon_ ele_ : Int32)

/-! ## `ConvertCam` -/

/-- `INTEGRATED` of `DataSource` -/
def INTEGRATED : Int32 := 7

/-- A string up to its first NUL. -/
def cStr (s : String) : String := String.ofList (s.toList.takeWhile (· ≠ Char.ofNat 0))

/-- The loop over `j`, with what `deviceIdList` holds. -/
def joinDeviceIds : ℕ → String → List RelOriPosData → String
  | _, deviceIdList, [] => deviceIdList
  | j, deviceIdList, d :: ds =>
      joinDeviceIds (j + 1)
        (if j = 0 then d.deviceID else deviceIdList ++ "," ++ d.deviceID) ds

/-- `degrees * 1e7` as an `int32_t`. -/
def toE7 (degrees : Binary64) : Option Int32 :=
  (degrees * Binary64.ofInt (10 ^ 7) (by norm_num)).toInt32

/-- The branch for `has_objposdatas`; a conversion may be undefined. -/
def setPos (pos : FusionPosData) (participant : ParticipantData String) :
    Option (ParticipantData String) := do
  let lat ← toE7 pos.lattitude
  let lon ← toE7 pos.longitude
  pure { participant with
    ptcPos := some ⟨lat, lon, pos.elevation⟩
    speed := pos.speed.toUInt32
    heading := pos.speedHeading.toUInt32
    ptcSize := some ⟨pos.objWidth.toUInt32, pos.objLength.toUInt32, pos.objHeight.toUInt32⟩ }

/-- The branch for `has_objvisiondata`. -/
def setVision (vision : CameraPath) (participant : ParticipantData String) :
    ParticipantData String :=
  { participant with
    plateNo := vision.plateNo
    plateColor := vision.plateColor }

/-- The body of the loop over `pathlist`. -/
def addPtc (dataTime : Int64) (path : FusionPath) : Option (ParticipantData String) := do
  let participant := { ParticipantData.blank "" with
    ptcId := path.objID.toInt64.toUInt64
    ptcType := path.objType
    dataSource := INTEGRATED
    vehicleType := path.objKind
    deviceIdList := joinDeviceIds 0 "" path.oriPosDataList
    timestamp := dataTime.toUInt64 }
  let participant ← path.objPosDatas.elim (pure participant) (setPos · participant)
  pure (path.objVisionData.elim participant (setVision · participant))

def makeCam (node : NodeInfo) (fusion : FusionPathDatas) (msgNum : UInt8) :
    Option (CamData String) := do
  let ptcList ← fusion.pathList.mapM (addPtc fusion.dataTime)
  pure { CamData.blank "" with
    type := node.camType_.toUInt32
    ver := cStr node.camVer_
    msgCnt := msgNum.toUInt32
    timestamp := fusion.dataTime.toUInt64
    sceneType := node.sceneType_
    toAlgorithmTime := fusion.sendTime.toUInt64
    deviceId := cStr node.deviceId_
    mapDeviceId := cStr node.mapDevId_
    refPos := some ⟨node.lat_, node.lon_, node.ele_⟩
    ptcList := ptcList }

variable {Paths : Type}

/-- `ConvertCam`, up to its calls on the queues. -/
def convertCam (node : NodeInfo) (fusion : FusionPathDatas) (msgNum : UInt8) :
    Option (List (Call (CamData String) Paths)) :=
  (makeCam node fusion msgNum).map CamQueues.convertCam

/-! ## What the fields say

The scales are those of the comments in the two `.proto` files, in metres, seconds and degrees.
-/

namespace FusionPosData

def elevationScale : Scale where
  least := -32767
  greatest := 32767
  unit := 1 / 10

def speedScale : Scale where
  least := -30000
  greatest := 35535
  unit := 1 / 100

/-- `objOri`, the direction of the head. -/
def objOriScale : Scale where
  least := 0
  greatest := 28799
  unit := 1 / 80

/-- `objWidth`, `objLength` and `objHeight`. -/
def sizeScale : Scale where
  least := 1
  greatest := 2 ^ 31 - 1
  unit := 1 / 100

end FusionPosData

namespace Position3D

def latScale : Scale where
  least := -900000000
  greatest := 900000000
  unit := 1 / 10 ^ 7

def lonScale : Scale where
  least := -1799999999
  greatest := 1800000000
  unit := 1 / 10 ^ 7

def eleScale : Scale where
  least := -4095
  greatest := 61439
  unit := 1 / 10

end Position3D

namespace ParticipantData

def speedScale : Scale where
  least := 0
  greatest := 2 ^ 32 - 1
  unit := 1 / 50

/-- `heading`, the direction of the head. -/
def headingScale : Scale where
  least := 0
  greatest := 28799
  unit := 1 / 80

/-- `width` and `length` -/
def sizeScale : Scale where
  least := 1
  greatest := 2 ^ 32 - 1
  unit := 1 / 100

def heightScale : Scale where
  least := 1
  greatest := 2 ^ 32 - 1
  unit := 1 / 20

end ParticipantData

/-- The field `w` without a sign tells what `v` says, and is not `v` wrapped around. -/
structure Unsigned (s t : Scale) (v : Int32) (w : UInt32) : Prop where
  not_wrapped : v.toInt < 0 → (w.toNat : ℤ) ≠ v.toInt + 2 ^ 32
  tells : t.Tells w.toNat (s.read v.toInt)

/-- The heading is the one that `objOri` tells, and not the negative number it is copied from,
wrapped around. -/
structure Heads (pos : FusionPosData) (heading : UInt32) : Prop where
  not_wrapped : pos.speedHeading.toInt < 0 →
    (heading.toNat : ℤ) ≠ pos.speedHeading.toInt + 2 ^ 32
  tells : ParticipantData.headingScale.Tells heading.toNat
    (FusionPosData.objOriScale.read pos.objOri.toInt)

/-- What `pos` says of where the object is, how it moves, where it heads and how large it is. -/
structure Measures (pos : FusionPosData) (p : ParticipantData String) : Prop where
  position : ∃ here, p.ptcPos = some here ∧
    Position3D.latScale.Tells here.lat.toInt pos.lattitude.value ∧
    Position3D.lonScale.Tells here.lon.toInt pos.longitude.value ∧
    Position3D.eleScale.Tells here.ele.toInt
      (FusionPosData.elevationScale.read pos.elevation.toInt)
  speed : Unsigned FusionPosData.speedScale ParticipantData.speedScale pos.speed p.speed
  heading : Heads pos p.heading
  size : ∃ size, p.ptcSize = some size ∧
    Unsigned FusionPosData.sizeScale ParticipantData.sizeScale pos.objWidth size.width ∧
    Unsigned FusionPosData.sizeScale ParticipantData.sizeScale pos.objLength size.length ∧
    Unsigned FusionPosData.sizeScale ParticipantData.heightScale pos.objHeight size.height

/-- Without position data nothing is said of it. -/
def MeasuresIfAny (p : ParticipantData String) : Option FusionPosData → Prop
  | none => p.ptcPos = none ∧ p.speed = 0 ∧ p.heading = 0 ∧ p.ptcSize = none
  | some pos => Measures pos p

structure SameParticipant (dataTime : Int64) (path : FusionPath) (p : ParticipantData String) :
    Prop where
  ptcId : (p.ptcId.toNat : ℤ) = path.objID.toInt
  kind : p.ptcType = path.objType ∧ p.dataSource = INTEGRATED ∧ p.vehicleType = path.objKind
  deviceIdList : p.deviceIdList = ",".intercalate (path.oriPosDataList.map (·.deviceID))
  timestamp : (p.timestamp.toNat : ℤ) = dataTime.toInt
  measures : MeasuresIfAny p path.objPosDatas
  plate : p.plateNo = path.objVisionData.elim "" (·.plateNo) ∧
    p.plateColor = path.objVisionData.elim 0 (·.plateColor)

structure SameCam (node : NodeInfo) (fusion : FusionPathDatas) (cam : CamData String) : Prop where
  type : (cam.type.toNat : ℤ) = node.camType_.toInt
  timestamp : (cam.timestamp.toNat : ℤ) = fusion.dataTime.toInt
  toAlgorithmTime : (cam.toAlgorithmTime.toNat : ℤ) = fusion.sendTime.toInt
  refPos : cam.refPos = some ⟨node.lat_, node.lon_, node.ele_⟩
  ptcList : List.Forall₂ (SameParticipant fusion.dataTime) fusion.pathList cam.ptcList

/-- One message goes to each of the two queues, and says what the fusion message says. -/
def Preserves (node : NodeInfo) (fusion : FusionPathDatas)
    (out : Option (List (Call (CamData String) Paths))) : Prop :=
  ∃ calls cam, out = some calls ∧ Pushes calls (camOnce cam) ∧ SameCam node fusion cam

/-! ## The condition -/

/-- The product with `1e7`, as a `double`, is between two bounds. -/
def Between (low high : ℤ) : Binary64 → Prop
  | .finite q _ => low < Binary64.rounded (q * 10 ^ 7) ∧ Binary64.rounded (q * 10 ^ 7) < high
  | .infinite _ => False
  | .nan => False

structure FusionPosData.Fits (pos : FusionPosData) : Prop where
  lattitude : Between (-900000001) 900000001 pos.lattitude
  longitude : Between (-1800000000) 1800000001 pos.longitude
  elevation : ¬ (-32767 ≤ pos.elevation.toInt ∧ pos.elevation.toInt ≤ -4096) ∧
    ¬ (32768 ≤ pos.elevation.toInt ∧ pos.elevation.toInt ≤ 61439)
  speed : pos.speed.toInt = 0 ∨ pos.speed.toInt = 1
  speedHeading : 0 ≤ pos.speedHeading.toInt
  /-- the vehicle moves where its head is, or neither direction is known -/
  objOri : pos.speedHeading.toInt = pos.objOri.toInt ∨ 28799 < pos.speedHeading.toInt ∧
    ¬ (0 ≤ pos.objOri.toInt ∧ pos.objOri.toInt ≤ 28799)
  objWidth : 0 ≤ pos.objWidth.toInt
  objLength : 0 ≤ pos.objLength.toInt
  objHeight : pos.objHeight.toInt = 0 ∨ pos.objHeight.toInt = 1

structure Fits (node : NodeInfo) (fusion : FusionPathDatas) : Prop where
  camType_ : 0 ≤ node.camType_.toInt
  dataTime : 0 ≤ fusion.dataTime.toInt
  sendTime : 0 ≤ fusion.sendTime.toInt
  objID : ∀ path ∈ fusion.pathList, 0 ≤ path.objID.toInt
  objPosDatas : ∀ path ∈ fusion.pathList, ∀ pos ∈ path.objPosDatas, pos.Fits

/-! ## Fields without a sign -/

theorem toNat_toUInt32 (v : Int32) :
    (v.toUInt32.toNat : ℤ) = if v.toInt < 0 then v.toInt + 2 ^ 32 else v.toInt := by
  have hbits : v.toUInt32.toNat = v.toBitVec.toNat := rfl
  have hint : v.toInt = v.toBitVec.toInt := rfl
  have hlt := v.toBitVec.isLt
  rw [hbits, hint, BitVec.toInt_eq_toNat_cond]
  split_ifs <;> omega

theorem toNat_toUInt64 (v : Int64) :
    (v.toUInt64.toNat : ℤ) = if v.toInt < 0 then v.toInt + 2 ^ 64 else v.toInt := by
  have hbits : v.toUInt64.toNat = v.toBitVec.toNat := rfl
  have hint : v.toInt = v.toBitVec.toInt := rfl
  have hlt := v.toBitVec.isLt
  rw [hbits, hint, BitVec.toInt_eq_toNat_cond]
  split_ifs <;> omega

theorem toNat_toUInt32_eq_iff {v : Int32} : (v.toUInt32.toNat : ℤ) = v.toInt ↔ 0 ≤ v.toInt := by
  rw [toNat_toUInt32]
  split_ifs <;> omega

theorem toNat_toUInt64_eq_iff {v : Int64} : (v.toUInt64.toNat : ℤ) = v.toInt ↔ 0 ≤ v.toInt := by
  rw [toNat_toUInt64]
  split_ifs <;> omega

theorem unsigned_toUInt32_iff {s t : Scale} {v : Int32} :
    Unsigned s t v v.toUInt32 ↔ 0 ≤ v.toInt ∧ t.Tells v.toInt (s.read v.toInt) := by
  rcases lt_or_ge v.toInt 0 with hneg | hnonneg
  · have hwrap : (v.toUInt32.toNat : ℤ) = v.toInt + 2 ^ 32 := by rw [toNat_toUInt32, if_pos hneg]
    exact ⟨fun h => absurd hwrap (h.not_wrapped hneg), fun h => absurd h.1 (not_le.mpr hneg)⟩
  · have hsame := toNat_toUInt32_eq_iff.mpr hnonneg
    constructor
    · intro h
      exact ⟨hnonneg, hsame ▸ h.tells⟩
    · intro h
      exact ⟨fun hneg => absurd hneg (not_lt.mpr hnonneg), hsame.symm ▸ h.2⟩

/-! ## The scales, field by field -/

theorem unsigned_speed_iff {v : Int32} :
    Unsigned FusionPosData.speedScale ParticipantData.speedScale v v.toUInt32 ↔
      v.toInt = 0 ∨ v.toInt = 1 := by
  have hlt : v.toInt < 2 ^ 31 := v.toInt_lt
  -- 0.01 m/s are written as 0.02 m/s
  have hunit : |(v.toInt : ℚ)| * |ParticipantData.speedScale.unit - FusionPosData.speedScale.unit|
      < ParticipantData.speedScale.unit ↔ |v.toInt| < 2 := by
    rw [show |ParticipantData.speedScale.unit - FusionPosData.speedScale.unit| = 1 / 100 by
      norm_num [ParticipantData.speedScale, FusionPosData.speedScale],
      show ParticipantData.speedScale.unit = 2 * (1 / 100) by
      norm_num [ParticipantData.speedScale], mul_lt_mul_iff_left₀ (by norm_num)]
    exact_mod_cast Iff.rfl
  rw [unsigned_toUInt32_iff, Scale.tells_read_iff, hunit]
  simp only [FusionPosData.speedScale, ParticipantData.speedScale, abs_lt]
  omega

theorem unsigned_height_iff {v : Int32} :
    Unsigned FusionPosData.sizeScale ParticipantData.heightScale v v.toUInt32 ↔
      v.toInt = 0 ∨ v.toInt = 1 := by
  have hlt : v.toInt < 2 ^ 31 := v.toInt_lt
  -- 1 cm is written as 5 cm
  have hunit : |(v.toInt : ℚ)| * |ParticipantData.heightScale.unit - FusionPosData.sizeScale.unit|
      < ParticipantData.heightScale.unit ↔ |v.toInt| * 4 < 5 := by
    rw [show |ParticipantData.heightScale.unit - FusionPosData.sizeScale.unit| = 4 * (1 / 100) by
      norm_num [ParticipantData.heightScale, FusionPosData.sizeScale],
      show ParticipantData.heightScale.unit = 5 * (1 / 100) by
      norm_num [ParticipantData.heightScale], ← mul_assoc, mul_lt_mul_iff_left₀ (by norm_num)]
    exact_mod_cast Iff.rfl
  rw [unsigned_toUInt32_iff, Scale.tells_read_iff, hunit]
  simp only [FusionPosData.sizeScale, ParticipantData.heightScale]
  rcases abs_cases v.toInt with ⟨habs, hsign⟩ | ⟨habs, hsign⟩ <;> rw [habs] <;> omega

theorem heads_iff {pos : FusionPosData} : Heads pos pos.speedHeading.toUInt32 ↔
    0 ≤ pos.speedHeading.toInt ∧ (pos.speedHeading.toInt = pos.objOri.toInt ∨
      28799 < pos.speedHeading.toInt ∧ ¬ (0 ≤ pos.objOri.toInt ∧ pos.objOri.toInt ≤ 28799)) := by
  rcases lt_or_ge pos.speedHeading.toInt 0 with hneg | hnonneg
  · have hwrap := (toNat_toUInt32 pos.speedHeading).trans (if_pos hneg)
    exact ⟨fun h => absurd hwrap (h.not_wrapped hneg), fun h => absurd h.1 (not_le.mpr hneg)⟩
  · have hsame := toNat_toUInt32_eq_iff.mpr hnonneg
    have htells := Scale.tells_read_iff_of_unit_eq (s := FusionPosData.objOriScale)
      (t := ParticipantData.headingScale) (n := pos.objOri.toInt) (m := pos.speedHeading.toInt) rfl
      (by norm_num [ParticipantData.headingScale])
    rw [← hsame] at htells
    have hheads : Heads pos pos.speedHeading.toUInt32 ↔ _ :=
      ⟨fun h => h.tells, fun h => ⟨fun hneg => absurd hneg (not_lt.mpr hnonneg), h⟩⟩
    rw [hheads, htells, hsame]
    simp only [FusionPosData.objOriScale, ParticipantData.headingScale]
    omega

theorem unsigned_size_iff {v : Int32} :
    Unsigned FusionPosData.sizeScale ParticipantData.sizeScale v v.toUInt32 ↔ 0 ≤ v.toInt := by
  have hlt : v.toInt < 2 ^ 31 := v.toInt_lt
  rw [unsigned_toUInt32_iff, Scale.tells_read_iff_of_unit_eq (s := FusionPosData.sizeScale)
    (t := ParticipantData.sizeScale) rfl (by norm_num [ParticipantData.sizeScale]),
    and_iff_left fun _ => rfl]
  simp only [FusionPosData.sizeScale, ParticipantData.sizeScale]
  omega

theorem tells_elevation_iff {v : ℤ} :
    Position3D.eleScale.Tells v (FusionPosData.elevationScale.read v) ↔
      ¬ (-32767 ≤ v ∧ v ≤ -4096) ∧ ¬ (32768 ≤ v ∧ v ≤ 61439) := by
  rw [Scale.tells_read_iff_of_unit_eq (s := FusionPosData.elevationScale)
    (t := Position3D.eleScale) rfl (by norm_num [Position3D.eleScale]), and_iff_left fun _ => rfl]
  simp only [Position3D.eleScale, FusionPosData.elevationScale]
  omega

/-! ## Coordinates -/

theorem toE7_finite {q : ℚ} {h : Binary64.Representable q} : toE7 (.finite q h) =
    if -2 ^ 31 ≤ Binary64.trunc (Binary64.rounded (q * 10 ^ 7)) ∧
        Binary64.trunc (Binary64.rounded (q * 10 ^ 7)) < 2 ^ 31 then
      some (Int32.ofInt (Binary64.trunc (Binary64.rounded (q * 10 ^ 7)))) else none := by
  have hcast : ((10 ^ 7 : ℤ) : ℚ) = 10 ^ 7 := by norm_cast
  rw [← hcast, ← Binary64.toInt32_ofRat]
  rfl

theorem toE7_of_value_eq_none {degrees : Binary64} (h : degrees.value = none) :
    toE7 degrees = none :=
  Binary64.toInt32_mul_of_value_eq_none h

/-- **A coordinate comes through if its product is in the range of the target.** -/
theorem toE7_tells_iff {t : Scale} {degrees : Binary64} (hunit : t.unit = 1 / 10 ^ 7)
    (hlow : -2 ^ 31 ≤ t.least ∧ t.least ≤ 0) (hhigh : 0 ≤ t.greatest ∧ t.greatest < 2 ^ 31) :
    (∃ n, toE7 degrees = some n ∧ t.Tells n.toInt degrees.value) ↔
      Between (t.least - 1) (t.greatest + 1) degrees := by
  rcases degrees with ⟨q, h⟩ | s | -
  · set n := Binary64.trunc (Binary64.rounded (q * 10 ^ 7)) with hn
    have hrange : Between (t.least - 1) (t.greatest + 1) (.finite q h) ↔
        t.least ≤ n ∧ n ≤ t.greatest := by
      rw [Between, ← Binary64.lt_trunc_iff (by omega), ← Binary64.trunc_lt_iff (by omega), ← hn]
      omega
    rw [hrange, toE7_finite, ← hn]
    constructor
    · rintro ⟨m, hm, htells⟩
      obtain ⟨hfits, ⟨⟩⟩ := Option.ite_none_right_eq_some.mp hm
      rw [Int32.toInt_ofInt_of_le hfits.1 hfits.2] at htells
      exact (Scale.tells_some_iff.mp htells).1
    · intro hin
      have hnear : |(n : ℚ) - q * 10 ^ 7| < 1 :=
        Binary64.abs_trunc_rounded_sub_lt (abs_lt.mpr ⟨by omega, by omega⟩)
      refine ⟨Int32.ofInt n, if_pos ⟨by omega, by omega⟩, ?_⟩
      rw [Int32.toInt_ofInt_of_le (by omega) (by omega)]
      refine Scale.tells_some_iff.mpr ⟨hin, ?_⟩
      rw [hunit]
      calc |(n : ℚ) * (1 / 10 ^ 7) - q| = |(n - q * 10 ^ 7) * (1 / 10 ^ 7)| := by
            congr 1
            ring
        _ = |(n : ℚ) - q * 10 ^ 7| * (1 / 10 ^ 7) := by
            rw [abs_mul, abs_of_pos (a := (1 / 10 ^ 7 : ℚ)) (by norm_num)]
        _ < 1 / 10 ^ 7 := mul_lt_of_lt_one_left (by norm_num) hnear
  all_goals
    refine ⟨?_, False.elim⟩
    rintro ⟨n, hn, -⟩
    rw [toE7_of_value_eq_none rfl] at hn
    cases hn

/-! ## One participant -/

theorem measures_iff {pos : FusionPosData} {p : ParticipantData String} {lat lon : Int32}
    (hpos : p.ptcPos = some ⟨lat, lon, pos.elevation⟩) (hspeed : p.speed = pos.speed.toUInt32)
    (hheading : p.heading = pos.speedHeading.toUInt32)
    (hsize : p.ptcSize =
      some ⟨pos.objWidth.toUInt32, pos.objLength.toUInt32, pos.objHeight.toUInt32⟩)
    (hlat : toE7 pos.lattitude = some lat) (hlon : toE7 pos.longitude = some lon) :
    Measures pos p ↔ pos.Fits := by
  have hlatitude : Position3D.latScale.Tells lat.toInt pos.lattitude.value ↔
      Between (-900000001) 900000001 pos.lattitude := by
    refine Iff.trans ?_ (toE7_tells_iff (t := Position3D.latScale) rfl ⟨by decide, by decide⟩
      ⟨by decide, by decide⟩)
    rw [hlat]
    simp
  have hlongitude : Position3D.lonScale.Tells lon.toInt pos.longitude.value ↔
      Between (-1800000000) 1800000001 pos.longitude := by
    refine Iff.trans ?_ (toE7_tells_iff (t := Position3D.lonScale) rfl ⟨by decide, by decide⟩
      ⟨by decide, by decide⟩)
    rw [hlon]
    simp
  constructor
  · rintro ⟨⟨here, hhere, hla, hlo, hel⟩, hsp, hhe, ⟨size, hsz, hwi, hle, hhei⟩⟩
    obtain rfl := Option.some.inj (hpos.symm.trans hhere)
    obtain rfl := Option.some.inj (hsize.symm.trans hsz)
    rw [hspeed] at hsp
    rw [hheading] at hhe
    obtain ⟨hmoves, hhead⟩ := heads_iff.mp hhe
    exact ⟨hlatitude.mp hla, hlongitude.mp hlo, tells_elevation_iff.mp hel,
      unsigned_speed_iff.mp hsp, hmoves, hhead, unsigned_size_iff.mp hwi, unsigned_size_iff.mp hle,
      unsigned_height_iff.mp hhei⟩
  · intro h
    refine ⟨⟨_, hpos, hlatitude.mpr h.lattitude, hlongitude.mpr h.longitude,
      tells_elevation_iff.mpr h.elevation⟩, ?_, ?_, ⟨_, hsize, unsigned_size_iff.mpr h.objWidth,
      unsigned_size_iff.mpr h.objLength, unsigned_height_iff.mpr h.objHeight⟩⟩
    · rw [hspeed]
      exact unsigned_speed_iff.mpr h.speed
    · rw [hheading]
      exact heads_iff.mpr ⟨h.speedHeading, h.objOri⟩

/-- Coordinates that fit are converted. -/
theorem exists_toE7 {low high : ℤ} {degrees : Binary64} (h : Between low high degrees)
    (hlow : -2 ^ 31 ≤ low + 1 ∧ low < 0) (hhigh : 0 < high ∧ high ≤ 2 ^ 31) :
    ∃ n, toE7 degrees = some n := by
  rcases degrees with ⟨q, hq⟩ | s | -
  · rw [Between, ← Binary64.lt_trunc_iff hlow.2, ← Binary64.trunc_lt_iff hhigh.1] at h
    exact ⟨_, toE7_finite.trans (if_pos ⟨by omega, by omega⟩)⟩
  · exact h.elim
  · exact h.elim

theorem setPos_eq_some_iff {pos : FusionPosData} {p p' : ParticipantData String} :
    setPos pos p = some p' ↔ ∃ lat lon, toE7 pos.lattitude = some lat ∧
      toE7 pos.longitude = some lon ∧
      p' = { p with
        ptcPos := some ⟨lat, lon, pos.elevation⟩
        speed := pos.speed.toUInt32
        heading := pos.speedHeading.toUInt32
        ptcSize := some
          ⟨pos.objWidth.toUInt32, pos.objLength.toUInt32, pos.objHeight.toUInt32⟩ } := by
  simp only [setPos, Option.bind_eq_bind, Option.bind_eq_some_iff, Option.pure_def,
    Option.some.injEq]
  constructor
  · rintro ⟨lat, hlat, lon, hlon, rfl⟩
    exact ⟨lat, lon, hlat, hlon, rfl⟩
  · rintro ⟨lat, lon, hlat, hlon, rfl⟩
    exact ⟨lat, hlat, lon, hlon, rfl⟩

theorem joinDeviceIds_succ : ∀ (j : ℕ) (deviceIdList : String) (ds : List RelOriPosData),
    joinDeviceIds (j + 1) deviceIdList ds =
      ",".intercalate (deviceIdList :: ds.map (·.deviceID))
  | _, _, [] => rfl
  | j, deviceIdList, d :: ds => joinDeviceIds_succ (j + 1) (deviceIdList ++ "," ++ d.deviceID) ds

/-- **The loop over `j` joins the device ids with commas.** -/
theorem joinDeviceIds_eq : ∀ ds : List RelOriPosData,
    joinDeviceIds 0 "" ds = ",".intercalate (ds.map (·.deviceID))
  | [] => rfl
  | d :: ds => joinDeviceIds_succ 0 d.deviceID ds

/-- What `addPtc` sets without looking at the position data. -/
structure Labelled (dataTime : Int64) (path : FusionPath) (p : ParticipantData String) : Prop where
  ptcId : p.ptcId = path.objID.toInt64.toUInt64
  kind : p.ptcType = path.objType ∧ p.dataSource = INTEGRATED ∧ p.vehicleType = path.objKind
  deviceIdList : p.deviceIdList = joinDeviceIds 0 "" path.oriPosDataList
  timestamp : p.timestamp = dataTime.toUInt64
  plate : p.plateNo = path.objVisionData.elim "" (·.plateNo) ∧
    p.plateColor = path.objVisionData.elim 0 (·.plateColor)

variable {dataTime : Int64} {path : FusionPath} {p : ParticipantData String}

theorem Labelled.same_iff (h : Labelled dataTime path p) : SameParticipant dataTime path p ↔
    0 ≤ path.objID.toInt ∧ 0 ≤ dataTime.toInt ∧ MeasuresIfAny p path.objPosDatas := by
  have hptcId : (p.ptcId.toNat : ℤ) = path.objID.toInt ↔ 0 ≤ path.objID.toInt := by
    rw [h.ptcId, ← Int32.toInt_toInt64, toNat_toUInt64_eq_iff]
  have htimestamp : (p.timestamp.toNat : ℤ) = dataTime.toInt ↔ 0 ≤ dataTime.toInt := by
    rw [h.timestamp, toNat_toUInt64_eq_iff]
  constructor
  · intro hs
    exact ⟨hptcId.mp hs.ptcId, htimestamp.mp hs.timestamp, hs.measures⟩
  · rintro ⟨hid, htime, hmeasures⟩
    exact ⟨hptcId.mpr hid, h.kind, h.deviceIdList.trans (joinDeviceIds_eq _),
      htimestamp.mpr htime, hmeasures, h.plate⟩

theorem addPtc_eq_some_of_none (dataTime : Int64) (hpos : path.objPosDatas = none) :
    ∃ p, addPtc dataTime path = some p ∧ Labelled dataTime path p ∧ MeasuresIfAny p none := by
  rcases path with ⟨objID, objType, objKind, pos, vision, ids⟩
  obtain rfl : pos = none := hpos
  refine ⟨_, rfl, ?_, ?_⟩
  · rcases vision with - | v <;> exact ⟨rfl, ⟨rfl, rfl, rfl⟩, rfl, rfl, rfl, rfl⟩
  · rcases vision with - | v <;> exact ⟨rfl, rfl, rfl, rfl⟩

theorem addPtc_of_some {pos : FusionPosData} (hpos : path.objPosDatas = some pos)
    (h : addPtc dataTime path = some p) :
    Labelled dataTime path p ∧ (Measures pos p ↔ pos.Fits) := by
  rcases path with ⟨objID, objType, objKind, pos', vision, ids⟩
  obtain rfl : pos' = some pos := hpos
  simp only [addPtc, Option.elim_some, Option.bind_eq_bind, Option.bind_eq_some_iff,
    Option.pure_def, Option.some.injEq] at h
  obtain ⟨p', hset, rfl⟩ := h
  obtain ⟨lat, lon, hlat, hlon, rfl⟩ := setPos_eq_some_iff.mp hset
  rcases vision with - | v
  · exact ⟨⟨rfl, ⟨rfl, rfl, rfl⟩, rfl, rfl, rfl, rfl⟩, measures_iff rfl rfl rfl rfl hlat hlon⟩
  · exact ⟨⟨rfl, ⟨rfl, rfl, rfl⟩, rfl, rfl, rfl, rfl⟩, measures_iff rfl rfl rfl rfl hlat hlon⟩

theorem FusionPosData.Fits.exists_addPtc {pos : FusionPosData} (h : pos.Fits) (dataTime : Int64)
    (hpos : path.objPosDatas = some pos) : ∃ p, addPtc dataTime path = some p := by
  obtain ⟨lat, hlat⟩ := exists_toE7 h.lattitude ⟨by decide, by decide⟩ ⟨by decide, by decide⟩
  obtain ⟨lon, hlon⟩ := exists_toE7 h.longitude ⟨by decide, by decide⟩ ⟨by decide, by decide⟩
  rw [addPtc, hpos, Option.elim_some, Option.bind_eq_bind,
    setPos_eq_some_iff.mpr ⟨lat, lon, hlat, hlon, rfl⟩]
  exact ⟨_, rfl⟩

/-- **One path element**: its participant says the same exactly if the element fits. -/
theorem addPtc_same_iff :
    (∃ p, addPtc dataTime path = some p ∧ SameParticipant dataTime path p) ↔
      0 ≤ path.objID.toInt ∧ 0 ≤ dataTime.toInt ∧ ∀ pos ∈ path.objPosDatas, pos.Fits := by
  rcases hpos : path.objPosDatas with - | pos
  · obtain ⟨p, hadd, hlabels, hmeasures⟩ := addPtc_eq_some_of_none dataTime hpos
    have hsame : SameParticipant dataTime path p ↔
        0 ≤ path.objID.toInt ∧ 0 ≤ dataTime.toInt := by
      rw [hlabels.same_iff, hpos]
      tauto
    rw [hadd]
    simp only [Option.some.injEq, exists_eq_left', hsame, Option.not_mem_none, false_imp_iff,
      implies_true, and_true]
  · simp only [Option.mem_some_iff, forall_eq']
    constructor
    · rintro ⟨p, hadd, hsame⟩
      obtain ⟨hlabels, hmeasures⟩ := addPtc_of_some hpos hadd
      obtain ⟨hid, htime, hm⟩ := hlabels.same_iff.mp hsame
      rw [hpos] at hm
      exact ⟨hid, htime, hmeasures.mp hm⟩
    · rintro ⟨hid, htime, hfits⟩
      obtain ⟨p, hadd⟩ := hfits.exists_addPtc dataTime hpos
      obtain ⟨hlabels, hmeasures⟩ := addPtc_of_some hpos hadd
      refine ⟨p, hadd, hlabels.same_iff.mpr ⟨hid, htime, ?_⟩⟩
      rw [hpos]
      exact hmeasures.mpr hfits

/-! ## The message -/

/-- A list is mapped to related values exactly if each element is. -/
theorem mapM_forall₂_iff {α β : Type} {f : α → Option β} {R : α → β → Prop} : ∀ {as : List α},
    (∃ bs, as.mapM f = some bs ∧ List.Forall₂ R as bs) ↔ ∀ a ∈ as, ∃ b, f a = some b ∧ R a b
  | [] => by simp
  | a :: as => by
      rw [List.forall_mem_cons, ← mapM_forall₂_iff, List.mapM_cons]
      constructor
      · rintro ⟨bs, hbs, hR⟩
        simp only [Option.bind_eq_bind, Option.bind_eq_some_iff, Option.pure_def,
          Option.some.injEq] at hbs
        obtain ⟨b, hb, bs, hmap, rfl⟩ := hbs
        obtain ⟨hRb, hRbs⟩ := List.forall₂_cons.mp hR
        exact ⟨⟨b, hb, hRb⟩, bs, hmap, hRbs⟩
      · rintro ⟨⟨b, hb, hRb⟩, bs, hmap, hRbs⟩
        refine ⟨b :: bs, ?_, .cons hRb hRbs⟩
        rw [hb, hmap]
        rfl

theorem makeCam_eq_some_iff {node : NodeInfo} {fusion : FusionPathDatas} {msgNum : UInt8}
    {cam : CamData String} : makeCam node fusion msgNum = some cam ↔
      ∃ ptcList, fusion.pathList.mapM (addPtc fusion.dataTime) = some ptcList ∧
        cam = { CamData.blank "" with
          type := node.camType_.toUInt32
          ver := cStr node.camVer_
          msgCnt := msgNum.toUInt32
          timestamp := fusion.dataTime.toUInt64
          sceneType := node.sceneType_
          toAlgorithmTime := fusion.sendTime.toUInt64
          deviceId := cStr node.deviceId_
          mapDeviceId := cStr node.mapDevId_
          refPos := some ⟨node.lat_, node.lon_, node.ele_⟩
          ptcList := ptcList } := by
  simp only [makeCam, Option.bind_eq_bind, Option.bind_eq_some_iff, Option.pure_def,
    Option.some.injEq]
  exact exists_congr fun ptcList => and_congr_right fun _ => eq_comm

variable {node : NodeInfo} {fusion : FusionPathDatas} {msgNum : UInt8}

theorem Fits.preserves (h : Fits node fusion) :
    Preserves node fusion (convertCam node fusion msgNum : Option (List (Call _ Paths))) := by
  obtain ⟨ptcList, hmap, hlist⟩ := mapM_forall₂_iff.mpr fun path hpath => addPtc_same_iff.mpr
    ⟨h.objID path hpath, h.dataTime, h.objPosDatas path hpath⟩
  refine ⟨_, _, Option.map_eq_some_iff.mpr ⟨_, makeCam_eq_some_iff.mpr ⟨_, hmap, rfl⟩, rfl⟩,
    pushes_convertCam _, ?_⟩
  exact ⟨toNat_toUInt32_eq_iff.mpr h.camType_, toNat_toUInt64_eq_iff.mpr h.dataTime,
    toNat_toUInt64_eq_iff.mpr h.sendTime, rfl, hlist⟩

theorem Preserves.fits
    (h : Preserves node fusion (convertCam node fusion msgNum : Option (List (Call _ Paths)))) :
    Fits node fusion := by
  obtain ⟨calls, cam, hout, hpushes, hsame⟩ := h
  obtain ⟨made, hmade, rfl⟩ := Option.map_eq_some_iff.mp hout
  -- what is pushed is the message that was made
  have hcam : made = cam := by
    have hadded := congrFun ((pushes_convertCam made).unique hpushes) .camSendQueue_
    exact (List.cons.inj hadded).1
  subst hcam
  obtain ⟨ptcList, hmap, rfl⟩ := makeCam_eq_some_iff.mp hmade
  have hall := mapM_forall₂_iff.mp ⟨ptcList, hmap, hsame.ptcList⟩
  have hpath := fun path hpath => addPtc_same_iff.mp (hall path hpath)
  exact ⟨toNat_toUInt32_eq_iff.mp hsame.type, toNat_toUInt64_eq_iff.mp hsame.timestamp,
    toNat_toUInt64_eq_iff.mp hsame.toAlgorithmTime, fun path h => (hpath path h).1,
    fun path h => (hpath path h).2.2⟩

/-- **The fusion message comes through exactly if every field fits.** -/
theorem convertCam_iff (node : NodeInfo) (fusion : FusionPathDatas) (msgNum : UInt8) :
    Preserves node fusion (convertCam node fusion msgNum : Option (List (Call _ Paths))) ↔
      Fits node fusion :=
  ⟨Preserves.fits, Fits.preserves⟩

/-- A car at 10 m/s. -/
def carAt10 : FusionPathDatas where
  sendTime := 1700000000050
  dataTime := 1700000000000
  pathList := [{
    objID := 7
    objType := 1
    objKind := 10
    objPosDatas := some {
      longitude := .ofInt 121 (by norm_num)
      lattitude := .ofInt 31 (by norm_num)
      elevation := 230
      speed := 1000
      objOri := 7200
      speedHeading := 7200
      objWidth := 180
      objLength := 450
      objHeight := 150 }
    objVisionData := none
    oriPosDataList := [⟨"LIDAR-1"⟩, ⟨"CAM-2"⟩] }]

def mec : NodeInfo where
  camType_ := 1
  camVer_ := "01"
  deviceId_ := "MEC"
  mapDevId_ := "MAP"
  sceneType_ := 0
  lat_ := 313050472
  lon_ := 1212170908
  ele_ := 23

/-- **It leaves as a car at 20 m/s.** -/
theorem not_preserves :
    ¬ Preserves mec carAt10 (convertCam mec carAt10 0 : Option (List (Call _ Unit))) := by
  intro h
  have hspeed := (h.fits.objPosDatas _ List.mem_cons_self _ rfl).speed
  revert hspeed
  decide

end ConvertCam

end Sadip
