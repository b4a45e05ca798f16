import Sadip.DataInsert.Coordination
import Sadip.DataInsert.Event.Stored
import Sadip.DataInsert.Intention
import Sadip.DataInsert.Obstacle
import Sadip.DataInsert.Participant
import Sadip.DataInsert.Parts
import Sadip.DataInsert.Signal
import Sadip.DataInsert.TrafficFlow

/-!
# DataInsert — a message into the tables, `cam-app/src/DataInsert.cpp`

`camInsert` stores the row of the message and then its lists, one after the other.  What it stores
of the traffic flow, of the participants, of the signals and of the regions are forests that follow
the message.

Between the participants and the others come the signs, whose points are read from the events: when
one of them is not there, nothing is promised from then on (`Ingested`).  What this leaves of the
message is in `DataInsert/Forests`.
-/

namespace Sadip

namespace DataInsert

open Printf Sql Insertion

variable {σ : Type}

/-- `camInsert`; `splitId` is a random number. -/
def camInsert (splitId : Int32) (c : CamData σ) : Insertion σ Unit := do
  let camId ← ownId c.id
  camSql splitId camId c
  insertEach (ptclistSql splitId camId c.deviceId) c.ptcList
  insertEach (rteSql splitId camId c.deviceId) c.rteList
  insertEach (rtsDataSql splitId c.rteList camId c.deviceId) c.rtsList
  insertEach (trafficFlowSql splitId camId c.deviceId) c.trafficFlow
  optionally c.roadSignalState fun s =>
    insertEach (intersectionStateSql splitId camId c.deviceId) s.intersections
  insertEach (signalSchemeSql splitId camId c.deviceId) c.signalSchemeList
  insertEach (camPolygonSql splitId camId) c.detectedRegion
  insertEach (obslistSql splitId camId) c.obstacleList
  insertEach (bsmSql splitId camId) c.bsmList
  insertEach (rscSql splitId camId) c.rscList
  virList splitId camId c.virList

/-- The events and the signs are parts of it, which are run one after the other (`run_bind`). -/
theorem camInsert_parts (splitId : Int32) (c : CamData σ) : camInsert splitId c = (do
    let camId ← ownId c.id
    camSql splitId camId c
    insertEach (ptclistSql splitId camId c.deviceId) c.ptcList
    rtePart splitId camId c
    rtsPart splitId camId c
    insertEach (trafficFlowSql splitId camId c.deviceId) c.trafficFlow
    optionally c.roadSignalState fun s =>
      insertEach (intersectionStateSql splitId camId c.deviceId) s.intersections
    insertEach (signalSchemeSql splitId camId c.deviceId) c.signalSchemeList
    insertEach (camPolygonSql splitId camId) c.detectedRegion
    insertEach (obslistSql splitId camId) c.obstacleList
    insertEach (bsmSql splitId camId) c.bsmList
    insertEach (rscSql splitId camId) c.rscList
    virList splitId camId c.virList) := rfl

/-! ## Every statement -/

/-- The tables behind the regions. -/
def lastTables : List String := obstacleTables ++ "bsm_data" :: (rscTables ++ virTables)

/-- The tables behind the signs. -/
def laterTables : List String :=
  trafficFlowTables ++ (intersectionTables ++ (signalSchemeTables ++ (polygonTables ++ lastTables)))

variable {splitId : Int32}

theorem always_last (camId : Int64) (c : CamData σ) :
    Always (Executed lastTables) (do
      insertEach (obslistSql splitId camId) c.obstacleList
      insertEach (bsmSql splitId camId) c.bsmList
      insertEach (rscSql splitId camId) c.rscList
      virList splitId camId c.virList) fun _ => True := by
  refine .bind (always_among (by decide) (always_insertEach (always_obslistSql camId)
    c.obstacleList)) fun _ _ => ?_
  refine .bind (always_among (by decide) (always_insertEach (always_bsmSql camId) c.bsmList))
    fun _ _ => ?_
  refine .bind (always_among (by decide) (always_insertEach (always_rscSql camId) c.rscList))
    fun _ _ => ?_
  exact always_among (by decide) (always_virList camId c.virList)

/-! ## What is stored -/

section

variable (print content : σ → List Char) (I : Int64 → Prop) (carried : List Int64)
  (splitId : Int32) (camId : Int64) (c : CamData σ)

/-- The lists behind the signs that are stored as forests, with their tables. -/
def laterParts : List (List String × (Forest Int64 Row → Prop)) :=
  [(trafficFlowTables, TrafficFlowForest content splitId camId c.deviceId c.trafficFlow),
   (intersectionTables, IntersectionForest content splitId camId c.deviceId
      (c.roadSignalState.elim [] (·.intersections))),
   (signalSchemeTables, SignalSchemeForest content splitId camId c.deviceId c.signalSchemeList),
   (polygonTables, PolygonForest splitId camId c.detectedRegion)]

/-- The tables of the events and the signs. -/
def eventTables : List String := rteTables ++ rtsTables

def camTables : List String := "cam_data" :: (participantTables ++ (eventTables ++ laterTables))

/-- What the statements are meant to store: the row of the message and its participants; and behind
the signs everything, or nothing if a point of theirs was not there.  Only participants may have
identifiers of their own. -/
structure Ingested (camId : Int64) (ds : List Int64) (ss : List (Text σ)) : Prop where
  owns : Owns I c.id camId
  executed : ∀ t ∈ ss, Executed camTables t
  row : meantRows content "cam_data" ss = [camDataRow content splitId camId c]
  participants : Sown content carried participantTables
    (ParticipantForest content splitId I camId c.deviceId c.ptcList) ds ss
  later : RtsInRange c.rteList c.rtsList →
    Sows content [] (laterParts content splitId camId c) ds ss
  none : ¬RtsInRange c.rteList c.rtsList → ∀ table ∈ laterTables, meantRows content table ss = []

end

variable {print content : σ → List Char} {I : Int64 → Prop} {carried : List Int64}

theorem always_intersections (camId : Int64) (c : CamData σ) :
    Always (Executed intersectionTables) (optionally c.roadSignalState fun s =>
      insertEach (intersectionStateSql splitId camId c.deviceId) s.intersections) fun _ => True :=
  always_optionally fun _ => always_insertEach (always_intersectionStateSql camId c.deviceId) _

theorem yields_later (camId : Int64) (c : CamData σ) :
    Yields print I (do
        insertEach (trafficFlowSql splitId camId c.deviceId) c.trafficFlow
        optionally c.roadSignalState fun s =>
          insertEach (intersectionStateSql splitId camId c.deviceId) s.intersections
        insertEach (signalSchemeSql splitId camId c.deviceId) c.signalSchemeList
        insertEach (camPolygonSql splitId camId) c.detectedRegion
        insertEach (obslistSql splitId camId) c.obstacleList
        insertEach (bsmSql splitId camId) c.bsmList
        insertEach (rscSql splitId camId) c.rscList
        virList splitId camId c.virList)
      (fun ds ss _ => SowsOn content carried laterTables (laterParts content splitId camId c) ds ss)
      (SowsOn content carried laterTables (laterParts content splitId camId c)) := by
  refine Yields.sow (grows_trafficFlowSql content carried camId c.deviceId c.trafficFlow)
    (always_insertEach (always_trafficFlowSql camId c.deviceId) _) ?_ (by decide)
  refine Yields.sow (grows_optionally fun s => grows_intersectionStateSql content carried camId
    c.deviceId s.intersections) (always_intersections camId c) ?_ (by decide)
  refine Yields.sow (grows_signalSchemeSql content carried camId c.deviceId c.signalSchemeList)
    (always_insertEach (always_signalSchemeSql camId c.deviceId) _) ?_ (by decide)
  refine Yields.sow (grows_camPolygonSql content carried camId c.detectedRegion)
    (always_insertEach (always_camPolygonSql camId) _) ?_ (by decide)
  exact (always_last camId c).yields.mono (fun _ _ _ h => ⟨h.2, trivial, nofun⟩)
    fun _ _ h => ⟨h, trivial, nofun⟩

theorem meantRows_nil_of_disjoint {names T : List String} {ss : List (Text σ)}
    (hss : ∀ t ∈ ss, Executed names t) (hdisj : ∀ table ∈ T, table ∉ names) :
    ∀ table ∈ T, meantRows content table ss = [] :=
  fun table htable => meantRows_eq_nil hss (hdisj table htable)

theorem hevents {ss ss' : List (Text σ)} (hss : ∀ t ∈ ss, Executed rteTables t)
    (hss' : ∀ t ∈ ss', Executed rtsTables t) : ∀ t ∈ ss ++ ss', Executed eventTables t := by
  intro t ht
  rcases List.mem_append.mp ht with ht | ht
  · exact (hss t ht).mono (List.subset_append_left _ _)
  · exact (hss' t ht).mono (List.subset_append_right _ _)

/-- The row of the message, its participants, the events and signs, and what is behind them. -/
theorem ingested_append {c : CamData σ} {camId : Int64} {ds₀ ds₁ ds₂ ds₃ : List Int64}
    {ss₀ ss₁ ss₂ ss₃ : List (Text σ)} (hid : Owns I c.id camId)
    (hrow : meantRows content "cam_data" ss₀ = [camDataRow content splitId camId c])
    (hss₀ : ∀ t ∈ ss₀, Executed ["cam_data"] t)
    (hptcs : Sown content carried participantTables
      (ParticipantForest content splitId I camId c.deviceId c.ptcList) ds₁ ss₁)
    (hss₁ : ∀ t ∈ ss₁, Executed participantTables t) (hss₂ : ∀ t ∈ ss₂, Executed eventTables t)
    (hss₃ : ∀ t ∈ ss₃, Executed laterTables t)
    (hlater : RtsInRange c.rteList c.rtsList →
      SowsOn content [] laterTables (laterParts content splitId camId c) ds₃ ss₃)
    (hnone : ¬RtsInRange c.rteList c.rtsList → ss₃ = []) :
    Ingested content I carried splitId c camId (ds₀ ++ (ds₁ ++ (ds₂ ++ ds₃)))
      (ss₀ ++ (ss₁ ++ (ss₂ ++ ss₃))) := by
  refine ⟨hid, ?_, ?_, ?_, fun hrange => ?_, fun hrange table htable => ?_⟩
  · have hamong : ∀ {names : List String} {ss : List (Text σ)}, names ⊆ camTables →
        (∀ t ∈ ss, Executed names t) → ∀ t ∈ ss, Executed camTables t :=
      fun hsub hss t ht => (hss t ht).mono hsub
    simp only [List.forall_mem_append]
    exact ⟨hamong (by decide) hss₀, hamong (by decide) hss₁, hamong (by decide) hss₂,
      hamong (by decide) hss₃⟩
  · have hcam : ∀ {names : List String}, "cam_data" ∉ names → ∀ {ss : List (Text σ)},
        (∀ t ∈ ss, Executed names t) → meantRows content "cam_data" ss = [] :=
      fun hnot _ hss => meantRows_eq_nil hss hnot
    rw [meantRows_append, meantRows_append, meantRows_append, hrow, hcam (by decide) hss₁,
      hcam (by decide) hss₂, hcam (by decide) hss₃]
    rfl
  · have hss : ∀ t ∈ ss₂ ++ ss₃, Executed (eventTables ++ laterTables) t := fun t ht => by
      rcases List.mem_append.mp ht with ht | ht
      · exact (hss₂ t ht).mono (List.subset_append_left _ _)
      · exact (hss₃ t ht).mono (List.subset_append_right _ _)
    exact (hptcs.append_right hss (by decide)).append_left hss₀ (by decide)
  · have hsows := hlater hrange
    have hoff : ∀ {names : List String}, (∀ table ∈ laterTables, table ∉ names) →
        ∀ part ∈ laterParts content splitId camId c, ∀ table ∈ part.1, table ∉ names :=
      fun hdisj part hpart table htable => hdisj table (hsows.subset part hpart htable)
    refine .append_left hss₀ (.append_left hss₁ (.append_left hss₂ hsows.sows ?_) ?_) ?_
    · exact hoff (by decide)
    · exact hoff (by decide)
    · exact hoff (by decide)
  · rw [hnone hrange, List.append_nil, meantRows_append, meantRows_append,
      meantRows_nil_of_disjoint hss₀ (by decide) table htable,
      meantRows_nil_of_disjoint hss₁ (by decide) table htable,
      meantRows_nil_of_disjoint hss₂ (by decide) table htable]
    rfl

/-- **What one message leaves in the tables**, however the call ends. -/
theorem yields_camInsert {c : CamData σ} (hcam : c.id ≠ 0 → c.id.toInt64 ∈ carried)
    (hptc : ∀ p ∈ c.ptcList, p.id ≠ 0 → p.id.toInt64 ∈ carried) :
    Yields print I (camInsert splitId c)
      (fun ds ss _ => ∃ camId, Ingested content I carried splitId c camId ds ss)
      (fun ds ss => ∃ camId, Ingested content I carried splitId c camId ds ss) := by
  rw [camInsert, yields_bind]
  refine yields_ownId hcam fun ds camId hid _ => ?_
  rw [yields_bind]
  refine ((yields_camSql content camId c).and (always_camSql camId c).yields).mono ?_
    fun _ _ h => h.1.elim
  rintro ds₀ ss₀ - ⟨hrow, -, hss₀⟩
  rw [yields_bind]
  refine (Grows.sown (grows_ptclistSql content carried camId c.deviceId hptc)
    (always_insertEach (always_ptclistSql camId c.deviceId) _)).mono ?_ fun _ _ h => h.elim
  rintro ds₁ ss₁ - ⟨hptcs, hss₁⟩
  rw [yields_bind]
  refine ((completes_insertEach_of_forall (completes_rteSql camId c.deviceId) c.rteList).yields
    (always_rteList camId c.deviceId c.rteList)).mono ?_
    fun _ _ h => absurd trivial h.1
  rintro ds₂ ss₂ - ⟨-, hss₂⟩
  rw [yields_bind]
  refine ((completes_rtsDataSql c.rteList c.rtsList camId c.deviceId).yields
    (always_rtsList c.rteList camId c.deviceId c.rtsList)).mono ?_ ?_
  · rintro ds₃ ss₃ - ⟨hrange, hss₃⟩
    have hend : ∀ ds₄ ss₄,
        SowsOn content [] laterTables (laterParts content splitId camId c) ds₄ ss₄ →
        ∃ camId, Ingested content I carried splitId c camId
          (ds ++ (ds₀ ++ (ds₁ ++ (ds₂ ++ (ds₃ ++ ds₄)))))
          ([] ++ (ss₀ ++ (ss₁ ++ (ss₂ ++ (ss₃ ++ ss₄))))) := by
      intro ds₄ ss₄ hlater
      rw [List.nil_append, ← List.append_assoc, ← List.append_assoc ss₂, ← List.append_assoc ds₂]
      exact ⟨camId, ingested_append hid hrow hss₀ hptcs hss₁ (hevents hss₂ hss₃) hlater.executed
        (fun _ => hlater) (fun h => absurd hrange h)⟩
    exact (yields_later camId c).mono (fun ds₄ ss₄ _ => hend ds₄ ss₄) hend
  · rintro ds₃ ss₃ ⟨hrange, hss₃⟩
    rw [List.nil_append, ← List.append_assoc, ← List.append_nil ss₃, ← List.append_nil ds₃,
      ← List.append_assoc ss₂, ← List.append_assoc ds₂]
    exact ⟨camId, ingested_append hid hrow hss₀ hptcs hss₁ (hevents hss₂ hss₃) nofun
      (fun h => absurd h hrange) (fun _ => rfl)⟩

end DataInsert

end Sadip
