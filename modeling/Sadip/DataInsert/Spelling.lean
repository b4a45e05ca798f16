import Sadip.DataInsert.Participant
import Sadip.DataInsert.Signal
import Sadip.DataInsert.TrafficFlow

/-!
# DataInsert/Spelling — what the rows say of the strings

The rows of participants, traffic flow and signals, with the strings of the message spelt in two
ways. They are the same exactly if the two agree on the strings that the rows show; and so are the
forests (`agree` and `congr`).
-/

set_option maxRecDepth 10000

namespace Sadip

namespace DataInsert

open Sql

variable {σ : Type} {content content' : σ → List Char} {splitId : Int32}

/-! ## The strings of the lists -/

/-- The strings in the row of a participant, but for that of the device. -/
def ParticipantData.texts (p : ParticipantData σ) : List σ :=
  p.deviceIdList :: ((p.mapLocation.map (·.linkName)).toList ++ [p.vehicleBand, p.plateNo])

def LinkStatInfo.texts (l : LinkStatInfo σ) : List σ := [l.name, l.extId]

def SectionStatInfo.texts (s : SectionStatInfo σ) : List σ :=
  s.linkStatInfo.elim [] (·.texts) ++ [s.extId]

def LaneStatInfo.texts (l : LaneStatInfo σ) : List σ :=
  l.linkStatInfo.elim [] (·.texts) ++ l.sectionStatInfo.elim [] (·.texts) ++ [l.extId]

/-- Which strings a statistic has depends on the element it is for. -/
def TrafficFlowStat.texts (s : TrafficFlowStat σ) : List σ :=
  match s.mapElement with
  | some (.laneStatInfo l) => l.texts
  | some (.sectionStatInfo s) => s.texts
  | some (.linkStatInfo l) => l.texts
  | some (.movementStatInfo m) => [m.extId]
  | _ => []

def TrafficFlow.texts (f : TrafficFlow σ) : List σ := f.stats.flatMap (·.texts)

def IntersectionState.texts (s : IntersectionState σ) : List σ := [s.status]

def OptimData.texts (o : OptimData σ) : List σ := [o.coorPhase]

def SignalScheme.texts (s : SignalScheme σ) : List σ := s.optimDataList.flatMap (·.texts)

/-! ## Rows -/

@[simp] theorem int64_inj {v w : Int64} : int64 v = int64 w ↔ v = w := by
  rw [int64, int64, Value.number.injEq, Int64.toInt_inj]

/-- A column shows a string as it is spelt. -/
theorem text_some_eq_iff {s : σ} :
    text content (some s) = text content' (some s) ↔ content s = content' s := by
  rw [text, text, Value.text.injEq]
  rfl

/-- An empty column shows nothing of the spelling. -/
theorem text_eq_iff {o : Option σ} :
    text content o = text content' o ↔ ∀ s ∈ o.toList, content s = content' s := by
  cases o with
  | none => exact iff_of_true rfl (List.forall_mem_nil _)
  | some s => rw [text_some_eq_iff, Option.toList_some, List.forall_mem_singleton]

section

variable {camId camId' id id' : Int64} {deviceId : σ}

/-- The row of a flow shows the device only. -/
theorem trafficFlowRow_eq_iff {f : TrafficFlow σ} :
    trafficFlowRow content splitId camId deviceId id f
      = trafficFlowRow content' splitId camId' deviceId id' f ↔
    (id = id' ∧ camId = camId') ∧ content deviceId = content' deviceId := by
  simp only [trafficFlowRow, List.cons.injEq, Prod.mk.injEq, true_and, and_true, int64_inj,
    text_some_eq_iff, and_assoc]

/-- **Two rows are the same** exactly if the two spellings agree on the strings in them. -/
theorem participantDataRow_eq_iff {p : ParticipantData σ} :
    participantDataRow content splitId camId deviceId id p
      = participantDataRow content' splitId camId' deviceId id' p ↔
    (id = id' ∧ camId = camId') ∧ ∀ s ∈ deviceId :: p.texts, content s = content' s := by
  simp only [participantDataRow, ParticipantData.texts, List.cons.injEq, Prod.mk.injEq, true_and,
    and_true, int64_inj, text_eq_iff, Option.toList_some, List.forall_mem_cons,
    List.forall_mem_append, List.not_mem_nil, false_implies, implies_true]
  tauto

theorem intersectionStateRow_eq_iff {s : IntersectionState σ} :
    intersectionStateRow content splitId camId deviceId id s
      = intersectionStateRow content' splitId camId' deviceId id' s ↔
    (id = id' ∧ camId = camId') ∧ ∀ t ∈ deviceId :: s.texts, content t = content' t := by
  simp only [intersectionStateRow, IntersectionState.texts, List.cons.injEq, Prod.mk.injEq,
    true_and,
    and_true, int64_inj, text_some_eq_iff, List.forall_mem_cons, List.not_mem_nil, false_implies,
    implies_true]
  tauto

theorem signalSchemeRow_eq_iff {s : SignalScheme σ} :
    signalSchemeRow content splitId camId deviceId id s
      = signalSchemeRow content' splitId camId' deviceId id' s ↔
    (id = id' ∧ camId = camId') ∧ content deviceId = content' deviceId := by
  simp only [signalSchemeRow, List.cons.injEq, Prod.mk.injEq, true_and, and_true, int64_inj,
    text_some_eq_iff, and_assoc]

theorem optimDataRow_eq_iff {o : OptimData σ} :
    optimDataRow content splitId deviceId camId id o
      = optimDataRow content' splitId deviceId camId' id' o ↔
    (id = id' ∧ camId = camId') ∧ ∀ s ∈ deviceId :: o.texts, content s = content' s := by
  simp only [optimDataRow, OptimData.texts, List.cons.injEq, Prod.mk.injEq, true_and, and_true,
    int64_inj, text_some_eq_iff, List.forall_mem_cons, List.not_mem_nil, false_implies,
    implies_true]
  tauto

/-- One case for each kind of element, since each has its own strings. -/
theorem trafficFlowStatRow_eq_iff {s : TrafficFlowStat σ} :
    trafficFlowStatRow content splitId camId deviceId id s
      = trafficFlowStatRow content' splitId camId' deviceId id' s ↔
    (id = id' ∧ camId = camId') ∧ ∀ t ∈ deviceId :: s.texts, content t = content' t := by
  rw [trafficFlowStatRow, trafficFlowStatRow, TrafficFlowStat.texts]
  simp only [List.cons.injEq, Prod.mk.injEq, true_and, and_true, int64_inj, text_eq_iff,
    Option.toList_some, List.forall_mem_cons, List.not_mem_nil, false_implies, implies_true]
  rcases s.mapElement with - | - | d | ⟨_, link, info, _⟩ | ⟨_, link, _⟩ | l | n | m
  case some.laneStatInfo =>
    rcases info with - | ⟨_, link', _⟩
    · cases link <;>
        simp [LaneStatInfo.texts, LinkStatInfo.texts, laneStatInfoOf, sectionStatInfoOf,
          linkStatInfoOf, movementStatInfoOf] <;> tauto
    · cases link <;> cases link' <;>
        simp [LaneStatInfo.texts, SectionStatInfo.texts, LinkStatInfo.texts, laneStatInfoOf,
          sectionStatInfoOf, linkStatInfoOf, movementStatInfoOf, or_imp, forall_and] <;> tauto
  case some.sectionStatInfo =>
    cases link <;>
      simp [SectionStatInfo.texts, LinkStatInfo.texts, laneStatInfoOf, sectionStatInfoOf,
        linkStatInfoOf, movementStatInfoOf] <;> tauto
  all_goals
    simp [LinkStatInfo.texts, laneStatInfoOf, sectionStatInfoOf, linkStatInfoOf, movementStatInfoOf]
    tauto

/-! Rows that show no other string than that of the device. -/

/-- Rows below the first level have the device as their only string. -/
theorem phaseRow_congr (h : content deviceId = content' deviceId) {p : Phase} :
    phaseRow content splitId deviceId camId id p =
      phaseRow content' splitId deviceId camId id p := by
  rw [phaseRow, phaseRow, text_some_eq_iff.mpr h]

theorem phaseStateRow_congr (h : content deviceId = content' deviceId) {s : PhaseState} :
    phaseStateRow content splitId deviceId camId id s
      = phaseStateRow content' splitId deviceId camId id s := by
  rw [phaseStateRow, phaseStateRow, text_some_eq_iff.mpr h]

theorem optimPhaseRow_congr (h : content deviceId = content' deviceId) {p : OptimPhase} :
    optimPhaseRow content splitId deviceId camId id p
      = optimPhaseRow content' splitId deviceId camId id p := by
  rw [optimPhaseRow, optimPhaseRow, text_some_eq_iff.mpr h]

theorem optimPhaseMovementExRow_congr (h : content deviceId = content' deviceId) {m : MovementEx} :
    optimPhaseMovementExRow content splitId deviceId camId id m
      = optimPhaseMovementExRow content' splitId deviceId camId id m := by
  rw [optimPhaseMovementExRow, optimPhaseMovementExRow, text_some_eq_iff.mpr h]

end

/-! ## Forests -/

variable {camId camId' : Int64} {deviceId : σ} {F F' : Forest Int64 Row}

/-- The two spellings agree on the strings of each element, and on that of the device. -/
def Agree {α : Type} (content content' : σ → List Char) (deviceId : σ) (texts : α → List σ)
    (es : List α) : Prop :=
  ∀ e ∈ es, ∀ s ∈ deviceId :: texts e, content s = content' s

/-- Equal tables give equal spellings: the rows of a statistic show its strings, and they stand in
the same order under both. -/
theorem TrafficFlowForest.agree {fs : List (TrafficFlow σ)}
    (h : TrafficFlowForest content splitId camId deviceId fs F)
    (h' : TrafficFlowForest content' splitId camId' deviceId fs F')
    (heq : ∀ table ∈ trafficFlowTables, F.rowsAt table = F'.rowsAt table) :
    Agree content content' deviceId TrafficFlow.texts fs := by
  have hstats : ∀ {content : σ → List Char} {id : Int64} {f : TrafficFlow σ} {g : Forest Int64 Row},
      Forest.Grown "traffic_flow_stat" (trafficFlowStatRow content splitId id deviceId)
        (StatForest splitId) f.stats g → g.rowsAt "traffic_flow" = [] ∧
        (g.rowsAt "traffic_flow_stat").length = f.stats.length := fun hg =>
    ⟨hg.rowsAt_eq_nil (by decide) fun _ _ _ => rowsAt_statForest splitId (by decide),
      hg.length_rowsAt fun _ _ _ => rowsAt_statForest splitId (by decide)⟩
  intro f hf
  obtain ⟨_, _, hrow⟩ := Forest.Grown.row_eq (fun _ _ _ hg => (hstats hg).1)
    (fun _ _ _ hg => (hstats hg).1) h h' (heq _ (.head _)) f hf
  refine List.forall_mem_cons.mpr ⟨(trafficFlowRow_eq_iff.mp hrow).2, ?_⟩
  obtain ⟨_, _, g, g', hg, hg', hgg⟩ := Forest.Grown.under_eq (n := fun f => f.stats.length)
    (by decide) (fun _ _ _ hg => (hstats hg).2) (fun _ _ _ hg => (hstats hg).2) h h'
    (heq _ (.tail _ (.head _))) f hf
  refine List.forall_mem_flatMap.mpr fun s hs => ?_
  obtain ⟨_, _, hrow⟩ := Forest.Grown.row_eq (fun _ _ _ => rowsAt_statForest splitId (by decide))
    (fun _ _ _ => rowsAt_statForest splitId (by decide)) hg hg' hgg s hs
  exact (List.forall_mem_cons.mp (trafficFlowStatRow_eq_iff.mp hrow).2).2

/-- The converse: with the same spellings the rows stay. -/
theorem TrafficFlowForest.congr {fs : List (TrafficFlow σ)}
    (hagree : Agree content content' deviceId TrafficFlow.texts fs)
    (h : TrafficFlowForest content splitId camId deviceId fs F) :
    TrafficFlowForest content' splitId camId deviceId fs F := by
  refine Forest.Grown.congr (fun f hf id => ?_) (fun f hf id g hg => ?_) h
  · exact trafficFlowRow_eq_iff.mpr ⟨⟨rfl, rfl⟩, hagree f hf deviceId (.head _)⟩
  · refine Forest.Grown.congr (fun s hs id => ?_) (fun _ _ _ _ h => h) hg
    refine trafficFlowStatRow_eq_iff.mpr ⟨⟨rfl, rfl⟩, List.forall_mem_cons.mpr ⟨?_, fun t ht => ?_⟩⟩
    · exact hagree f hf deviceId (.head _)
    · exact hagree f hf t (.tail _ (List.mem_flatMap.mpr ⟨s, hs, ht⟩))

/-- Participants have their strings at the first level. -/
theorem ParticipantForest.agree {I : Int64 → Prop} {ps : List (ParticipantData σ)}
    (h : ParticipantForest content splitId I camId deviceId ps F)
    (h' : ParticipantForest content' splitId I camId' deviceId ps F')
    (heq : ∀ table ∈ participantTables, F.rowsAt table = F'.rowsAt table) :
    Agree content content' deviceId ParticipantData.texts ps := by
  have hkids : ∀ {id : Int64} {p : ParticipantData σ} {f : Forest Int64 Row}, Owns I p.id id ∧
      Forest.Both (Forest.Leaves "participant_data_position_3_d"
          (participantDataPosition3DRow splitId id) (p.polygon.elim [] (·.pos)))
        (Forest.Leaves "path_history_point" (pathHistoryPointRow splitId id) p.pathHistory) f →
      f.rowsAt "participant_data" = [] := fun hf =>
    Forest.Both.rowsAt_eq_nil (fun _ => Forest.Leaves.rowsAt_eq_nil (by decide))
      (fun _ => Forest.Leaves.rowsAt_eq_nil (by decide)) _ hf.2
  intro p hp
  obtain ⟨_, _, hrow⟩ := Forest.Grown.row_eq (fun _ _ _ => hkids) (fun _ _ _ => hkids) h h'
    (heq _ (.head _)) p hp
  exact (participantDataRow_eq_iff.mp hrow).2

theorem ParticipantForest.congr {I : Int64 → Prop} {ps : List (ParticipantData σ)}
    (hagree : Agree content content' deviceId ParticipantData.texts ps)
    (h : ParticipantForest content splitId I camId deviceId ps F) :
    ParticipantForest content' splitId I camId deviceId ps F :=
  Forest.Grown.congr (fun p hp _ => participantDataRow_eq_iff.mpr ⟨⟨rfl, rfl⟩, hagree p hp⟩)
    (fun _ _ _ _ h => h) h

/-- Intersections too; phases have none of their own. -/
theorem IntersectionForest.agree {es : List (IntersectionState σ)}
    (h : IntersectionForest content splitId camId deviceId es F)
    (h' : IntersectionForest content' splitId camId' deviceId es F')
    (heq : ∀ table ∈ intersectionTables, F.rowsAt table = F'.rowsAt table) :
    Agree content content' deviceId IntersectionState.texts es := by
  have hkids : ∀ {content : σ → List Char} {id : Int64} {s : IntersectionState σ}
      {f : Forest Int64 Row}, Forest.Grown "phase" (phaseRow content splitId deviceId id)
        (fun phaseId p => Forest.Leaves "phase_state"
          (phaseStateRow content splitId deviceId phaseId)
          p.phaseStates) s.phases f → f.rowsAt "intersection_state" = [] := fun hf =>
    Forest.Grown.rowsAt_eq_nil (by decide) (fun _ _ _ => Forest.Leaves.rowsAt_eq_nil (by decide)) hf
  intro e he
  obtain ⟨_, _, hrow⟩ := Forest.Grown.row_eq (fun _ _ _ => hkids) (fun _ _ _ => hkids) h h'
    (heq _ (.head _)) e he
  exact (intersectionStateRow_eq_iff.mp hrow).2

theorem IntersectionForest.congr {es : List (IntersectionState σ)}
    (hagree : Agree content content' deviceId IntersectionState.texts es)
    (h : IntersectionForest content splitId camId deviceId es F) :
    IntersectionForest content' splitId camId deviceId es F := by
  refine Forest.Grown.congr
    (fun e he _ => intersectionStateRow_eq_iff.mpr ⟨⟨rfl, rfl⟩, hagree e he⟩)
    (fun e he id f hf => ?_) h
  have hdevice : content deviceId = content' deviceId := hagree e he deviceId (.head _)
  refine Forest.Grown.congr (fun _ _ _ => phaseRow_congr hdevice) (fun p _ id f hf => ?_) hf
  exact Forest.Grown.congr (fun _ _ _ => phaseStateRow_congr hdevice) (fun _ _ _ _ h => h) hf

theorem OptimPhaseForest.congr {optimId : Int64} {ps : List OptimPhase}
    (hdevice : content deviceId = content' deviceId)
    (h : OptimPhaseForest content splitId deviceId optimId ps F) :
    OptimPhaseForest content' splitId deviceId optimId ps F :=
  Forest.Grown.congr (fun _ _ _ => optimPhaseRow_congr hdevice) (fun _ _ _ _ hf =>
    Forest.Grown.congr (fun _ _ _ => optimPhaseMovementExRow_congr hdevice)
      (fun _ _ _ _ h => h) hf) h

/-- Phases and turns lie in the last two tables. -/
theorem OptimPhaseForest.rowsAt_eq_nil {optimId : Int64} {ps : List OptimPhase} {t : String}
    (ht : t ∉ signalSchemeTables.drop 2)
    (h : OptimPhaseForest content splitId deviceId optimId ps F) : F.rowsAt t = [] :=
  Forest.Grown.rowsAt_eq_nil (fun heq => ht (by rw [heq]; exact .head _))
    (fun _ _ _ => Forest.Leaves.rowsAt_eq_nil fun heq =>
      ht (by rw [heq]; exact .tail _ (.head _))) h

/-- The strings of a scheme stand at the second level. -/
theorem SignalSchemeForest.agree {ss : List (SignalScheme σ)}
    (h : SignalSchemeForest content splitId camId deviceId ss F)
    (h' : SignalSchemeForest content' splitId camId' deviceId ss F')
    (heq : ∀ table ∈ signalSchemeTables, F.rowsAt table = F'.rowsAt table) :
    Agree content content' deviceId SignalScheme.texts ss := by
  have hoptims : ∀ {content : σ → List Char} {id : Int64} {s : SignalScheme σ}
      {f : Forest Int64 Row}, OptimDataForest content splitId deviceId id s.optimDataList f →
      f.rowsAt "signal_scheme" = [] ∧ (f.rowsAt "optim_data").length = s.optimDataList.length :=
    fun hf => ⟨Forest.Grown.rowsAt_eq_nil (by decide) (fun _ _ _ =>
        OptimPhaseForest.rowsAt_eq_nil (by decide)) hf,
      Forest.Grown.length_rowsAt (fun _ _ _ => OptimPhaseForest.rowsAt_eq_nil (by decide)) hf⟩
  intro s hs
  obtain ⟨_, _, hrow⟩ := Forest.Grown.row_eq (fun _ _ _ hf => (hoptims hf).1)
    (fun _ _ _ hf => (hoptims hf).1) h h' (heq _ (.head _)) s hs
  refine List.forall_mem_cons.mpr ⟨(signalSchemeRow_eq_iff.mp hrow).2, ?_⟩
  obtain ⟨_, _, g, g', hg, hg', hgg⟩ := Forest.Grown.under_eq (n := fun s => s.optimDataList.length)
    (by decide) (fun _ _ _ hf => (hoptims hf).2) (fun _ _ _ hf => (hoptims hf).2) h h'
    (heq _ (.tail _ (.head _))) s hs
  refine List.forall_mem_flatMap.mpr fun o ho => ?_
  obtain ⟨_, _, hrow⟩ := Forest.Grown.row_eq
    (fun _ _ _ => OptimPhaseForest.rowsAt_eq_nil (by decide))
    (fun _ _ _ => OptimPhaseForest.rowsAt_eq_nil (by decide)) hg hg' hgg o ho
  exact (List.forall_mem_cons.mp (optimDataRow_eq_iff.mp hrow).2).2

theorem SignalSchemeForest.congr {ss : List (SignalScheme σ)}
    (hagree : Agree content content' deviceId SignalScheme.texts ss)
    (h : SignalSchemeForest content splitId camId deviceId ss F) :
    SignalSchemeForest content' splitId camId deviceId ss F := by
  refine Forest.Grown.congr (fun s hs _ => signalSchemeRow_eq_iff.mpr
    ⟨⟨rfl, rfl⟩, hagree s hs deviceId (.head _)⟩) (fun s hs id f hf => ?_) h
  have hdevice : content deviceId = content' deviceId := hagree s hs deviceId (.head _)
  refine Forest.Grown.congr (fun o ho id => ?_) (fun _ _ _ _ hf => hf.congr hdevice) hf
  refine optimDataRow_eq_iff.mpr ⟨⟨rfl, rfl⟩, List.forall_mem_cons.mpr ⟨hdevice, fun t ht => ?_⟩⟩
  exact hagree s hs t (.tail _ (List.mem_flatMap.mpr ⟨o, ho, ht⟩))

end DataInsert

end Sadip
