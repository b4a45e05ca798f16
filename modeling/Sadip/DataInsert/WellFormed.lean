import Sadip.DataInsert.Forests
import Sadip.DataInsert.Intention.Orderly

/-!
# DataInsert/WellFormed — when every statement of a message is one

`camInsert` part by part: what it takes for the statements of each to be formed (`forms_camInsert`),
and so for every text it has executed to be read as an INSERT statement (`wellFormed_iff`).
-/

set_option maxRecDepth 10000

namespace Sadip

namespace DataInsert

open Printf Sql Insertion

variable {σ : Type} {print content : σ → List Char} {splitId : Int32} {P : Prop}

/-! ## Events and signs -/

theorem objIdValue_spoilt : objIdValue.Spoilt content :=
  Layout.spoilt_of_unclosed rfl (by decide +kernel)

theorem bsmData_spoilt : bsmData.Spoilt content :=
  Layout.spoilt_of_runsOn rfl rfl (List.take_append_drop 39 bsmData.slots).symm (by decide +kernel)

theorem forms_rteReferencePathSql (rteDataId forwardRteDataId : Int64) (ps : List ReferencePath) :
    Forms print content (insertEach (rteReferencePathSql splitId rteDataId forwardRteDataId) ps) P
      (fun _ => True) fun _ => P := by
  refine forms_insertEach (t := rteDataReferencePath) fun i p R => ?_
  refine demands_nextId.bind fun id _ => (forms_append rfl).bind fun text htext => ?_
  have hpoints : Forms print content (insertEach (rteActivepathSql splitId id) p.activePath) R
      (fun _ => True) fun _ => R :=
    forms_insertEach (t := rteDataReferencePathPosition3D) fun _ _ _ =>
      demands_nextId.bind fun _ _ => forms_append rfl
  exact hpoints.bind fun _ _ => demands_pure (Q := fun _ => R) htext

theorem forms_rteReferenceLinkSql (rteDataId forwardRteDataId : Int64) (ls : List ReferenceLink) :
    Forms print content (insertEach (rteReferenceLinkSql splitId rteDataId forwardRteDataId) ls) P
      (fun _ => True) fun _ => P :=
  (grows_rteReferenceLinkSql content [] rteDataId forwardRteDataId ls).forms

/-- What is said about an element of a list does not depend on its place. -/
theorem forall_mem_zipIdx {α : Type} {es : List α} {C : α → Prop} :
    (∀ q ∈ es.zipIdx, C q.1) ↔ ∀ e ∈ es, C e := by
  rw [← List.forall_mem_map (f := Prod.fst), List.zipIdx_map_fst]

/-- The events: none that is kept has an object, and the first one is kept. -/
theorem forms_rtePart (camId : Int64) (c : CamData σ) :
    Forms print content (rtePart splitId camId c)
      ((∀ e ∈ c.rteList, e.kept = true → e.eventObjId = []) ∧ Starts RteData.kept c.rteList ∧ P)
      (fun _ => True) fun _ => P := by
  rw [← forall_mem_zipIdx (C := fun e => RteData.kept e = true → e.eventObjId = [])]
  refine forms_insertEach_kept (t := rteData) (C := fun _ (e : RteData σ) => e.eventObjId = [])
    (fun _ => long_rteData) (fun i e he => ?_) fun i e he R => ?_
  · rw [RteData.kept, Bool.not_eq_false'] at he
    rw [rteSql, he, if_pos rfl]
  · rw [RteData.kept, Bool.not_eq_true'] at he
    rw [rteSql, he, if_neg Bool.false_ne_true]
    refine (demands_ownId e.id).bind fun id _ => (forms_append rfl).bind fun text htext => ?_
    refine demands_nextId.bind fun forwardId _ => ?_
    refine (forms_rteReferencePathSql id forwardId e.referencePath).bind fun _ _ => ?_
    refine (forms_rteReferenceLinkSql id forwardId e.referenceLinks).bind fun _ _ => ?_
    refine (forms_insertEach_spoilt objIdValue_spoilt (fun _ _ => rfl) e.eventObjId).bind
      fun _ _ => ?_
    exact demands_pure (Q := fun _ => R) htext

/-- The points of these paths of the `i`th sign are found. -/
def PathsFound (rteList : List (RteData σ)) (i : ℕ) (ps : List ReferencePath) : Prop :=
  ∀ j p, ps[j]? = some p → ∀ k q, p.activePath[k]? = some q →
    (rteActivepath rteList i j k).isSome = true

theorem rtsInRange_iff {rteList : List (RteData σ)} {rtsList : List (RtsData σ)} :
    (∀ q ∈ rtsList.zipIdx, q.1.kept = true → PathsFound rteList q.2 q.1.refPathList) ↔
      RtsInRange rteList rtsList := by
  simp only [List.mem_zipIdx_iff_getElem?, Prod.forall, RtsData.kept, Bool.not_eq_true']
  exact forall_comm

theorem forms_rtsReferencePathSql (rteList : List (RteData σ)) (i : ℕ)
    (rtsDataId forwardRtsDataId : Int64) (ps : List ReferencePath) :
    Forms print content
      (insertEach (rtsReferencePathSql splitId rteList i rtsDataId forwardRtsDataId) ps)
      (PathsFound rteList i ps ∧ P) (fun _ => True) fun _ => P := by
  by_cases hfound : PathsFound rteList i ps
  · exact (grows_rtsReferencePathSql content [] rteList i rtsDataId forwardRtsDataId
      hfound).forms.congr (and_iff_right hfound).symm
  · have hcompletes : Completes print
        (insertEach (rtsReferencePathSql splitId rteList i rtsDataId forwardRtsDataId) ps) False :=
      (completes_insertEach (completes_rtsReferencePathSql rteList i rtsDataId forwardRtsDataId)
        ps).congr (iff_of_false hfound not_false)
    exact (demands_of_completes hcompletes).congr (iff_of_false not_false fun h => hfound h.1)

/-- The signs: the points of those that are kept are found, and the first one is kept. -/
theorem forms_rtsPart (camId : Int64) (c : CamData σ) :
    Forms print content (rtsPart splitId camId c)
      (RtsInRange c.rteList c.rtsList ∧ Starts RtsData.kept c.rtsList ∧ P) (fun _ => True)
      fun _ => P := by
  rw [← rtsInRange_iff]
  refine forms_insertEach_kept (t := rtsData)
    (C := fun i (e : RtsData σ) => PathsFound c.rteList i e.refPathList) (fun _ => long_rtsData)
    (fun i e he => ?_) fun i e he R => ?_
  · rw [RtsData.kept, Bool.not_eq_false'] at he
    rw [rtsDataSql, he, if_pos rfl]
  · rw [RtsData.kept, Bool.not_eq_true'] at he
    rw [rtsDataSql, he, if_neg Bool.false_ne_true]
    refine demands_nextId.bind fun id _ => (forms_append rfl).bind fun text htext => ?_
    refine demands_nextId.bind fun forwardId _ => ?_
    refine (forms_rtsReferencePathSql c.rteList i id forwardId e.refPathList).bind fun _ _ => ?_
    refine (grows_rtsReferenceLinkSql content [] id forwardId e.refLinkList).forms.bind
      fun _ _ => ?_
    exact demands_pure (Q := fun _ => R) htext

/-! ## What has no condition -/

theorem forms_camSql (camId : Int64) (c : CamData σ) :
    Forms print content (camSql splitId camId c) P (fun _ => True) fun _ => P :=
  forms_whole (t := camDataTable) camSql_whole rfl

theorem forms_ptclistSql (camId : Int64) (deviceId : σ) (ps : List (ParticipantData σ)) :
    Forms print content (insertEach (ptclistSql splitId camId deviceId) ps) P (fun _ => True)
      fun _ => P :=
  (grows_ptclistSql content (ps.map (·.id.toInt64)) camId deviceId fun _ hp _ =>
    List.mem_map_of_mem hp).forms

theorem forms_roadSignalState (camId : Int64) (c : CamData σ) :
    Forms print content (optionally c.roadSignalState fun s =>
      insertEach (intersectionStateSql splitId camId c.deviceId) s.intersections) P (fun _ => True)
      fun _ => P :=
  forms_optionally fun s =>
    (grows_intersectionStateSql content [] camId c.deviceId s.intersections).forms

theorem forms_obslistSql (camId : Int64) (os : List (ObstacleData σ)) :
    Forms print content (insertEach (obslistSql splitId camId) os) P (fun _ => True)
      fun _ => P := by
  refine forms_insertEach (t := obstacleData) fun i o R => ?_
  refine demands_nextId.bind fun id _ => (forms_append rfl).bind fun text htext => ?_
  have hoptional : Forms print content (optionally o.polygon fun polygon =>
      insertEach (obspolySql splitId id) polygon.pos) R (fun _ => True) fun _ => R :=
    forms_optionally fun polygon => forms_insertEach (t := obstacleDataPosition3D) fun _ _ _ =>
      demands_nextId.bind fun _ _ => forms_append rfl
  exact hoptional.bind fun _ _ => demands_pure (Q := fun _ => R) htext

theorem forms_rscSql (camId : Int64) (rs : List (RscData σ)) :
    Forms print content (insertEach (rscSql splitId camId) rs) P (fun _ => True) fun _ => P := by
  refine forms_insertEach (t := rscData) fun i r R => ?_
  refine demands_nextId.bind fun id _ => ?_
  refine (forms_optionally fun path => forms_insertEach (t := rscDataDriveSuggestionPosition3D)
    fun _ _ _ => demands_nextId.bind fun _ _ => forms_append rfl).bind fun _ _ => ?_
  refine (forms_optionally fun guidance => forms_insertEach (t := rscDataPathPlanningPoint)
    fun _ _ _ => demands_nextId.bind fun _ _ => forms_append rfl).bind fun _ _ => ?_
  refine (forms_optionally fun path => forms_insertEach (t := rscDataLaneCoordinationPosition3D)
    fun _ _ _ => demands_nextId.bind fun _ _ => forms_append rfl).bind fun _ _ => ?_
  exact forms_append rfl

/-! ## The message -/

/-- What keeps the statements of a message from being statements is not there: a list of objects,
whose header is not closed, and one of vehicles, whose tuples lack a comma; an event or a sign that
is passed over before one that is not, so that there is no header; a point that is not found; and a
second header. -/
structure StatementsFit (c : CamData σ) : Prop where
  objects : ∀ e ∈ c.rteList, e.kept = true → e.eventObjId = []
  events : Starts RteData.kept c.rteList
  points : RtsInRange c.rteList c.rtsList
  signs : Starts RtsData.kept c.rtsList
  bsm : c.bsmList = []
  vehicles : orderly 0 0 c.virList = true

/-- **The statements of a message** are formed exactly if they fit. -/
theorem forms_camInsert (c : CamData σ) :
    Forms print content (camInsert splitId c) (StatementsFit c)
    (fun _ => True) fun _ => True := by
  have hfit : ((∀ e ∈ c.rteList, e.kept = true → e.eventObjId = []) ∧
    Starts RteData.kept c.rteList ∧
      RtsInRange c.rteList c.rtsList ∧ Starts RtsData.kept c.rtsList ∧ c.bsmList = [] ∧
      orderly 0 0 c.virList = true) ↔ StatementsFit c :=
    ⟨fun ⟨h₁, h₂, h₃, h₄, h₅, h₆⟩ => ⟨h₁, h₂, h₃, h₄, h₅, h₆⟩,
      fun h => ⟨h.objects, h.events, h.points, h.signs, h.bsm, h.vehicles⟩⟩
  refine Demands.congr ?_ hfit
  rw [camInsert_parts]
  refine (demands_ownId c.id).bind fun camId _ => (forms_camSql camId c).bind fun _ _ => ?_
  refine (forms_ptclistSql camId c.deviceId c.ptcList).bind fun _ _ => ?_
  refine (forms_rtePart camId c).bind fun _ _ => (forms_rtsPart camId c).bind fun _ _ => ?_
  refine (grows_trafficFlowSql content [] camId c.deviceId c.trafficFlow).forms.bind fun _ _ => ?_
  refine (forms_roadSignalState camId c).bind fun _ _ => ?_
  refine (grows_signalSchemeSql content [] camId c.deviceId c.signalSchemeList).forms.bind
    fun _ _ => ?_
  refine (grows_camPolygonSql content [] camId c.detectedRegion).forms.bind fun _ _ => ?_
  refine (forms_obslistSql camId c.obstacleList).bind fun _ _ => ?_
  refine (forms_insertEach_spoilt bsmData_spoilt (fun _ _ => rfl) c.bsmList).bind fun _ _ => ?_
  exact (forms_rscSql camId c.rscList).bind fun _ _ => forms_virList camId c.virList

/-! ## The texts -/

theorem always_camInsert (c : CamData σ) :
    Always (Executed camTables) (camInsert splitId c) fun _ => True := by
  rw [camInsert]
  refine .bind (always_ownId fun _ => trivial) fun camId _ => ?_
  refine .bind (always_among (by decide) (always_camSql camId c)) fun _ _ => ?_
  refine .bind (always_among (by decide) (always_insertEach (always_ptclistSql camId c.deviceId)
    c.ptcList)) fun _ _ => ?_
  refine .bind (always_among (by decide) (always_rteList camId c.deviceId c.rteList)) fun _ _ => ?_
  refine .bind (always_among (by decide) (always_rtsList c.rteList camId c.deviceId c.rtsList))
    fun _ _ => ?_
  refine .bind (always_among (by decide) (always_insertEach (always_trafficFlowSql camId c.deviceId)
    c.trafficFlow)) fun _ _ => ?_
  refine .bind (always_among (by decide) (always_intersections camId c)) fun _ _ => ?_
  refine .bind (always_among (by decide) (always_insertEach
    (always_signalSchemeSql camId c.deviceId)
    c.signalSchemeList)) fun _ _ => ?_
  refine .bind (always_among (by decide) (always_insertEach (always_camPolygonSql camId)
    c.detectedRegion)) fun _ _ => ?_
  exact always_among (by decide) (always_last camId c)

/-- What is printed is read as it is meant. -/
theorem yields_wellFormed (c : CamData PlainText) :
    Yields PlainText.shown (fun _ => True) (camInsert splitId c)
      (fun _ ss _ => (∀ t ∈ ss, WellFormed (chars PlainText.shown t)) ↔ StatementsFit c)
      fun _ _ => ¬StatementsFit c := by
  have hforms : Forms PlainText.shown PlainText.shown (camInsert splitId c) (StatementsFit c)
    (fun _ => True) fun _ => True := forms_camInsert c
  refine (hforms.yields.and (always_camInsert c).yields).mono ?_ fun _ _ h => h.1
  rintro ds ss - ⟨hformed, -, hss⟩
  rw [← hformed]
  refine forall₂_congr fun t ht => ?_
  rw [WellFormed, (hss t ht).1.read_eq_meaning fun s _ => s.denotes]

/-- **Every statement is well formed**: the message is stored to its end, and each text that was
executed is one INSERT statement, with a closed column list and tuples that have a value for each
column, exactly if the texts fit their buffers and the statements fit. -/
theorem wellFormed_iff (ids : ℕ → Int64) (n : ℕ) (splitId : Int32) (c : CamData PlainText) :
    ((camInsert splitId c).run PlainText.shown ids n).Delivers
        (fun _ ss _ => ∀ t ∈ ss, WellFormed (chars PlainText.shown t)) ↔
      Fits PlainText.shown ids (camInsert splitId c) n ∧ StatementsFit c :=
  (yields_wellFormed c).delivered_iff (fun _ => trivial) n

/-- An event with an object. -/
def objectEvent : CamData PlainText :=
  { CamData.blank PlainText.empty with
    rteList := [{ RteData.blank PlainText.empty with
      eventObjId := [{ ptcId := 1, obsId := 2, role := 0 }] }] }

theorem fits_objectEvent {ids : ℕ → Int64} {n : ℕ} :
    Fits PlainText.shown ids (camInsert splitId objectEvent) n := by
  refine Roomy.fits ids ?_ n
  refine (roomy_ownId _).bind fun camId => (roomy_camSql ?_).bind fun _ => ?_
  · exact Nat.zero_le 1000
  refine roomy_insertEach_nil.bind fun _ => (roomy_insertEach fun i e he => ?_).bind fun _ => ?_
  · obtain rfl := List.mem_singleton.mp he
    exact roomy_rteSql i (Nat.zero_le 7000)
  refine roomy_insertEach_nil.bind fun _ => roomy_insertEach_nil.bind fun _ => ?_
  refine (roomy_pure ()).bind fun _ => roomy_insertEach_nil.bind fun _ => ?_
  refine roomy_insertEach_nil.bind fun _ => roomy_insertEach_nil.bind fun _ => ?_
  refine roomy_insertEach_nil.bind fun _ => roomy_insertEach_nil.bind fun _ => ?_
  exact (roomy_virSql camId 0 [] (List.forall_mem_nil _)).bind fun sqls => roomy_flush sqls

theorem not_wellFormed :
    Fits PlainText.shown .ofNat (camInsert 1 objectEvent) 0 ∧
    ¬((camInsert 1 objectEvent).run PlainText.shown .ofNat 0).Delivers
      (fun _ ss _ => ∀ t ∈ ss, WellFormed (chars PlainText.shown t)) := by
  refine ⟨fits_objectEvent, fun hdelivers => ?_⟩
  obtain ⟨-, hfit⟩ := ((yields_wellFormed objectEvent).delivered_iff (fun _ => trivial) 0).mp
    hdelivers
  have hobjects := hfit.objects _ (.head _) rfl
  cases hobjects

end DataInsert

end Sadip
