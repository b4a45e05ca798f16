import Sadip.DataInsert.Intention.Walk
import Sadip.DataInsert.Roadside
import Sadip.DataInsert.WellFormed
import Sadip.Machinery.Sql.Sent

/-!
# DataInsert/Texts — the strings of a message

`CamData.texts` are the strings of a message that `camInsert` prints, and `virTexts` those of its
vehicles, among which it skips requests.  They are all in `D` exactly if the strings in the
statements are (`admits_camInsert`).
-/

set_option maxRecDepth 10000

namespace Sadip

namespace DataInsert

open Printf Sql Insertion

variable {σ : Type}

/-! ## Strings -/

/-- The strings of a vehicle. -/
def BsmData.texts (b : BsmData σ) : List σ := [b.obuId, b.plateNo]

/-- The strings of a message, but for those of its vehicles. -/
def CamData.texts (c : CamData σ) : List σ :=
  [c.ver, c.deviceId, c.mapDeviceId] ++ c.ptcList.flatMap (·.texts) ++
    c.rteList.flatMap (·.texts) ++
    c.rtsList.flatMap (·.texts) ++ c.trafficFlow.flatMap (·.texts) ++
    c.roadSignalState.elim [] (·.intersections.flatMap (·.texts)) ++
    c.signalSchemeList.flatMap (·.texts) ++ c.obstacleList.flatMap (·.texts) ++
    c.bsmList.flatMap (·.texts) ++ c.rscList.flatMap (·.texts)

/-! ## Parts -/

variable {print : σ → List Char} {D : σ → Prop} {splitId : Int32} {R : Prop}

theorem long_participantData : participantData.Long := .of_chars rfl (by decide +kernel)

theorem long_trafficFlowStat : trafficFlowStat.Long := .of_chars rfl (by decide +kernel)

theorem long_intersectionState : intersectionState.Long := .of_chars rfl (by decide +kernel)

theorem long_optimData : optimData.Long := .of_chars rfl (by decide +kernel)

theorem long_bsmData : bsmData.Long := .of_chars rfl (by decide +kernel)

/-- The statement on the message has three strings, each of which must be in `D`. -/
theorem admits_camSql (camId : Int64) (c : CamData σ) :
    Admits print D (camSql splitId camId c)
      ((∀ s ∈ [c.ver, c.deviceId, c.mapDeviceId], D s) ∧ R) (fun _ => D c.deviceId) fun _ => R :=
  admits_whole (l := camDataTable.toLayout) camSql_whole rfl rfl fun h => h _ (.tail _ (.head _))

/-- The device has been admitted with the message. -/
theorem known_device {deviceId : σ} (h : D deviceId) : ∀ s ∈ [deviceId], D s :=
  List.forall_mem_singleton.mpr h

section

variable {deviceId : σ}

/-- Road users: their strings, and that of the device, which is known. -/
theorem admits_ptclistSql (hdevice : D deviceId) (camId : Int64) (ps : List (ParticipantData σ)) :
    Admits print D (insertEach (ptclistSql splitId camId deviceId) ps)
      ((∀ s ∈ ps.flatMap (·.texts), D s) ∧ R) (fun _ => True) fun _ => R := by
  refine admits_insertEach fun i p R => (demands_ownId p.id).bind fun id _ => ?_
  refine (admits_append rfl (by simp [ParticipantData.texts]) (known_device hdevice)
    (.inr long_participantData)).bind fun text htext => ?_
  refine (admits_optionally_nil fun polygon => admits_insertEach_nil fun _ _ _ =>
    demands_nextId.bind fun _ _ => admits_append_nil rfl rfl).bind fun _ _ => ?_
  refine (admits_insertEach_nil fun _ _ _ =>
    demands_nextId.bind fun _ _ => admits_append_nil rfl rfl).bind fun _ _ => ?_
  exact admits_pure htext

theorem admits_rtePart (camId : Int64) (c : CamData σ) (hdevice : D c.deviceId) :
    Admits print D (rtePart splitId camId c) ((∀ s ∈ c.rteList.flatMap (·.texts), D s) ∧ R)
      (fun _ => True) fun _ => R := by
  refine admits_insertEach fun i e R => ?_
  rw [rteSql, RteData.texts]
  split
  · exact (admits_pure laden_nil).congr (and_congr_left'
      (iff_of_true spotless_nil (List.forall_mem_nil _)))
  · refine (demands_ownId e.id).bind fun id _ => ?_
    refine (admits_append rfl (by simp) (known_device hdevice) (.inr long_rteData)).bind
      fun text htext => ?_
    refine demands_nextId.bind fun forwardId _ => ?_
    refine (admits_insertEach_nil fun _ p _ => demands_nextId.bind fun _ _ =>
      (admits_append_nil rfl rfl).bind fun text htext => ?_).bind fun _ _ => ?_
    · refine (admits_insertEach_nil fun _ _ _ =>
        demands_nextId.bind fun _ _ => admits_append_nil rfl rfl).bind fun _ _ => ?_
      exact admits_pure htext
    refine (admits_insertEach_nil fun _ _ _ =>
      demands_nextId.bind fun _ _ => admits_append_nil rfl rfl).bind fun _ _ => ?_
    refine (admits_insertEach_nil fun _ _ _ =>
      demands_nextId.bind fun _ _ => admits_append_nil rfl rfl).bind fun _ _ => ?_
    exact admits_pure htext

/-- The points of the signs are read from the events. -/
theorem admits_rtsReferencePathSql (rteList : List (RteData σ)) (i : ℕ)
    (rtsDataId forwardRtsDataId : Int64) (ps : List ReferencePath) :
    Admits print D
      (insertEach (rtsReferencePathSql splitId rteList i rtsDataId forwardRtsDataId) ps)
      (PathsFound rteList i ps ∧ R) (fun _ => True) fun _ => R := by
  have hfound : (∀ q ∈ ps.zipIdx, ∀ r ∈ q.1.activePath.zipIdx,
      (rteActivepath rteList i q.2 r.2).isSome = true) ↔ PathsFound rteList i ps := by
    simp only [List.mem_zipIdx_iff_getElem?, Prod.forall]
    exact forall_comm.trans (forall₂_congr fun j p => forall_congr' fun _ => forall_comm)
  rw [← hfound]
  refine admits_insertEach_zipIdx (C := fun j (p : ReferencePath) => ∀ r ∈ p.activePath.zipIdx,
    (rteActivepath rteList i j r.2).isSome = true) fun j p R => ?_
  refine demands_nextId.bind fun id _ => (admits_append_nil rfl rfl).bind fun text htext => ?_
  rw [and_left_comm]
  refine Demands.bind (admits_insertEach_zipIdx
    (C := fun k _ => (rteActivepath rteList i j k).isSome = true) fun k _ R => ?_)
    fun _ _ => admits_pure htext
  refine demands_nextId.bind fun id _ => ?_
  cases rteActivepath rteList i j k with
  | none => exact fun h => Bool.false_ne_true h.1
  | some q => exact (admits_append_nil rfl rfl).congr (and_iff_right rfl).symm

/-- Signs: their points must be found before their strings matter. -/
theorem admits_rtsPart (camId : Int64) (c : CamData σ) (hdevice : D c.deviceId) :
    Admits print D (rtsPart splitId camId c) (RtsInRange c.rteList c.rtsList ∧
      (∀ s ∈ c.rtsList.flatMap (·.texts), D s) ∧ R) (fun _ => True) fun _ => R := by
  rw [← rtsInRange_iff, List.forall_mem_flatMap,
    ← forall_mem_zipIdx (C := fun e => ∀ s ∈ RtsData.texts e, D s), ← and_assoc, ← forall₂_and]
  refine admits_insertEach_zipIdx (C := fun i (e : RtsData σ) => (e.kept = true →
    PathsFound c.rteList i e.refPathList) ∧ ∀ s ∈ e.texts, D s) fun i e R => ?_
  rw [rtsDataSql, RtsData.texts, RtsData.kept]
  split
  · next hmanual =>
      refine (admits_pure laden_nil).congr
        (and_congr_left' (iff_of_true spotless_nil ⟨?_, List.forall_mem_nil _⟩))
      rw [hmanual]
      exact fun h => absurd h (by decide)
  · next hmanual =>
      rw [Bool.not_eq_true] at hmanual
      rw [hmanual, Bool.not_false, forall_prop_of_true rfl, and_comm (a := PathsFound _ _ _),
        and_assoc]
      refine demands_nextId.bind fun id _ => ?_
      refine (admits_append rfl rfl (known_device hdevice) (.inr long_rtsData)).bind
        fun text htext => ?_
      refine demands_nextId.bind fun forwardId _ => ?_
      rw [and_left_comm]
      refine (admits_rtsReferencePathSql c.rteList i id forwardId e.refPathList).bind fun _ _ => ?_
      refine (admits_insertEach_nil fun _ _ _ =>
        demands_nextId.bind fun _ _ => admits_append_nil rfl rfl).bind fun _ _ => ?_
      exact admits_pure htext

/-- What a statistic prints are its strings and the device. -/
theorem strings_trafficFlowStatArgs (trafficFlowId id : Int64) (s : TrafficFlowStat σ) :
    strings ((trafficFlowStatArgs splitId trafficFlowId deviceId id s).map .arg)
      = s.texts ++ [deviceId] := by
  rw [trafficFlowStatArgs, TrafficFlowStat.texts]
  rcases s.mapElement with - | - | d | ⟨_, link, info, _⟩ | ⟨_, link, _⟩ | l | n | m
  case some.laneStatInfo =>
    rcases info with - | ⟨_, link', _⟩
    · cases link <;>
        simp [mapElementColumns, LaneStatInfo.texts, LinkStatInfo.texts]
    · cases link <;> cases link' <;>
        simp [mapElementColumns, LaneStatInfo.texts, SectionStatInfo.texts, LinkStatInfo.texts]
  case some.sectionStatInfo =>
    cases link <;> simp [mapElementColumns, SectionStatInfo.texts, LinkStatInfo.texts]
  all_goals rfl

/-- The indices have no strings. -/
theorem admits_trafficFlowExtensionSql (statId : Int64) (x : TrafficFlowExtension) :
    Admits print D (trafficFlowExtensionSql splitId statId x) R (fun _ => True) fun _ => R := by
  rw [trafficFlowExtensionSql]
  refine (admits_insertEach_nil fun _ _ _ =>
    demands_nextId.bind fun _ _ => admits_append_nil rfl rfl).bind fun _ _ => ?_
  refine (admits_insertEach_nil fun _ _ _ =>
    demands_nextId.bind fun _ _ => admits_append_nil rfl rfl).bind fun _ _ => ?_
  refine (admits_insertEach_nil fun _ _ _ =>
    demands_nextId.bind fun _ _ => admits_append_nil rfl rfl).bind fun _ _ => ?_
  refine (admits_insertEach_nil fun _ _ _ =>
    demands_nextId.bind fun _ _ => admits_append_nil rfl rfl).bind fun _ _ => ?_
  exact admits_insertEach_nil fun _ _ _ =>
    demands_nextId.bind fun _ _ => admits_append_nil rfl rfl

/-- The row of a flow has only the device; the statistics below it have more. -/
theorem admits_trafficFlowSql (hdevice : D deviceId) (camId : Int64) (fs : List (TrafficFlow σ)) :
    Admits print D (insertEach (trafficFlowSql splitId camId deviceId) fs)
      ((∀ s ∈ fs.flatMap (·.texts), D s) ∧ R) (fun _ => True) fun _ => R := by
  refine admits_insertEach fun i f R => demands_nextId.bind fun id _ => ?_
  refine (admits_append_of_known rfl rfl (known_device hdevice)).bind fun text htext => ?_
  rw [and_left_comm]
  refine Demands.bind (admits_insertEach (g := TrafficFlowStat.texts) fun i s R => ?_)
    fun _ _ => admits_pure htext
  refine demands_nextId.bind fun statId _ => ?_
  refine (admits_optionally_nil fun polygon => admits_insertEach_nil fun _ _ _ =>
    demands_nextId.bind fun _ _ => admits_append_nil rfl rfl).bind fun _ _ => ?_
  refine (admits_append rfl (strings_trafficFlowStatArgs id statId s) (known_device hdevice)
    (.inr long_trafficFlowStat)).bind fun text htext => ?_
  refine (admits_optionally_nil fun x => admits_trafficFlowExtensionSql statId x).bind fun _ _ => ?_
  exact admits_pure htext

theorem admits_roadSignalState (camId : Int64) (c : CamData σ) (hdevice : D c.deviceId) :
    Admits print D (optionally c.roadSignalState fun s =>
      insertEach (intersectionStateSql splitId camId c.deviceId) s.intersections)
      ((∀ s ∈ c.roadSignalState.elim [] (·.intersections.flatMap (·.texts)), D s) ∧ R)
      (fun _ => True) fun _ => R := by
  refine admits_optionally fun s => admits_insertEach fun i s R => ?_
  refine demands_nextId.bind fun id _ => ?_
  refine (admits_append rfl rfl (known_device hdevice) (.inr long_intersectionState)).bind
    fun text htext => ?_
  refine Demands.bind (admits_insertEach_nil fun i p R => ?_) fun _ _ => admits_pure htext
  refine demands_nextId.bind fun id _ => ?_
  refine (admits_append_of_known rfl rfl (known_device hdevice)).bind fun text htext => ?_
  refine Demands.bind (admits_insertEach_nil fun _ _ _ => demands_nextId.bind fun _ _ =>
    admits_append_of_known rfl rfl (known_device hdevice)) fun _ _ => admits_pure htext

theorem admits_signalSchemeSql (hdevice : D deviceId) (camId : Int64) (ss : List (SignalScheme σ)) :
    Admits print D (insertEach (signalSchemeSql splitId camId deviceId) ss)
      ((∀ s ∈ ss.flatMap (·.texts), D s) ∧ R) (fun _ => True) fun _ => R := by
  refine admits_insertEach fun i s R => demands_nextId.bind fun id _ => ?_
  refine (admits_append_of_known rfl rfl (known_device hdevice)).bind fun text htext => ?_
  rw [and_left_comm]
  refine Demands.bind (admits_insertEach (g := OptimData.texts) fun i o R => ?_)
    fun _ _ => admits_pure htext
  refine demands_nextId.bind fun id _ => ?_
  refine (admits_append rfl rfl (known_device hdevice) (.inr long_optimData)).bind
    fun text htext => ?_
  refine Demands.bind (admits_insertEach_nil fun i p R => ?_) fun _ _ => admits_pure htext
  refine demands_nextId.bind fun id _ => ?_
  refine (admits_append_of_known rfl rfl (known_device hdevice)).bind fun text htext => ?_
  exact Demands.bind (admits_insertEach_nil fun _ _ _ => demands_nextId.bind fun _ _ =>
    admits_append_of_known rfl rfl (known_device hdevice)) fun _ _ => admits_pure htext

end

/-- Regions have no strings. -/
theorem admits_camPolygonSql (camId : Int64) (ps : List Polygon) :
    Admits print D (insertEach (camPolygonSql splitId camId) ps) R (fun _ => True) fun _ => R := by
  refine admits_insertEach_nil fun i p R => demands_nextId.bind fun id _ => ?_
  refine (admits_append_nil rfl rfl).bind fun text htext => ?_
  exact Demands.bind (admits_insertEach_nil fun _ _ _ => demands_nextId.bind fun _ _ =>
    admits_append_nil rfl rfl) fun _ _ => admits_pure htext

theorem admits_bsmSql (camId : Int64) (bs : List (BsmData σ)) :
    Admits print D (insertEach (bsmSql splitId camId) bs)
      ((∀ s ∈ bs.flatMap (·.texts), D s) ∧ R) (fun _ => True) fun _ => R :=
  admits_insertEach fun _ _ _ => demands_nextId.bind fun _ _ =>
    admits_append_own rfl rfl long_bsmData

/-! ## The message -/

/-- The strings that are printed are in `D`, and all points and requests that are read are there. -/
structure TextsIn (D : σ → Prop) (c : CamData σ) : Prop where
  texts : ∀ s ∈ c.texts, D s
  points : RtsInRange c.rteList c.rtsList
  vehicles : Admitted D (virTexts 0 none c.virList)

/-- **The strings in the statements of a message** are in `D` exactly if those of the message are.
-/
theorem admits_camInsert (c : CamData σ) : Admits print D (camInsert splitId c) (TextsIn D c)
    (fun _ => True) fun _ => True := by
  have htexts : (∀ s ∈ [c.ver, c.deviceId, c.mapDeviceId], D s) ∧
      (∀ s ∈ c.ptcList.flatMap (·.texts), D s) ∧ (∀ s ∈ c.rteList.flatMap (·.texts), D s) ∧
      RtsInRange c.rteList c.rtsList ∧ (∀ s ∈ c.rtsList.flatMap (·.texts), D s) ∧
      (∀ s ∈ c.trafficFlow.flatMap (·.texts), D s) ∧
      (∀ s ∈ c.roadSignalState.elim [] (·.intersections.flatMap (·.texts)), D s) ∧
      (∀ s ∈ c.signalSchemeList.flatMap (·.texts), D s) ∧
      (∀ s ∈ c.obstacleList.flatMap (·.texts), D s) ∧ (∀ s ∈ c.bsmList.flatMap (·.texts), D s) ∧
      (∀ s ∈ c.rscList.flatMap (·.texts), D s) ∧ Admitted D (virTexts 0 none c.virList) ∧ True ↔
      TextsIn D c := by
    constructor
    · rintro ⟨h₁, h₂, h₃, hpoints, h₄, h₅, h₆, h₇, h₈, h₉, h₁₀, hvehicles, -⟩
      refine ⟨?_, hpoints, hvehicles⟩
      simp only [CamData.texts, List.forall_mem_append]
      exact ⟨⟨⟨⟨⟨⟨⟨⟨⟨h₁, h₂⟩, h₃⟩, h₄⟩, h₅⟩, h₆⟩, h₇⟩, h₈⟩, h₉⟩, h₁₀⟩
    · rintro ⟨htexts, hpoints, hvehicles⟩
      simp only [CamData.texts, List.forall_mem_append] at htexts
      obtain ⟨⟨⟨⟨⟨⟨⟨⟨⟨h₁, h₂⟩, h₃⟩, h₄⟩, h₅⟩, h₆⟩, h₇⟩, h₈⟩, h₉⟩, h₁₀⟩ := htexts
      exact ⟨h₁, h₂, h₃, hpoints, h₄, h₅, h₆, h₇, h₈, h₉, h₁₀, hvehicles, trivial⟩
  refine Demands.congr ?_ htexts
  rw [camInsert_parts]
  refine (demands_ownId c.id).bind fun camId _ => (admits_camSql camId c).bind fun _ hdevice => ?_
  refine (admits_ptclistSql hdevice camId c.ptcList).bind fun _ _ => ?_
  refine (admits_rtePart camId c hdevice).bind fun _ _ => ?_
  refine (admits_rtsPart camId c hdevice).bind fun _ _ => ?_
  refine (admits_trafficFlowSql hdevice camId c.trafficFlow).bind fun _ _ => ?_
  refine (admits_roadSignalState camId c hdevice).bind fun _ _ => ?_
  refine (admits_signalSchemeSql hdevice camId c.signalSchemeList).bind fun _ _ => ?_
  refine (admits_camPolygonSql camId c.detectedRegion).bind fun _ _ => ?_
  refine (admits_obslistSql camId c.obstacleList).bind fun _ _ => ?_
  refine (admits_bsmSql camId c.bsmList).bind fun _ _ => ?_
  refine (admits_rscSql camId c.rscList).bind fun _ _ => ?_
  exact admits_virList camId c.virList True

/-! ## What is sent -/

/-- What is admitted stays so if more is. -/
theorem Admitted.mono {D' : σ → Prop} (hD : ∀ s, D s → D' s) {o : Option (List σ)}
    (h : Admitted D o) : Admitted D' o := by
  obtain ⟨ts, hts, h⟩ := h
  exact ⟨ts, hts, fun s hs => hD s (h s hs)⟩

theorem TextsIn.mono {D' : σ → Prop} (hD : ∀ s, D s → D' s) {c : CamData σ} (h : TextsIn D c) :
    TextsIn D' c :=
  ⟨fun s hs => hD s (h.texts s hs), h.points, h.vehicles.mono hD⟩

variable (ids : ℕ → Int64) (n : ℕ) (splitId : Int32) (c : CamData σ)

/-- The statements of a message with these strings, if it is stored to its end. -/
def camSent (content : σ → List Char) : Option (List Sent) :=
  let o := (camInsert splitId c).run (fun s => cut (content s)) ids n
  match o.ending with
  | .done _ => some (o.statements.map (send (fun s => cut (content s)) content))
  | _ => none

variable {ids n splitId c} {content harmless : σ → List Char}

theorem camSent_eq_some {ss : List Sent} : camSent ids n splitId c content = some ss ↔
    ((camInsert splitId c).run (fun s => cut (content s)) ids n).Delivers fun _ ts _ =>
      ss = ts.map (send (fun s => cut (content s)) content) := by
  rw [camSent, Outcome.Delivers]
  split
  · next a h =>
      rw [h, Option.some.injEq, eq_comm]
      refine ⟨fun hss => ⟨a, rfl, hss⟩, ?_⟩
      rintro ⟨-, -, hss⟩
      exact hss
  · next h =>
      refine iff_of_false (Option.some_ne_none ss).symm ?_
      rintro ⟨a, ha, -⟩
      exact h a ha

/-- **The statements of a message are faithful** exactly if its texts fit and its strings are
literal. -/
theorem faithful_camSent_iff :
    (∃ ss, camSent ids n splitId c content = some ss ∧ ∀ s ∈ ss, s.Faithful) ↔
      Fits (fun s => cut (content s)) ids (camInsert splitId c) n ∧
        TextsIn (fun s => isLiteral (content s) = true) c := by
  have hadmits : Admits (fun s => cut (content s)) (fun s => isLiteral (content s) = true)
      (camInsert splitId c) (TextsIn (fun s => isLiteral (content s) = true) c) (fun _ => True)
      fun _ => True := admits_camInsert c
  have hyields : Yields (fun s => cut (content s)) (fun _ => True) (camInsert splitId c)
      (fun _ ts _ => (∀ t ∈ ts, (send (fun s => cut (content s)) content t).Faithful) ↔
        TextsIn (fun s => isLiteral (content s) = true) c)
      fun _ _ => ¬TextsIn (fun s => isLiteral (content s) = true) c := by
    refine (hadmits.yields.and (always_camInsert c).yields).mono ?_ fun _ _ h => h.1
    rintro ds ts - ⟨hspotless, -, hts⟩
    rw [← hspotless]
    refine forall₂_congr fun t ht => ?_
    obtain ⟨⟨ps, hs, hprints, hholes, -⟩, -⟩ := hts t ht
    exact faithful_send_iff (fun _ => rfl) hholes hprints
  rw [← hyields.delivered_iff (fun _ => trivial) n]
  simp only [camSent_eq_some, Outcome.Delivers]
  constructor
  · rintro ⟨ss, ⟨a, ha, rfl⟩, hss⟩
    exact ⟨a, ha, List.forall_mem_map.mp hss⟩
  · rintro ⟨a, ha, hts⟩
    exact ⟨_, ⟨a, ha, rfl⟩, List.forall_mem_map.mpr hts⟩

/-- Harmless strings are as long. -/
theorem run_of_replaces (h : Replaces harmless content) :
    (camInsert splitId c).run (fun s => cut (harmless s)) ids n =
      (camInsert splitId c).run (fun s => cut (content s)) ids n :=
  run_congr h.bytes_cut ids _ n

end DataInsert

end Sadip
