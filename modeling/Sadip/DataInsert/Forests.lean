import Sadip.DataInsert
import Sadip.DataInsert.Intention.Room
import Sadip.DataInsert.Spelling

/-!
# DataInsert/Forests — what a whole run leaves of a message

A list of the message `Stands` in the tables if their rows are those of a forest that follows it.
The participants are stored before the signs, so they always do.  Traffic flow, signals and regions
come behind the signs, whose points are read from the events: they stand in the tables if all of
these points are there, or if there was nothing to store.  And the strings that are shown in the
rows must have no NUL, since `%s` prints no more of them (`storesTrafficFlow_iff`,
`storesForests_iff`).
-/

set_option maxRecDepth 10000

namespace Sadip

namespace DataInsert

open Printf Sql Insertion

variable {σ α : Type} {print content : σ → List Char} {ids : ℕ → Int64} {n : ℕ} {splitId : Int32}
  {c : CamData σ}

/-! ## A whole run -/

/-- The identifiers that the message has for itself and its participants. -/
def CamData.ownIds (c : CamData σ) : List Int64 :=
  ((c.id :: c.ptcList.map (·.id)).filter (· ≠ 0)).map UInt64.toInt64

theorem mem_ownIds {id : UInt64} (h : id ∈ c.id :: c.ptcList.map (·.id)) (hne : id ≠ 0) :
    id.toInt64 ∈ c.ownIds :=
  List.mem_map_of_mem (List.mem_filter.mpr ⟨h, decide_eq_true hne⟩)

theorem drawn (ids : ℕ → Int64) (m : ℕ) : Drawn ids (ids m) := ⟨m, rfl⟩

theorem ingested_run {I : Int64 → Prop} (hI : ∀ m, I (ids m))
    (hfits : Fits print ids (camInsert splitId c) n) :
    ∃ camId, Ingested content I c.ownIds splitId c camId
      ((camInsert splitId c).run print ids n).drawn
      ((camInsert splitId c).run print ids n).statements := by
  have hmeets : ((camInsert splitId c).run print ids n).Meets
      (fun ds ss _ => ∃ camId, Ingested content I c.ownIds splitId c camId ds ss)
      (fun ds ss => ∃ camId, Ingested content I c.ownIds splitId c camId ds ss) := by
    refine Yields.run hI (yields_camInsert (fun hne => ?_) fun p hp hne => ?_) n
    · exact mem_ownIds List.mem_cons_self hne
    · exact mem_ownIds (.tail _ (List.mem_map_of_mem hp)) hne
  rw [Outcome.Meets] at hmeets
  cases hending : ((camInsert splitId c).run print ids n).ending with
  | done a =>
      rw [hending] at hmeets
      exact hmeets
  | overflow => exact absurd hending (Within.run.mp hfits)
  | undefined =>
      rw [hending] at hmeets
      exact hmeets

/-! ## Lists in their tables -/

/-- The rows that these statements put into the tables are those of a forest in `P`.  If the
identifiers that were drawn are distinct, so are those of the forest, less those that the message
carried. -/
def Stands (print : σ → List Char) (carried : List Int64) (T : List String)
    (P : Forest Int64 Row → Prop) (ds : List Int64) (ss : List (Text σ)) : Prop :=
  ∃ F, P F ∧ (∀ table ∈ T, rowsOf print table ss = F.rowsAt table) ∧
    (ds.Nodup → (F.ids.filter (· ∉ carried)).Nodup)

variable {carried : List Int64} {names T : List String} {P : Forest Int64 Row → Prop}
  {ds : List Int64} {ss : List (Text σ)}

theorem Sown.rowsOf_eq (h : Sown print carried T P ds ss) (hss : ∀ t ∈ ss, Executed names t)
    (hdenotes : ∀ s, Denotes (print s) (print s)) : ∃ F, P F ∧
      (∀ table ∈ T, rowsOf print table ss = F.rowsAt table) ∧
      (F.ids.filter (· ∉ carried)).Subperm ds := by
  obtain ⟨F, hF, hrows, hids⟩ := h
  refine ⟨F, hF, fun table htable => ?_, hids⟩
  rw [rowsOf_eq_meantRows hss fun _ _ s _ => hdenotes s, hrows table htable]

/-- What is printed stands in the tables in the way that it is spelt in the message, if the two ways
are the same. -/
theorem Sown.stands {P' : Forest Int64 Row → Prop} (h : Sown print carried T P ds ss)
    (hss : ∀ t ∈ ss, Executed names t) (hdenotes : ∀ s, Denotes (print s) (print s))
    (hP : ∀ F, P F → P' F) : Stands print carried T P' ds ss := by
  obtain ⟨F, hF, hrows, l, hperm, hsub⟩ := h.rowsOf_eq hss hdenotes
  exact ⟨F, hP F hF, hrows, fun hdistinct => hperm.nodup_iff.mp (hdistinct.sublist hsub)⟩

/-- If it does, the rows of the two forests are the same. -/
theorem Stands.rowsAt_eq {P' : Forest Int64 Row → Prop} (h : Stands print carried T P' ds ss)
    {carried' : List Int64} (hsown : Sown print carried' T P ds ss)
    (hss : ∀ t ∈ ss, Executed names t) (hdenotes : ∀ s, Denotes (print s) (print s)) :
    ∃ F F', P F ∧ P' F' ∧ ∀ table ∈ T, F.rowsAt table = F'.rowsAt table := by
  obtain ⟨F, hF, hrows, -⟩ := hsown.rowsOf_eq hss hdenotes
  obtain ⟨F', hF', hrows', -⟩ := h
  exact ⟨F, F', hF, hF', fun table htable => by rw [← hrows table htable, hrows' table htable]⟩

/-- **Without any rows**, a list stands in its tables only if it is empty. -/
theorem stands_grown_iff {table : String} {row : Int64 → α → Row}
    {kids : Int64 → α → Forest Int64 Row → Prop} {es : List α} (htable : table ∈ T)
    (hnone : ∀ t ∈ T, rowsOf print t ss = []) :
    Stands print carried T (Forest.Grown table row kids es) ds ss ↔ es = [] := by
  constructor
  · rintro ⟨F, hF, hrows, -⟩
    exact hF.eq_nil ((hrows table htable).symm.trans (hnone table htable))
  · rintro rfl
    exact ⟨.nil, rfl, hnone, fun _ => List.nodup_nil⟩

/-! ## Plain messages -/

/-- A string without quotes and backslashes. -/
structure PlainText where
  chars : List Char
  plain : Plain chars

/-- What is printed of it. -/
abbrev PlainText.shown : PlainText → List Char := printed PlainText.chars

theorem PlainText.denotes (s : PlainText) : Denotes s.shown s.shown :=
  Plain.denotes fun c hc => s.plain c (List.takeWhile_subset _ hc)

theorem PlainText.shown_eq_iff (s : PlainText) : s.shown = s.chars ↔ '\x00' ∉ s.chars :=
  ⟨fun h => h ▸ not_mem_cut s.chars, cut_of_not_mem⟩

/-- No string of the elements has a NUL, nor has that of the device. -/
def NulFree (deviceId : PlainText) (texts : α → List PlainText) (es : List α) : Prop :=
  ∀ e ∈ es, ∀ s ∈ deviceId :: texts e, '\x00' ∉ s.chars

theorem agree_iff_nulFree {deviceId : PlainText} {texts : α → List PlainText} {es : List α} :
    Agree PlainText.shown PlainText.chars deviceId texts es ↔ NulFree deviceId texts es :=
  forall₂_congr fun _ _ => forall₂_congr fun s _ => s.shown_eq_iff

/-- The message has one row, with this identifier. -/
def HasRow (print : σ → List Char) (camId : Int64) (ss : List (Text σ)) : Prop :=
  ∃ row : Row, rowsOf print "cam_data" ss = [row] ∧ row.lookup "id" = some (int64 camId)

variable {c : CamData PlainText} {camId : Int64} {I : Int64 → Prop} {ss : List (Text PlainText)}

theorem Ingested.hasRow (h : Ingested PlainText.shown I carried splitId c camId ds ss) :
    HasRow PlainText.shown camId ss := by
  refine ⟨camDataRow PlainText.shown splitId camId c, ?_, rfl⟩
  rw [rowsOf_eq_meantRows h.executed fun _ _ s _ => s.denotes, h.row]

theorem Ingested.rowsOf_later (h : Ingested PlainText.shown I carried splitId c camId ds ss)
    (hrange : ¬RtsInRange c.rteList c.rtsList) (hT : T ⊆ laterTables) :
    ∀ table ∈ T, rowsOf PlainText.shown table ss = [] := by
  intro table htable
  rw [rowsOf_eq_meantRows h.executed fun _ _ s _ => s.denotes, h.none hrange table (hT htable)]

/-! ## Messages that fit -/

def PlainText.empty : PlainText := ⟨[], by decide⟩

/-- A message of signs, traffic flow and regions. -/
def flowsAndRegions (signs : List (RtsData PlainText)) (flows : List (TrafficFlow PlainText))
    (regions : List Polygon) : CamData PlainText :=
  { CamData.blank PlainText.empty with
    rtsList := signs
    trafficFlow := flows
    detectedRegion := regions }

theorem holds_flowTables :
    trafficFlow.Holds 0 ∧ camDataPolygon.Holds 0 ∧ camDataPolygonPosition3D.Holds 0 :=
  ⟨.of_chars rfl rfl (by decide +kernel), .of_chars rfl rfl (by decide +kernel),
    .of_chars rfl rfl (by decide +kernel)⟩

theorem roomy_camSql {camId : Int64} {c : CamData σ}
    (h : ([.str c.ver, .str c.deviceId, .str c.mapDeviceId].map (Arg.bytes print)).sum ≤ 1000) :
    Roomy print (camSql splitId camId c) := by
  have hroom : ((pieces camSqlFormat.toList).map fun ps => decide
      (4 * ps.countP Piece.isChar + 84 * (convs ps).length + 1000 < 4096)) = some true := by
    rw [show camSqlFormat = String.ofList _ from rfl, String.toList_ofList]
    decide +kernel
  refine Roomy.bind (roomy_sprintf hroom ?_) fun _ => trivial
  simpa only [List.map_cons, List.map_nil, List.sum_cons, Arg.bytes, Nat.zero_add] using h

theorem roomy_insertEach_nil {body : ℕ → α → Insertion σ (Text σ)} :
    Roomy print (insertEach body []) := roomy_flush _

theorem fits_flowsAndRegions {signs : List (RtsData PlainText)}
    {flows : List (TrafficFlow PlainText)} {regions : List Polygon} (hsigns : ∀ e ∈ signs,
      ((rtsStrings PlainText.empty e).map (Arg.bytes PlainText.shown)).sum ≤ 8000)
    (hflows : ∀ f ∈ flows, f.stats = []) :
    Fits PlainText.shown ids (camInsert splitId (flowsAndRegions signs flows regions)) n := by
  obtain ⟨hflow, hregion, hpoint⟩ := holds_flowTables
  refine Roomy.fits ids ?_ n
  refine (roomy_ownId _).bind fun camId => (roomy_camSql ?_).bind fun _ => ?_
  · exact Nat.zero_le 1000
  refine roomy_insertEach_nil.bind fun _ => roomy_insertEach_nil.bind fun _ => ?_
  refine (roomy_insertEach fun i e he => roomy_rtsDataSql _ i (hsigns e he)).bind fun _ => ?_
  refine (roomy_insertEach fun i f hf => roomy_nextId.bind fun id => ?_).bind fun _ => ?_
  · refine (hflow.roomy_append i ?_).bind fun sql => ?_
    · exact Nat.le_refl 0
    rw [hflows f hf]
    exact roomy_insertEach_nil.bind fun _ => roomy_pure sql
  refine (roomy_pure ()).bind fun _ => roomy_insertEach_nil.bind fun _ => ?_
  refine (roomy_insertEach fun i p _ => roomy_nextId.bind fun id => ?_).bind fun _ => ?_
  · refine (hregion.roomy_append i ?_).bind fun sql => ?_
    · exact Nat.le_refl 0
    refine (roomy_insertEach fun k q _ => ?_).bind fun _ => roomy_pure sql
    exact hpoint.roomy_leaf k fun _ => rfl
  refine roomy_insertEach_nil.bind fun _ => roomy_insertEach_nil.bind fun _ => ?_
  refine roomy_insertEach_nil.bind fun _ => ?_
  exact (roomy_virSql camId 0 [] (List.forall_mem_nil _)).bind fun sqls => roomy_flush sqls

/-! ## Traffic flow -/

variable {o : Outcome PlainText Unit}

/-- The traffic flow stands below the row of the message. -/
def StoresTrafficFlow (splitId : Int32) (c : CamData PlainText) (o : Outcome PlainText Unit) :
    Prop :=
  ∃ camId, HasRow PlainText.shown camId o.statements ∧
    Stands PlainText.shown [] trafficFlowTables
      (TrafficFlowForest PlainText.chars splitId camId c.deviceId c.trafficFlow) o.drawn
        o.statements

theorem Ingested.storesTrafficFlow_iff_nil
    (h : Ingested PlainText.shown I carried splitId c camId o.drawn o.statements)
    (hrange : ¬RtsInRange c.rteList c.rtsList) :
    StoresTrafficFlow splitId c o ↔ c.trafficFlow = [] := by
  have hnone := h.rowsOf_later (T := trafficFlowTables) hrange (by decide)
  constructor
  · rintro ⟨_, -, hstands⟩
    exact (stands_grown_iff (.head _) hnone).mp hstands
  · exact fun hflow => ⟨camId, h.hasRow, (stands_grown_iff (.head _) hnone).mpr hflow⟩

theorem Ingested.storesTrafficFlow_iff_nulFree
    (h : Ingested PlainText.shown I carried splitId c camId o.drawn o.statements)
    (hrange : RtsInRange c.rteList c.rtsList) :
    StoresTrafficFlow splitId c o ↔ NulFree c.deviceId TrafficFlow.texts c.trafficFlow := by
  have hflow := (h.later hrange).1
  rw [← agree_iff_nulFree]
  constructor
  · rintro ⟨_, -, hstands⟩
    obtain ⟨F, F', hF, hF', heq⟩ := hstands.rowsAt_eq hflow h.executed PlainText.denotes
    exact hF.agree hF' heq
  · exact fun hagree => ⟨camId, h.hasRow,
      hflow.stands h.executed PlainText.denotes fun _ hF => hF.congr hagree⟩

/-- **The traffic flow is stored** exactly if the points of the signs in front of it are all there
and its strings have no NUL, or if there is no traffic flow. -/
theorem storesTrafficFlow_iff (ids : ℕ → Int64) (n : ℕ) (splitId : Int32) (c : CamData PlainText)
    (hfits : Fits PlainText.shown ids (camInsert splitId c) n) :
    StoresTrafficFlow splitId c ((camInsert splitId c).run PlainText.shown ids n) ↔
      RtsInRange c.rteList c.rtsList ∧ NulFree c.deviceId TrafficFlow.texts c.trafficFlow ∨
        c.trafficFlow = [] := by
  obtain ⟨camId, h⟩ := ingested_run (drawn ids) hfits
  by_cases hrange : RtsInRange c.rteList c.rtsList
  · rw [h.storesTrafficFlow_iff_nulFree hrange, and_iff_right hrange]
    refine ⟨.inl, Or.rec id fun hflow => ?_⟩
    rw [hflow]
    exact List.forall_mem_nil _
  · rw [h.storesTrafficFlow_iff_nil hrange, or_iff_right fun h => hrange h.1]

/-- Traffic flow of which nothing is said. -/
def silentFlow : TrafficFlow PlainText where
  nodeId := none
  genTime := 0
  statType := none
  stats := []

theorem rtsInRange_nil {rteList : List (RteData σ)} : RtsInRange rteList [] := by
  intro i e he
  rw [List.getElem?_nil] at he
  cases he

theorem storesTrafficFlow_silentFlow :
    StoresTrafficFlow 1 (flowsAndRegions [] [silentFlow] [])
      ((camInsert 1 (flowsAndRegions [] [silentFlow] [])).run PlainText.shown .ofNat 0) := by
  refine (storesTrafficFlow_iff _ 0 1 _ (fits_flowsAndRegions ?_ ?_)).mpr
    (.inl ⟨rtsInRange_nil, ?_⟩)
  · exact List.forall_mem_nil _
  · exact List.forall_mem_singleton.mpr rfl
  · exact List.forall_mem_singleton.mpr (List.forall_mem_singleton.mpr List.not_mem_nil)

/-- A sign with a point. -/
def pointSign : RtsData PlainText :=
  { RtsData.blank PlainText.empty with
    refPathList := [{ activePath := [{ lat := 1, lon := 2, ele := 3 }], pathRadius := 0 }] }

/-- No event has this point. -/
theorem not_rtsInRange : ¬RtsInRange [] [pointSign] := by
  intro hrange
  have hfound := hrange 0 _ rfl rfl 0 _ rfl 0 _ rfl
  cases hfound

theorem not_storesTrafficFlow :
    Fits PlainText.shown .ofNat (camInsert 1 (flowsAndRegions [pointSign] [silentFlow] [])) 0 ∧
    ¬StoresTrafficFlow 1 (flowsAndRegions [pointSign] [silentFlow] [])
      ((camInsert 1 (flowsAndRegions [pointSign] [silentFlow] [])).run PlainText.shown .ofNat
        0) := by
  have hfits : Fits PlainText.shown .ofNat
      (camInsert 1 (flowsAndRegions [pointSign] [silentFlow] [])) 0 :=
    fits_flowsAndRegions (List.forall_mem_singleton.mpr (Nat.zero_le 8000))
      (List.forall_mem_singleton.mpr rfl)
  obtain ⟨camId, h⟩ := ingested_run (drawn Int64.ofNat) hfits
  refine ⟨hfits, fun hstores => ?_⟩
  have hflow := (h.storesTrafficFlow_iff_nil not_rtsInRange).mp hstores
  cases hflow

/-! ## Participants, signals and regions -/

/-- The participants, the signals and the regions stand below the row of the message. -/
def StoresForests (ids : ℕ → Int64) (splitId : Int32) (c : CamData PlainText)
    (o : Outcome PlainText Unit) : Prop :=
  ∃ camId, Owns (Drawn ids) c.id camId ∧ HasRow PlainText.shown camId o.statements ∧
    Stands PlainText.shown c.ownIds participantTables
      (ParticipantForest PlainText.chars splitId (Drawn ids) camId c.deviceId c.ptcList)
      o.drawn o.statements ∧
    Stands PlainText.shown [] intersectionTables
      (IntersectionForest PlainText.chars splitId camId c.deviceId
        (c.roadSignalState.elim [] (·.intersections))) o.drawn o.statements ∧
    Stands PlainText.shown [] signalSchemeTables
      (SignalSchemeForest PlainText.chars splitId camId c.deviceId c.signalSchemeList)
      o.drawn o.statements ∧
    Stands PlainText.shown [] polygonTables (PolygonForest splitId camId c.detectedRegion)
      o.drawn o.statements

/-- No signals and no regions. -/
def NothingLater (c : CamData σ) : Prop :=
  c.roadSignalState.elim [] (·.intersections) = [] ∧ c.signalSchemeList = [] ∧ c.detectedRegion = []

/-- No string of the signals has a NUL. -/
def SignalsNulFree (c : CamData PlainText) : Prop :=
  NulFree c.deviceId IntersectionState.texts (c.roadSignalState.elim [] (·.intersections)) ∧
    NulFree c.deviceId SignalScheme.texts c.signalSchemeList

theorem NothingLater.nulFree (h : NothingLater c) : SignalsNulFree c := by
  rw [SignalsNulFree, h.1, h.2.1]
  exact ⟨List.forall_mem_nil _, List.forall_mem_nil _⟩

section

variable {ids : ℕ → Int64}

theorem Ingested.nulFree_of_stands {camId' : Int64}
    (h : Ingested PlainText.shown (Drawn ids) c.ownIds splitId c camId o.drawn o.statements)
    (hstands : Stands PlainText.shown c.ownIds participantTables
      (ParticipantForest PlainText.chars splitId (Drawn ids) camId' c.deviceId c.ptcList)
      o.drawn o.statements) : NulFree c.deviceId ParticipantData.texts c.ptcList := by
  obtain ⟨F, F', hF, hF', heq⟩ := hstands.rowsAt_eq h.participants h.executed PlainText.denotes
  exact agree_iff_nulFree.mp (hF.agree hF' heq)

theorem Ingested.stands_participants
    (h : Ingested PlainText.shown (Drawn ids) c.ownIds splitId c camId o.drawn o.statements)
    (hnul : NulFree c.deviceId ParticipantData.texts c.ptcList) :
    Stands PlainText.shown c.ownIds participantTables
      (ParticipantForest PlainText.chars splitId (Drawn ids) camId c.deviceId c.ptcList)
      o.drawn o.statements :=
  h.participants.stands h.executed PlainText.denotes fun _ hF =>
    hF.congr (agree_iff_nulFree.mpr hnul)

theorem Ingested.storesForests_iff_nothingLater
    (h : Ingested PlainText.shown (Drawn ids) c.ownIds splitId c camId o.drawn o.statements)
    (hrange : ¬RtsInRange c.rteList c.rtsList) :
    StoresForests ids splitId c o ↔
      NulFree c.deviceId ParticipantData.texts c.ptcList ∧ NothingLater c := by
  have hnone := fun T hT => h.rowsOf_later (T := T) hrange hT
  constructor
  · rintro ⟨_, -, -, hparticipants, hintersections, hschemes, hregions⟩
    exact ⟨h.nulFree_of_stands hparticipants,
      (stands_grown_iff (.head _) (hnone _ (by decide))).mp hintersections,
      (stands_grown_iff (.head _) (hnone _ (by decide))).mp hschemes,
      (stands_grown_iff (.head _) (hnone _ (by decide))).mp hregions⟩
  · rintro ⟨hnul, hintersections, hschemes, hregions⟩
    exact ⟨camId, h.owns, h.hasRow, h.stands_participants hnul,
      (stands_grown_iff (.head _) (hnone _ (by decide))).mpr hintersections,
      (stands_grown_iff (.head _) (hnone _ (by decide))).mpr hschemes,
      (stands_grown_iff (.head _) (hnone _ (by decide))).mpr hregions⟩

theorem Ingested.storesForests_iff_nulFree
    (h : Ingested PlainText.shown (Drawn ids) c.ownIds splitId c camId o.drawn o.statements)
    (hrange : RtsInRange c.rteList c.rtsList) :
    StoresForests ids splitId c o ↔
      NulFree c.deviceId ParticipantData.texts c.ptcList ∧ SignalsNulFree c := by
  obtain ⟨-, hsownStates, hsownSchemes, hsownRegions, -⟩ := h.later hrange
  constructor
  · rintro ⟨_, -, -, hparticipants, hintersections, hschemes, -⟩
    obtain ⟨F, F', hF, hF', heq⟩ :=
      hintersections.rowsAt_eq hsownStates h.executed PlainText.denotes
    obtain ⟨G, G', hG, hG', heq'⟩ := hschemes.rowsAt_eq hsownSchemes h.executed PlainText.denotes
    exact ⟨h.nulFree_of_stands hparticipants, agree_iff_nulFree.mp (hF.agree hF' heq),
      agree_iff_nulFree.mp (hG.agree hG' heq')⟩
  · rintro ⟨hnul, hstates, hschemes⟩
    refine ⟨camId, h.owns, h.hasRow, h.stands_participants hnul, ?_, ?_, ?_⟩
    · exact hsownStates.stands h.executed PlainText.denotes fun _ hF =>
        hF.congr (agree_iff_nulFree.mpr hstates)
    · exact hsownSchemes.stands h.executed PlainText.denotes fun _ hF =>
        hF.congr (agree_iff_nulFree.mpr hschemes)
    · exact hsownRegions.stands h.executed PlainText.denotes fun _ hF => hF

end

/-- **Participants, signals and regions are stored** exactly if the strings of the participants have
no NUL, and either the points of the signs are all there and the strings of the signals have no NUL,
or there are no signals and regions. -/
theorem storesForests_iff (ids : ℕ → Int64) (n : ℕ) (splitId : Int32) (c : CamData PlainText)
    (hfits : Fits PlainText.shown ids (camInsert splitId c) n) :
    StoresForests ids splitId c ((camInsert splitId c).run PlainText.shown ids n) ↔
      NulFree c.deviceId ParticipantData.texts c.ptcList ∧
        (RtsInRange c.rteList c.rtsList ∧ SignalsNulFree c ∨ NothingLater c) := by
  obtain ⟨camId, h⟩ := ingested_run (drawn ids) hfits
  by_cases hrange : RtsInRange c.rteList c.rtsList
  · rw [h.storesForests_iff_nulFree hrange, and_iff_right hrange]
    exact and_congr_right fun _ => ⟨.inl, Or.rec id NothingLater.nulFree⟩
  · rw [h.storesForests_iff_nothingLater hrange, or_iff_right fun h => hrange h.1]

/-- A region around one point. -/
def pointRegion : Polygon := { pos := [{ lat := 4, lon := 5, ele := 6 }] }

theorem storesForests_pointRegion :
    StoresForests .ofNat 1 (flowsAndRegions [] [] [pointRegion])
      ((camInsert 1 (flowsAndRegions [] [] [pointRegion])).run PlainText.shown .ofNat 0) := by
  refine (storesForests_iff _ 0 1 _ (fits_flowsAndRegions ?_ ?_)).mpr
    ⟨List.forall_mem_nil _, .inl ⟨rtsInRange_nil, List.forall_mem_nil _, List.forall_mem_nil _⟩⟩
  · exact List.forall_mem_nil _
  · exact List.forall_mem_nil _

theorem not_storesForests :
    Fits PlainText.shown .ofNat (camInsert 1 (flowsAndRegions [pointSign] [] [pointRegion])) 0 ∧
    ¬StoresForests .ofNat 1 (flowsAndRegions [pointSign] [] [pointRegion])
      ((camInsert 1 (flowsAndRegions [pointSign] [] [pointRegion])).run PlainText.shown .ofNat
        0) := by
  have hfits : Fits PlainText.shown .ofNat
      (camInsert 1 (flowsAndRegions [pointSign] [] [pointRegion])) 0 :=
    fits_flowsAndRegions (List.forall_mem_singleton.mpr (Nat.zero_le 8000)) (List.forall_mem_nil _)
  obtain ⟨camId, h⟩ := ingested_run (drawn Int64.ofNat) hfits
  refine ⟨hfits, fun hstores => ?_⟩
  obtain ⟨-, -, -, hregion⟩ := (h.storesForests_iff_nothingLater not_rtsInRange).mp hstores
  cases hregion

end DataInsert

end Sadip
