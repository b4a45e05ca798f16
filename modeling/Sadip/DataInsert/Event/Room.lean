import Sadip.DataInsert.Event
import Sadip.DataInsert.Room

/-!
# DataInsert/Event/Room — events and signs that fit

The strings of one event may have seven thousand bytes together, those of a sign eight thousand.
-/

set_option maxRecDepth 10000

namespace Sadip

namespace DataInsert

open Printf Sql Insertion

variable {σ : Type} {print : σ → List Char} {splitId : Int32}

/-- The buffer of an event has room for strings of 7000 bytes; the others need none. -/
theorem holds_rteTables :
    rteData.Holds 7000 ∧ rteDataReferencePath.Holds 0 ∧ rteDataReferencePathPosition3D.Holds 0 ∧
      rteDataReferenceLink.Holds 0 ∧ objIdValue.Holds 0 :=
  ⟨.of_chars rfl rfl (by decide +kernel), .of_chars rfl rfl (by decide +kernel),
    .of_chars rfl rfl (by decide +kernel), .of_chars rfl rfl (by decide +kernel),
    .of_chars rfl rfl (by decide +kernel)⟩

/-- That of a sign, for 8000 bytes. -/
theorem holds_rtsTables :
    rtsData.Holds 8000 ∧ rtsDataReferencePath.Holds 0 ∧ rtsDataReferencePathPosition3D.Holds 0 ∧
      rtsDataReferenceLink.Holds 0 :=
  ⟨.of_chars rfl rfl (by decide +kernel), .of_chars rfl rfl (by decide +kernel),
    .of_chars rfl rfl (by decide +kernel), .of_chars rfl rfl (by decide +kernel)⟩

/-- The strings in the tuple of an event. -/
def rteStrings (deviceId : σ) (e : RteData σ) : List (Arg σ) :=
  [.str e.description, .str e.deviceIdList, .str (e.mapLocation.map (·.linkName)),
   .str e.priority, .str e.eventImages, .str e.eventVideos, .str deviceId]

/-- A path always has room: it has no strings. -/
theorem roomy_rteReferencePathSql (rteDataId forwardRteDataId : Int64) (i : ℕ)
    (p : ReferencePath) :
    Roomy print (rteReferencePathSql splitId rteDataId forwardRteDataId i p) := by
  obtain ⟨-, hpath, hpoint, -⟩ := holds_rteTables
  refine roomy_nextId.bind fun id => ?_
  refine (hpath.roomy_append i ?_).bind fun sql => ?_
  · exact Nat.le_refl 0
  refine (roomy_insertEach fun k q _ => ?_).bind fun _ => roomy_pure sql
  exact hpoint.roomy_leaf k fun _ => rfl

/-- **An event has room** if its strings have 7000 bytes together. -/
theorem roomy_rteSql {camId : Int64} {deviceId : σ} {e : RteData σ} (i : ℕ)
    (h : ((rteStrings deviceId e).map (Arg.bytes print)).sum ≤ 7000) :
    Roomy print (rteSql splitId camId deviceId i e) := by
  obtain ⟨hevent, -, -, hlink, hobject⟩ := holds_rteTables
  rw [rteSql]
  split
  · trivial
  refine (roomy_ownId e.id).bind fun id => ?_
  refine (hevent.roomy_append i ?_).bind fun sql => roomy_nextId.bind fun forwardId => ?_
  · simpa only [rteStrings, List.map_cons, List.map_nil, List.sum_cons, Arg.bytes, Nat.zero_add]
      using h
  refine (roomy_insertEach fun j p _ => roomy_rteReferencePathSql id forwardId j p).bind fun _ => ?_
  refine (roomy_insertEach fun j l _ => ?_).bind fun _ => ?_
  · exact hlink.roomy_leaf j fun _ => rfl
  refine (roomy_insertEach fun j o _ => ?_).bind fun _ => roomy_pure sql
  exact hobject.roomy_leaf j fun _ => rfl

/-- The strings in the tuple of a sign. -/
def rtsStrings (deviceId : σ) (e : RtsData σ) : List (Arg σ) :=
  [.str e.priority, .str e.description, .str deviceId]

theorem roomy_rtsReferencePathSql (rteList : List (RteData σ)) (i : ℕ)
    (rtsDataId forwardRtsDataId : Int64) (j : ℕ) (p : ReferencePath) :
    Roomy print (rtsReferencePathSql splitId rteList i rtsDataId forwardRtsDataId j p) := by
  obtain ⟨-, hpath, hpoint, -⟩ := holds_rtsTables
  refine roomy_nextId.bind fun id => ?_
  refine (hpath.roomy_append j ?_).bind fun sql => ?_
  · exact Nat.le_refl 0
  refine (roomy_insertEach fun k q _ => roomy_nextId.bind fun pointId => ?_).bind
    fun _ => roomy_pure sql
  split
  · trivial
  · exact hpoint.roomy_append k (Nat.le_refl 0)

/-- A sign has room if its strings have 8000 bytes together. -/
theorem roomy_rtsDataSql (rteList : List (RteData σ)) {camId : Int64} {deviceId : σ}
    {e : RtsData σ} (i : ℕ)
    (h : ((rtsStrings deviceId e).map (Arg.bytes print)).sum ≤ 8000) :
    Roomy print (rtsDataSql splitId rteList camId deviceId i e) := by
  obtain ⟨hsign, -, -, hlink⟩ := holds_rtsTables
  rw [rtsDataSql]
  split
  · trivial
  refine roomy_nextId.bind fun id => ?_
  refine (hsign.roomy_append i ?_).bind fun sql => roomy_nextId.bind fun forwardId => ?_
  · simpa only [rtsStrings, List.map_cons, List.map_nil, List.sum_cons, Arg.bytes, Nat.zero_add]
      using h
  refine (roomy_insertEach fun j p _ =>
    roomy_rtsReferencePathSql rteList i id forwardId j p).bind fun _ => ?_
  refine (roomy_insertEach fun j l _ => ?_).bind fun _ => roomy_pure sql
  exact hlink.roomy_leaf j fun _ => rfl

end DataInsert

end Sadip
