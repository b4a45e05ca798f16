import Sadip.DataInsert.Intention.Orderly
import Sadip.DataInsert.Strings

/-!
# DataInsert/Intention/Walk — the strings of the vehicles

After a request whose area has more paths than vehicles before its vehicle the loops go on at a
later one, where they take the request with the same index for done (`stop`).  So not all requests
are printed, nor all vehicles: `virTexts` goes from vehicle to vehicle with the index of the request
that is looked for, and has the strings of those that are.  It has none at all if there is no
vehicle with such a request.
-/

set_option maxRecDepth 10000

namespace Sadip

namespace DataInsert

open Printf Sql Insertion

variable {σ : Type}

/-! ## The way through the vehicles -/

def DriveRequest.texts (r : DriveRequest σ) : List σ := [r.reqPriority, r.targetVeh, r.targetRsu]

/-- Where the loop over the points stops, with the vehicles from the `i`th on: at the first one
whose `j`th request has at most as many paths as there are vehicles before, if all up to it have a
`j`th request. -/
def stop (j : ℕ) : ℕ → List (VirData σ) → Option (ℕ × List (VirData σ))
  | _, [] => none
  | i, v :: vs =>
    (reqsOf v)[j]?.bind fun r =>
      if i < (detectorAreaOfInfo r.info).length then stop j (i + 1) vs else some (i, v :: vs)

/-- The strings of these requests of the `i`th vehicle, up to the one at which it is left. -/
def askedTexts (i : ℕ) : List (DriveRequest σ) → List σ
  | [] => []
  | r :: rs =>
    if i < (detectorAreaOfInfo r.info).length then r.texts else r.texts ++ askedTexts i rs

/-- The strings of the vehicles from the `i`th on, and of their requests; or of those that come
after the `j`th request where the loop stops that looks for one. -/
def virTexts : ℕ → Option ℕ → List (VirData σ) → Option (List σ)
  | _, none, [] => some []
  | _, some _, [] => none
  | i, none, v :: vs =>
    (virTexts (i + 1) (wide i 0 v) vs).map (v.vehicleId :: askedTexts i (reqsOf v) ++ ·)
  | i, some j, v :: vs =>
    (reqsOf v)[j]?.bind fun r =>
      if i < (detectorAreaOfInfo r.info).length then virTexts (i + 1) (some j) vs
      else (virTexts (i + 1) (wide i (j + 1) v) vs).map
        (askedTexts i ((reqsOf v).drop (j + 1)) ++ ·)

/-- The strings from the `j`th request of the first vehicle on. -/
def requestTexts (i j : ℕ) : List (VirData σ) → Option (List σ)
  | [] => none
  | v :: vs => (virTexts (i + 1) (wide i j v) vs).map (askedTexts i ((reqsOf v).drop j) ++ ·)

theorem virTexts_cons (i : ℕ) (v : VirData σ) (vs : List (VirData σ)) :
    virTexts i none (v :: vs) = (requestTexts i 0 (v :: vs)).map ([v.vehicleId] ++ ·) := by
  rw [virTexts, requestTexts, Option.map_map]
  rfl

/-- A request that is looked for is taken for done where it is found. -/
theorem virTexts_some (j : ℕ) : ∀ (i : ℕ) (vs : List (VirData σ)),
    virTexts i (some j) vs = (stop j i vs).bind fun p => requestTexts p.1 (j + 1) p.2
  | _, [] => rfl
  | i, v :: vs => by
      rw [virTexts, stop]
      cases (reqsOf v)[j]? with
      | none => rfl
      | some r =>
        rw [Option.bind_some, Option.bind_some]
        split
        · exact virTexts_some j (i + 1) vs
        · rfl

section

variable {i j : ℕ} {v : VirData σ} {vs : List (VirData σ)} {r : DriveRequest σ}

theorem stop_cons (hr : request j (v :: vs) = some r) : stop j i (v :: vs) =
    if i < (detectorAreaOfInfo r.info).length then stop j (i + 1) vs else some (i, v :: vs) := by
  have hget : (reqsOf v)[j]? = some r := hr
  rw [stop, hget, Option.bind_some]

theorem requestTexts_of_none (hr : request j (v :: vs) = none) :
    requestTexts i j (v :: vs) = virTexts (i + 1) none vs := by
  rw [requestTexts, wide_of_none hr, List.drop_eq_nil_of_le (List.getElem?_eq_none_iff.mp hr)]
  exact Option.map_id'

/-- **After a request** come those behind the one with its index where the loop stops. -/
theorem requestTexts_of_some (hr : request j (v :: vs) = some r) :
    requestTexts i j (v :: vs) =
      ((stop j i (v :: vs)).bind fun p => requestTexts p.1 (j + 1) p.2).map (r.texts ++ ·) := by
  rw [requestTexts, stop_cons hr, drop_of_request hr, askedTexts]
  by_cases hi : i < (detectorAreaOfInfo r.info).length
  · rw [if_pos hi, if_pos hi, wide_of_lt hr hi, virTexts_some]
  · rw [if_neg hi, if_neg hi, wide_of_le hr (Nat.not_lt.mp hi), Option.bind_some, requestTexts,
      Option.map_map]
    exact congrArg (Option.map · _) (funext fun ts => List.append_assoc _ _ _)

/-- Where the loop stops, there is a request, with few paths. -/
theorem exists_of_stop {p : ℕ × List (VirData σ)} : ∀ {i : ℕ} {vs : List (VirData σ)},
    stop j i vs = some p → ∃ w ws s, p.2 = w :: ws ∧ request j (w :: ws) = some s ∧
      (detectorAreaOfInfo s.info).length ≤ p.1
  | _, [], h => by cases h
  | i, v :: vs, h => by
      obtain ⟨r, hr, h⟩ := Option.bind_eq_some_iff.mp h
      split at h
      · exact exists_of_stop h
      · next hi =>
          obtain rfl := Option.some.inj h
          exact ⟨v, vs, r, rfl, hr, Nat.not_lt.mp hi⟩

end

/-! ## Conditions -/

variable {print : σ → List Char} {D : σ → Prop} {splitId : Int32}

/-- There are strings, and they are in `D`. -/
def Admitted (D : σ → Prop) (o : Option (List σ)) : Prop := ∃ ts, o = some ts ∧ ∀ s ∈ ts, D s

theorem admitted_map {o : Option (List σ)} {ts : List σ} :
    Admitted D (o.map (ts ++ ·)) ↔ (∀ s ∈ ts, D s) ∧ Admitted D o := by
  constructor
  · rintro ⟨us, hus, hD⟩
    obtain ⟨vs, hvs, rfl⟩ := Option.map_eq_some_iff.mp hus
    rw [List.forall_mem_append] at hD
    exact ⟨hD.1, vs, hvs, hD.2⟩
  · rintro ⟨hts, vs, rfl, hvs⟩
    exact ⟨ts ++ vs, rfl, List.forall_mem_append.mpr ⟨hts, hvs⟩⟩

/-- The loop stops somewhere, and `P` holds there. -/
def Stops (j i : ℕ) (vs : List (VirData σ)) (P : ℕ × List (VirData σ) → Prop) : Prop :=
  ∃ p, stop j i vs = some p ∧ P p

theorem admitted_requestTexts {i j : ℕ} {v : VirData σ} {vs : List (VirData σ)}
    {r : DriveRequest σ} (hr : request j (v :: vs) = some r) :
    Admitted D (requestTexts i j (v :: vs)) ↔ (∀ s ∈ r.texts, D s) ∧
      Stops j i (v :: vs) fun p => Admitted D (requestTexts p.1 (j + 1) p.2) := by
  rw [requestTexts_of_some hr, admitted_map, Admitted, Stops]
  refine and_congr_right fun _ => ?_
  simp only [Option.bind_eq_some_iff, Admitted]
  constructor
  · rintro ⟨ts, ⟨p, hp, hts⟩, hD⟩
    exact ⟨p, hp, ts, hts, hD⟩
  · rintro ⟨p, hp, ts, hts, hD⟩
    exact ⟨ts, ⟨p, hp, hts⟩, hD⟩

/-! ## The loops -/

/-- The place that the loops carry. -/
def Cursor.place {vs : List (VirData σ)} (c : Cursor vs) : ℕ × List (VirData σ) := (c.i, c.rest)

/-- What a loop has: a text, at the place where the one over the points stops. -/
def HasStopped (D : σ → Prop) (j i : ℕ) {vs : List (VirData σ)} (q : Text σ × Cursor vs) : Prop :=
  Laden D q.1 ∧ stop j i vs = some q.2.place

/-- The strings of the text are in `D`, and `P` holds of the place. -/
def Arrives (D : σ → Prop) (P : ℕ × List (VirData σ) → Prop) {vs : List (VirData σ)}
    (q : Text σ × Cursor vs) : Prop := Spotless D q.1 ∧ P q.2.place

section

variable {i j : ℕ} {v : VirData σ} {vs : List (VirData σ)} {r : DriveRequest σ}
  {P : ℕ × List (VirData σ) → Prop}

theorem stops_and_left {Q : Prop} : (Stops j i vs fun p => Q ∧ P p) ↔ Q ∧ Stops j i vs P := by
  simp only [Stops, and_left_comm, exists_and_left]

theorem stops_of_stop {p : ℕ × List (VirData σ)} (h : stop j i vs = some p) :
    Stops j i vs P ↔ P p := by
  rw [Stops, h]
  refine ⟨?_, fun h => ⟨_, rfl, h⟩⟩
  rintro ⟨_, hp, h⟩
  exact Option.some.inj hp ▸ h

theorem stop_of_le (hr : request j (v :: vs) = some r)
    (hi : (detectorAreaOfInfo r.info).length ≤ i) : stop j i (v :: vs) = some (i, v :: vs) := by
  rw [stop_cons hr, if_neg (Nat.not_lt.mpr hi)]

theorem stop_of_lt (hr : request j (v :: vs) = some r)
    (hi : i < (detectorAreaOfInfo r.info).length) : stop j i (v :: vs) = stop j (i + 1) vs := by
  rw [stop_cons hr, if_pos hi]

theorem not_stops_of_none (hr : request j vs = none) : ¬Stops j i vs P := by
  rintro ⟨p, hp, -⟩
  cases vs with
  | nil => cases hp
  | cons v vs =>
      have hget : (reqsOf v)[j]? = none := hr
      rw [stop, hget] at hp
      cases hp

end

theorem admits_driveReqRefPosSql {j : ℕ} {pathId : Int64} : ∀ (i : ℕ) (vs : List (VirData σ))
    (P : ℕ × List (VirData σ) → Prop), Admits print D (driveReqRefPosSql splitId j 0 pathId i vs)
      (Stops j i vs P) (HasStopped D j i) (Arrives D P)
  | _, [], P => by
      rw [driveReqRefPosSql]
      exact not_stops_of_none rfl
  | i, v :: vs, P => by
      rw [driveReqRefPosSql]
      split
      · next hr => exact not_stops_of_none hr
      next r hr =>
      dsimp only
      split
      · next hi =>
          rw [Stops, stop_of_lt hr hi, List.getElem?_eq_getElem (Nat.zero_lt_of_lt hi)]
          refine demands_nextId.bind fun id _ => ?_
          refine (admits_append_nil rfl rfl).bind fun text htext => ?_
          refine Demands.congr ?_ (stops_and_left (Q := Spotless D text) (P := P))
          refine (admits_driveReqRefPosSql (i + 1) vs fun p => Spotless D text ∧ P p).bind ?_
          rintro ⟨sqls, c⟩ ⟨hsqls, hc⟩
          refine (demands_pure (Q := Arrives D P)
            ⟨htext.append hsqls, (stop_of_lt hr hi).trans hc⟩).congr ?_
          rw [Arrives, Arrives, spotless_append, and_assoc, and_left_comm]
          rfl
      · next hi =>
          have hstop : stop j i (v :: vs) = some (i, v :: vs) := stop_of_le hr (Nat.not_lt.mp hi)
          refine (demands_pure (Q := Arrives D P) ⟨laden_nil, hstop⟩).congr ?_
          rw [stops_of_stop hstop]
          exact and_iff_right spotless_nil

section

variable {i j : ℕ} {v : VirData σ} {vs : List (VirData σ)} {r : DriveRequest σ}

/-- Paths at a vehicle where the loop over the points does not run. -/
theorem admits_driveReqRefSql_of_le {requestId : Int64} (hr : request j (v :: vs) = some r)
    (hi : (detectorAreaOfInfo r.info).length ≤ i) (k : ℕ) (P : ℕ × List (VirData σ) → Prop) :
    Admits print D (driveReqRefSql splitId j requestId k i (v :: vs)) (P (i, v :: vs))
      (fun q => Laden D q.1 ∧ q.2 = .here i (v :: vs)) (Arrives D P) := by
  rw [driveReqRefSql]
  split
  · next hnone =>
      rw [hr] at hnone
      cases hnone
  next r' hr' =>
  obtain rfl := Option.some.inj (hr.symm.trans hr')
  split
  · refine (demands_pure (Q := Arrives D P) ⟨laden_nil, rfl⟩).congr ?_
    exact and_iff_right spotless_nil
  next p hp =>
  have hk := (List.getElem?_eq_some_iff.mp hp).1
  refine demands_nextId.bind fun id _ => (admits_append_nil rfl rfl).bind fun text htext => ?_
  rw [driveReqRefPosSql_of_le hr hi, pure_bind]
  refine Demands.bind ((admits_flush laden_nil).congr (and_iff_right spotless_nil)) fun _ _ => ?_
  refine (admits_driveReqRefSql_of_le hr hi (k + 1) fun p => Spotless D text ∧ P p).bind ?_
  rintro ⟨sqls, c⟩ ⟨hsqls, rfl⟩
  refine (demands_pure (Q := Arrives D P) ⟨htext.append hsqls, rfl⟩).congr ?_
  rw [Arrives, Arrives, spotless_append, and_assoc, and_left_comm]
  rfl
termination_by (detectorAreaOfInfo r.info).length - k

theorem admits_driveReqRefSql {requestId : Int64} (hr : request j (v :: vs) = some r)
    (P : ℕ × List (VirData σ) → Prop) :
    Admits print D (driveReqRefSql splitId j requestId 0 i (v :: vs)) (Stops j i (v :: vs) P)
      (HasStopped D j i) (Arrives D P) := by
  rcases Nat.lt_or_ge i (detectorAreaOfInfo r.info).length with hi | hi
  · rw [driveReqRefSql]
    split
    · next hnone =>
        rw [hr] at hnone
        cases hnone
    next r' hr' =>
    obtain rfl := Option.some.inj (hr.symm.trans hr')
    split
    · next hnone =>
        exact absurd (List.getElem?_eq_none_iff.mp hnone) (Nat.not_le.mpr (Nat.zero_lt_of_lt hi))
    next p hp =>
    refine demands_nextId.bind fun id _ => (admits_append_nil rfl rfl).bind fun text htext => ?_
    refine Demands.congr ?_ (stops_and_left (Q := Spotless D text) (P := P))
    refine (admits_driveReqRefPosSql i (v :: vs) fun p => Spotless D text ∧ P p).bind ?_
    rintro ⟨posSqls, c⟩ ⟨hpos, hstop⟩
    refine (admits_flush hpos).bind fun _ _ => ?_
    obtain ⟨w, ws, s, hrest, hs, hle⟩ := exists_of_stop hstop
    obtain ⟨i', rest, hsuffix⟩ := c
    obtain rfl : rest = w :: ws := hrest
    refine (admits_driveReqRefSql_of_le hs hle 1 fun p => Spotless D text ∧ P p).bind ?_
    rintro ⟨sqls, c⟩ ⟨hsqls, rfl⟩
    refine (demands_pure (Q := Arrives D P) ⟨htext.append hsqls, hstop⟩).congr ?_
    rw [Arrives, Arrives, spotless_append, and_assoc, and_left_comm]
    rfl
  · have hstop : stop j i (v :: vs) = some (i, v :: vs) := stop_of_le hr hi
    rw [stops_of_stop hstop]
    refine (admits_driveReqRefSql_of_le hr hi 0 P).imp ?_
    rintro ⟨sqls, c⟩ ⟨hsqls, rfl⟩
    exact ⟨hsqls, hstop⟩

end

/-- The strings of the text are in `D`, and so are those of the vehicles behind the place that was
reached. -/
def AdmittedBehind (D : σ → Prop) (R : Prop) {vs : List (VirData σ)} (q : Text σ × Cursor vs) :
    Prop :=
  Spotless D q.1 ∧ Admitted D (virTexts (q.2.i + 1) none q.2.rest.tail) ∧ R

theorem long_driveRequest : driveRequest.Long := .of_chars rfl (by decide +kernel)

theorem long_virData : virData.Long := .of_chars rfl (by decide +kernel)

theorem admits_virReqsSql {virId : Int64} (i j : ℕ) (v : VirData σ) (vs : List (VirData σ))
    (R : Prop) : Admits print D (virReqsSql splitId virId j i (v :: vs))
      (Admitted D (requestTexts i j (v :: vs)) ∧ R) (fun q => Laden D q.1)
        (AdmittedBehind D R) := by
  rw [virReqsSql]
  split
  · next hnone =>
      rw [requestTexts_of_none hnone]
      refine (demands_pure (Q := AdmittedBehind D R) laden_nil).congr ?_
      exact and_iff_right spotless_nil
  next r hr =>
  rw [admitted_requestTexts hr, and_assoc]
  refine demands_nextId.bind fun id _ => ?_
  refine (admits_append_own rfl rfl long_driveRequest).bind fun text htext => ?_
  refine Demands.congr ?_ (stops_and_left.trans (and_right_comm.trans and_assoc))
  refine (admits_driveReqRefSql hr fun p =>
    (Spotless D text ∧ R) ∧ Admitted D (requestTexts p.1 (j + 1) p.2)).bind ?_
  rintro ⟨refSqls, c⟩ ⟨hrefs, hstop⟩
  refine (admits_flush hrefs).bind fun _ _ => ?_
  obtain ⟨w, ws, s, hrest, hs, -⟩ := exists_of_stop hstop
  have hlex := c.lex (lt_reqsSize hr)
  obtain ⟨i', rest, hsuffix⟩ := c
  obtain rfl : rest = w :: ws := hrest
  refine ((admits_virReqsSql i' (j + 1) w ws (Spotless D text ∧ R)).congr and_comm).bind ?_
  rintro ⟨sqls, c⟩ hsqls
  refine (demands_pure (Q := AdmittedBehind D R) (htext.append hsqls)).congr ?_
  rw [AdmittedBehind, spotless_append]
  constructor
  · rintro ⟨⟨ht, hs⟩, hbehind, hR⟩
    exact ⟨hs, hbehind, ht, hR⟩
  · rintro ⟨hs, hbehind, ht, hR⟩
    exact ⟨⟨ht, hs⟩, hbehind, hR⟩
termination_by ((v :: vs).length, reqsSize (v :: vs) - j)
decreasing_by exact hlex

theorem admits_virSql (camId : Int64) (i : ℕ) (vs : List (VirData σ)) (R : Prop) :
    Admits print D (virSql splitId camId i vs) (Admitted D (virTexts i none vs) ∧ R) (Laden D)
      fun text => Spotless D text ∧ R := by
  cases vs with
  | nil =>
      rw [virSql]
      refine (admits_pure laden_nil).congr (and_congr_left' (iff_of_true spotless_nil ?_))
      exact ⟨[], rfl, List.forall_mem_nil _⟩
  | cons v vs =>
      rw [virSql, virTexts_cons, admitted_map, and_assoc]
      refine demands_nextId.bind fun id _ => ?_
      refine (admits_append_own rfl rfl long_virData).bind fun text htext => ?_
      refine (admits_insertEach_nil fun _ _ _ => demands_nextId.bind fun _ _ =>
        admits_append_nil rfl rfl).bind fun _ _ => ?_
      rw [and_left_comm]
      refine (admits_virReqsSql i 0 v vs (Spotless D text ∧ R)).bind ?_
      rintro ⟨reqsSqls, c⟩ hreqs
      refine (admits_flush hreqs).bind fun _ _ => ?_
      refine (admits_virSql camId (c.i + 1) c.rest.tail (Spotless D text ∧ R)).bind
        fun sqls hsqls => ?_
      rw [and_left_comm, ← and_assoc, ← spotless_append]
      exact admits_pure (htext.append hsqls)
termination_by vs.length
decreasing_by
  have hle := c.suffix.length_le
  rw [List.length_tail]
  exact Nat.lt_succ_of_le (Nat.sub_le_sub_right hle 1)

/-- **The vehicles**: the strings that are printed are in `D`. -/
theorem admits_virList (camId : Int64) (vs : List (VirData σ)) (R : Prop) :
    Admits print D (virList splitId camId vs) (Admitted D (virTexts 0 none vs) ∧ R) (fun _ => True)
      fun _ => R :=
  (admits_virSql camId 0 vs R).bind fun _ hsqls => admits_flush hsqls

/-! ## Steady vehicles -/

def VirData.texts (v : VirData σ) : List σ := v.vehicleId :: (reqsOf v).flatMap (·.texts)

theorem askedTexts_of_forall {i : ℕ} : ∀ {rs : List (DriveRequest σ)},
    (∀ r ∈ rs, (detectorAreaOfInfo r.info).length ≤ i) → askedTexts i rs = rs.flatMap (·.texts)
  | [], _ => rfl
  | r :: rs, h => by
      obtain ⟨hr, hrs⟩ := List.forall_mem_cons.mp h
      rw [askedTexts, if_neg (Nat.not_lt.mpr hr), askedTexts_of_forall hrs, List.flatMap_cons]

/-- Steady vehicles print all of their strings. -/
theorem virTexts_of_steady : ∀ {i : ℕ} {vs : List (VirData σ)}, Steady i vs →
    virTexts i none vs = some (vs.flatMap (·.texts))
  | _, [], _ => rfl
  | i, v :: vs, h => by
      obtain ⟨hv, hvs⟩ := steady_cons.mp h
      have hwide : wide i 0 v = none := by
        rw [wide, List.drop_zero, List.findIdx?_eq_none_iff.mpr fun r hr =>
          decide_eq_false (Nat.not_lt.mpr (hv r hr)), Option.map_none]
      rw [virTexts, hwide, virTexts_of_steady hvs, askedTexts_of_forall hv, List.flatMap_cons]
      rfl

theorem admitted_virTexts_iff {vs : List (VirData σ)} (h : Steady 0 vs) :
    Admitted D (virTexts 0 none vs) ↔ ∀ s ∈ vs.flatMap (·.texts), D s := by
  rw [virTexts_of_steady h]
  refine ⟨?_, fun hD => ⟨_, rfl, hD⟩⟩
  rintro ⟨ts, hts, hD⟩
  rwa [Option.some.inj hts]

end DataInsert

end Sadip
