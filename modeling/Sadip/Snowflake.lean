import Mathlib.Data.List.Basic
import Mathlib.Data.Nat.Bitwise
import Mathlib.Data.UInt
import Mathlib.Tactic.Ring

/-!
# Snowflake — the id generator of `utils/SnowFlake.h`

A generator packs a millisecond clock reading, a datacenter id, a machine id and a counter into one
`uint64_t`.  The clock is a list of readings: each call of `getNewstmp` takes the next one, so a
list is one run's worth of readings and running out of it is a call that has not returned yet.

`nextId_returned` says once what a call can do; `run_pairwise_lt` is the run-level consequence:
over a non-decreasing clock the ids of a run are strictly increasing.
-/

namespace Sadip

/-! ## The bit layout -/

namespace SnowFlake

def startStmp : UInt64 := 1480166465631
def sequenceBit : UInt64 := 12
def machineBit : UInt64 := 5
def datacenterBit : UInt64 := 5

def maxDatacenterNum : UInt64 := (-1 : UInt64) ^^^ ((-1 : UInt64) <<< datacenterBit)
def maxMachineNum : UInt64 := (-1 : UInt64) ^^^ ((-1 : UInt64) <<< machineBit)
def maxSequenceNum : UInt64 := (-1 : UInt64) ^^^ ((-1 : UInt64) <<< sequenceBit)

def machineLeft : UInt64 := sequenceBit
def datacenterLeft : UInt64 := sequenceBit + machineBit
def timestmpLeft : UInt64 := sequenceBit + machineBit + datacenterBit

end SnowFlake

/-- **A generator.**  The three bounds are fields: the constructor checks the ids, and `nextId`
masks the counter. -/
structure SnowFlake where
  datacenterId : UInt64
  machineId : UInt64
  sequence : UInt64
  lastStmp : UInt64
  datacenterId_le : datacenterId ≤ SnowFlake.maxDatacenterNum
  machineId_le : machineId ≤ SnowFlake.maxMachineNum
  sequence_le : sequence ≤ SnowFlake.maxSequenceNum

namespace SnowFlake

/-- The constructor; `none` is its `exit(0)`. -/
def new (datacenter_Id machine_Id : Int32) : Option SnowFlake :=
  if hd : datacenter_Id.toInt64.toUInt64 > maxDatacenterNum ∨ datacenter_Id < 0 then none
  else if hm : machine_Id.toInt64.toUInt64 > maxMachineNum ∨ machine_Id < 0 then none
  else some
    { datacenterId := datacenter_Id.toInt64.toUInt64
      machineId := machine_Id.toInt64.toUInt64
      sequence := 0
      lastStmp := 0
      datacenterId_le := UInt64.not_lt.mp fun h => hd (Or.inl h)
      machineId_le := UInt64.not_lt.mp fun h => hm (Or.inl h)
      sequence_le := by decide }

/-! ## One call -/

/-- What a call of `nextId` comes to on the readings it is given. -/
inductive Call where
  /-- it returned this id, leaving this generator and these readings -/
  | returned (id : UInt64) (gen : SnowFlake) (readings : List UInt64)
  /-- the clock moved backwards: `exit(0)` -/
  | exited
  /-- still waiting for a reading -/
  | waiting

/-- `getNextMill`: read until the clock has passed `lastStmp`. -/
def getNextMill (lastStmp : UInt64) : List UInt64 → Option (UInt64 × List UInt64)
  | [] => none
  | mill :: readings =>
      if mill ≤ lastStmp then getNextMill lastStmp readings else some (mill, readings)

/-- The expression `nextId` returns. -/
def pack (datacenterId machineId sequence currStmp : UInt64) : UInt64 :=
  (currStmp - startStmp) <<< timestmpLeft
    ||| datacenterId <<< datacenterLeft
    ||| machineId <<< machineLeft
    ||| sequence

/-- The id a generator in this state has just handed out. -/
def lastId (g : SnowFlake) : UInt64 := pack g.datacenterId g.machineId g.sequence g.lastStmp

theorem and_maxSequenceNum_le (s : UInt64) : s &&& maxSequenceNum ≤ maxSequenceNum := by
  rw [UInt64.le_iff_toNat_le, UInt64.toNat_and]
  exact Nat.and_le_right

/-- The generator after a call that settled on `currStmp` and `sequence`. -/
def settle (g : SnowFlake) (sequence currStmp : UInt64) (h : sequence ≤ maxSequenceNum) :
    SnowFlake :=
  { g with sequence := sequence, lastStmp := currStmp, sequence_le := h }

/-- `nextId`. -/
def nextId (g : SnowFlake) : List UInt64 → Call
  | [] => .waiting
  | currStmp :: readings =>
      if currStmp < g.lastStmp then .exited
      else if currStmp = g.lastStmp then
        let g' := g.settle ((g.sequence + 1) &&& maxSequenceNum) currStmp
          (and_maxSequenceNum_le _)
        if g'.sequence = 0 then
          match getNextMill g.lastStmp readings with
          | none => .waiting
          | some (mill, rest) =>
              let g'' := g'.settle g'.sequence mill g'.sequence_le
              .returned g''.lastId g'' rest
        else .returned g'.lastId g' readings
      else
        let g' := g.settle 0 currStmp (by decide)
        .returned g'.lastId g' readings

/-- **A run**: at most `calls` calls of `nextId`, one after the other, on one clock. -/
def run : Nat → SnowFlake → List UInt64 → List UInt64
  | 0, _, _ => []
  | calls + 1, g, readings =>
      match g.nextId readings with
      | .returned id g' rest => id :: run calls g' rest
      | _ => []

/-! ## The id as a number

The four fields do not overlap, so the packed word is their sum and ids compare as
`(clock, counter)` pairs do. -/

/-- The clock readings an id can carry: `t - startStmp` has to fit the 42 bits above the ids. -/
def InWindow (t : UInt64) : Prop :=
  startStmp.toNat ≤ t.toNat ∧ t.toNat < startStmp.toNat + 2 ^ 42

theorem inWindow_add {k : UInt64} (hk : k.toNat < 4096) : InWindow (startStmp + k) := by
  have h : startStmp.toNat = 1480166465631 := rfl
  have hadd : (startStmp + k).toNat = 1480166465631 + k.toNat := by
    rw [UInt64.toNat_add, h]
    omega
  rw [InWindow, h, hadd]
  omega

/-- The packed word as a sum, whatever the clock says: the shift drops what lies above 42 bits. -/
theorem toNat_pack_mod {dc m s : UInt64} (hdc : dc ≤ maxDatacenterNum) (hm : m ≤ maxMachineNum)
    (hs : s ≤ maxSequenceNum) (t : UInt64) :
    (pack dc m s t).toNat
      = (t - startStmp).toNat % 2 ^ 42 * 2 ^ 22 + dc.toNat * 2 ^ 17 + m.toNat * 2 ^ 12
        + s.toNat := by
  have hdc' : dc.toNat ≤ 31 := UInt64.le_iff_toNat_le.mp hdc
  have hm' : m.toNat ≤ 31 := UInt64.le_iff_toNat_le.mp hm
  have hs' : s.toNat ≤ 4095 := UInt64.le_iff_toNat_le.mp hs
  set x := (t - startStmp).toNat % 2 ^ 42
  have hA : ((t - startStmp) <<< timestmpLeft).toNat = x <<< 22 := by
    rw [UInt64.toNat_shiftLeft, show timestmpLeft.toNat % 64 = 22 from rfl, Nat.shiftLeft_eq,
      Nat.shiftLeft_eq, show 2 ^ 64 = 2 ^ 42 * 2 ^ 22 from rfl, Nat.mul_mod_mul_right]
  have hB : (dc <<< datacenterLeft).toNat = dc.toNat <<< 17 := by
    rw [UInt64.toNat_shiftLeft, show datacenterLeft.toNat % 64 = 17 from rfl,
      Nat.mod_eq_of_lt (by rw [Nat.shiftLeft_eq]; omega)]
  have hC : (m <<< machineLeft).toNat = m.toNat <<< 12 := by
    rw [UInt64.toNat_shiftLeft, show machineLeft.toNat % 64 = 12 from rfl,
      Nat.mod_eq_of_lt (by rw [Nat.shiftLeft_eq]; omega)]
  rw [pack, UInt64.toNat_or, UInt64.toNat_or, UInt64.toNat_or, hA, hB, hC]
  -- the fields join from the left: each one fits below the bits already placed
  rw [← Nat.shiftLeft_add_eq_or_of_lt (b := dc.toNat <<< 17) (by rw [Nat.shiftLeft_eq]; omega)]
  have h1 : x <<< 22 + dc.toNat <<< 17 = (x * 32 + dc.toNat) <<< 17 := by
    simp only [Nat.shiftLeft_eq]; ring
  rw [h1, ← Nat.shiftLeft_add_eq_or_of_lt (b := m.toNat <<< 12)
    (by rw [Nat.shiftLeft_eq]; omega)]
  have h2 : (x * 32 + dc.toNat) <<< 17 + m.toNat <<< 12
      = ((x * 32 + dc.toNat) * 32 + m.toNat) <<< 12 := by
    simp only [Nat.shiftLeft_eq]; ring
  rw [h2, ← Nat.shiftLeft_add_eq_or_of_lt (by omega), Nat.shiftLeft_eq]
  ring

theorem toNat_sub_startStmp {t : UInt64} (ht : startStmp.toNat ≤ t.toNat) :
    (t - startStmp).toNat = t.toNat - startStmp.toNat :=
  UInt64.toNat_sub_of_le _ _ (UInt64.le_iff_toNat_le.mpr ht)

theorem toNat_pack {dc m s t : UInt64} (hdc : dc ≤ maxDatacenterNum) (hm : m ≤ maxMachineNum)
    (hs : s ≤ maxSequenceNum) (ht : InWindow t) :
    (pack dc m s t).toNat
      = (t.toNat - startStmp.toNat) * 2 ^ 22 + dc.toNat * 2 ^ 17 + m.toNat * 2 ^ 12
        + s.toNat := by
  obtain ⟨hlo, hhi⟩ := ht
  rw [toNat_pack_mod hdc hm hs, toNat_sub_startStmp hlo, Nat.mod_eq_of_lt (by omega)]

/-- `g'` is a later state of the generator `g`: the same ids, a later clock or a higher counter. -/
structure Later (g g' : SnowFlake) : Prop where
  datacenterId_eq : g'.datacenterId = g.datacenterId
  machineId_eq : g'.machineId = g.machineId
  stamp : g.lastStmp < g'.lastStmp ∨ g.lastStmp = g'.lastStmp ∧ g.sequence < g'.sequence

/-- **A later generator has handed out a larger id.** -/
theorem Later.lastId_lt {g g' : SnowFlake} (h : Later g g') (hg : InWindow g.lastStmp)
    (hg' : InWindow g'.lastStmp) : g.lastId < g'.lastId := by
  rw [UInt64.lt_iff_toNat_lt, lastId, lastId,
    toNat_pack g.datacenterId_le g.machineId_le g.sequence_le hg,
    toNat_pack g'.datacenterId_le g'.machineId_le g'.sequence_le hg',
    h.datacenterId_eq, h.machineId_eq]
  have hs : g.sequence.toNat ≤ 4095 := UInt64.le_iff_toNat_le.mp g.sequence_le
  have hm : g.machineId.toNat ≤ 31 := UInt64.le_iff_toNat_le.mp g.machineId_le
  have hd : g.datacenterId.toNat ≤ 31 := UInt64.le_iff_toNat_le.mp g.datacenterId_le
  have hlo := hg.1
  rcases h.stamp with ht | ⟨ht, hseq⟩
  · have := UInt64.lt_iff_toNat_lt.mp ht
    omega
  · have := UInt64.lt_iff_toNat_lt.mp hseq
    rw [ht]
    omega

/-! ## What one call does -/

/-- `getNextMill` skips readings and stops at one past `lastStmp`. -/
theorem getNextMill_eq_some {lastStmp mill : UInt64} : ∀ {readings rest : List UInt64},
    getNextMill lastStmp readings = some (mill, rest) →
      lastStmp < mill ∧ (mill :: rest) <:+ readings
  | [], _, h => by simp [getNextMill] at h
  | t :: readings, rest, h => by
      rw [getNextMill] at h
      split at h
      · obtain ⟨hlt, hsuf⟩ := getNextMill_eq_some h
        exact ⟨hlt, hsuf.trans (List.suffix_cons _ _)⟩
      · rename_i ht
        obtain ⟨rfl, rfl⟩ := Prod.mk.inj (Option.some.inj h)
        exact ⟨UInt64.not_le.mp ht, List.suffix_rfl⟩

/-- Counting on without wrapping to zero moves the counter up. -/
theorem lt_succ_and_maxSequenceNum {s : UInt64} (hs : s ≤ maxSequenceNum)
    (h0 : (s + 1) &&& maxSequenceNum ≠ 0) : s < (s + 1) &&& maxSequenceNum := by
  have hs' : s.toNat ≤ 4095 := UInt64.le_iff_toNat_le.mp hs
  have hadd : (s + 1).toNat = s.toNat + 1 := by
    rw [UInt64.toNat_add, Nat.mod_eq_of_lt (by simp; omega)]; rfl
  have hval : ((s + 1) &&& maxSequenceNum).toNat = (s.toNat + 1) % 2 ^ 12 := by
    rw [UInt64.toNat_and, hadd, show maxSequenceNum.toNat = 2 ^ 12 - 1 from rfl,
      Nat.and_two_pow_sub_one_eq_mod]
  have hne : (s.toNat + 1) % 2 ^ 12 ≠ 0 := fun h =>
    h0 (UInt64.toNat_inj.mp (hval.trans h))
  rw [UInt64.lt_iff_toNat_lt, hval]
  omega

/-- **What a returning call does**: the id is the one the new state packs, the state is later, and
the clock value it settled on and the readings it leaves are a tail of the readings given. -/
theorem nextId_returned {g g' : SnowFlake} {id : UInt64} {readings rest : List UInt64}
    (h : g.nextId readings = .returned id g' rest) :
    id = g'.lastId ∧ Later g g' ∧ (g'.lastStmp :: rest) <:+ readings := by
  cases readings with
  | nil => simp [nextId] at h
  | cons t readings =>
    simp only [nextId] at h
    split at h
    · cases h
    · rename_i hlt
      split at h
      · rename_i heq
        split at h
        · -- the counter wrapped: the clock value comes from `getNextMill`
          split at h
          · cases h
          · rename_i mill rest' hmill
            obtain ⟨rfl, rfl, rfl⟩ := Call.returned.inj h
            obtain ⟨hgt, hsuf⟩ := getNextMill_eq_some hmill
            exact ⟨rfl, ⟨rfl, rfl, Or.inl hgt⟩, hsuf.trans (List.suffix_cons _ _)⟩
        · rename_i h0
          obtain ⟨rfl, rfl, rfl⟩ := Call.returned.inj h
          exact ⟨rfl, ⟨rfl, rfl, Or.inr ⟨heq.symm, lt_succ_and_maxSequenceNum g.sequence_le h0⟩⟩,
            List.suffix_rfl⟩
      · rename_i hne
        obtain ⟨rfl, rfl, rfl⟩ := Call.returned.inj h
        have hgt : g.lastStmp < t :=
          UInt64.lt_of_le_of_ne (UInt64.not_lt.mp hlt) (Ne.symm hne)
        exact ⟨rfl, ⟨rfl, rfl, Or.inl hgt⟩, List.suffix_rfl⟩

/-! ## Runs -/

/-- **The ids of a run increase, and all lie above the id the generator had last handed out.** -/
theorem run_pairwise_and_lt (calls : ℕ) : ∀ (g : SnowFlake) (readings : List UInt64),
    readings.Pairwise (· ≤ ·) → (∀ t ∈ readings, InWindow t) →
      (run calls g readings).Pairwise (· < ·) ∧
        (InWindow g.lastStmp → ∀ id ∈ run calls g readings, g.lastId < id) := by
  induction calls with
  | zero => intro g readings _ _; simp [run]
  | succ calls ih =>
    intro g readings hmono hwin
    rw [run]
    split
    · rename_i id g' rest hcall
      obtain ⟨rfl, hlater, hsuf⟩ := nextId_returned hcall
      have hwin' : ∀ t ∈ g'.lastStmp :: rest, InWindow t := fun t ht => hwin t (hsuf.subset ht)
      have hg' : InWindow g'.lastStmp := hwin' _ List.mem_cons_self
      obtain ⟨hpair, hlt⟩ := ih g' rest (hmono.sublist hsuf.sublist).of_cons
        fun t ht => hwin' t (List.mem_cons_of_mem _ ht)
      refine ⟨List.pairwise_cons.mpr ⟨hlt hg', hpair⟩, fun hg id hid => ?_⟩
      have hfirst : g.lastId < g'.lastId := hlater.lastId_lt hg hg'
      rcases List.mem_cons.mp hid with rfl | hid
      · exact hfirst
      · exact UInt64.lt_trans hfirst (hlt hg' id hid)
    · simp

/-- **The ids of every run are strictly increasing**, however many calls fall into one millisecond
and however often the counter is exhausted. -/
theorem run_pairwise_lt (g : SnowFlake) {readings : List UInt64}
    (hmono : readings.Pairwise (· ≤ ·)) (hwin : ∀ t ∈ readings, InWindow t) (calls : ℕ) :
    (run calls g readings).Pairwise (· < ·) :=
  (run_pairwise_and_lt calls g readings hmono hwin).1

/-- A fresh generator, called three times on a clock that stands still once. -/
theorem run_pairwise_lt_standing_clock :
    (run 3 ⟨1, 1, 0, 0, by decide, by decide, by decide⟩
      [startStmp + 5, startStmp + 5, startStmp + 6]).Pairwise (· < ·) :=
  run_pairwise_lt _ (by decide)
    (by
      simp only [List.forall_mem_cons]
      exact ⟨inWindow_add (by decide), inWindow_add (by decide), inWindow_add (by decide),
        by simp⟩) 3

end SnowFlake

end Sadip
