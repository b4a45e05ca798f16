import Sadip.Snowflake

/-!
# Snowflake/Fields — reading an id back

`pack` ORs four shifted fields into one word; `fields` cuts the word at the same bit positions.
Only the clock needs a bound: the constructor's tests and the mask of `nextId` keep the other three
within their widths (`fields_pack`).

Two consequences.  While the clock is within 41 bits of `startStmp`, an id is a non-negative signed
number and determines the state that handed it out (`returned_decodes`).  And the two ids in the low
bits do not depend on the clock, so generators that differ in them never collide, whatever their
clocks say (`run_disjoint`).
-/

namespace Sadip

namespace SnowFlake

/-! ## The bit fields -/

/-- The four bit fields of an id. -/
@[ext]
structure Fields where
  time : UInt64
  datacenterId : UInt64
  machineId : UInt64
  sequence : UInt64
  deriving DecidableEq

/-- Cut a word at the positions `nextId` shifts to. -/
def fields (id : UInt64) : Fields where
  time := id >>> timestmpLeft
  datacenterId := id >>> datacenterLeft &&& maxDatacenterNum
  machineId := id >>> machineLeft &&& maxMachineNum
  sequence := id &&& maxSequenceNum

theorem toNat_time (id : UInt64) : (fields id).time.toNat = id.toNat / 2 ^ 22 := by
  rw [fields, UInt64.toNat_shiftRight, show timestmpLeft.toNat % 64 = 22 from rfl,
    Nat.shiftRight_eq_div_pow]

theorem toNat_datacenterId (id : UInt64) :
    (fields id).datacenterId.toNat = id.toNat / 2 ^ 17 % 2 ^ 5 := by
  rw [fields, UInt64.toNat_and, UInt64.toNat_shiftRight,
    show datacenterLeft.toNat % 64 = 17 from rfl, show maxDatacenterNum.toNat = 2 ^ 5 - 1 from rfl,
    Nat.and_two_pow_sub_one_eq_mod, Nat.shiftRight_eq_div_pow]

theorem toNat_machineId (id : UInt64) :
    (fields id).machineId.toNat = id.toNat / 2 ^ 12 % 2 ^ 5 := by
  rw [fields, UInt64.toNat_and, UInt64.toNat_shiftRight,
    show machineLeft.toNat % 64 = 12 from rfl, show maxMachineNum.toNat = 2 ^ 5 - 1 from rfl,
    Nat.and_two_pow_sub_one_eq_mod, Nat.shiftRight_eq_div_pow]

theorem toNat_sequence (id : UInt64) : (fields id).sequence.toNat = id.toNat % 2 ^ 12 := by
  rw [fields, UInt64.toNat_and, show maxSequenceNum.toNat = 2 ^ 12 - 1 from rfl,
    Nat.and_two_pow_sub_one_eq_mod]

/-- **The fields of a packed word are the values packed**, the time up to the bits the shift
drops. -/
theorem fields_pack {dc m s : UInt64} (hdc : dc ≤ maxDatacenterNum) (hm : m ≤ maxMachineNum)
    (hs : s ≤ maxSequenceNum) (t : UInt64) :
    fields (pack dc m s t) = ⟨(t - startStmp) % 2 ^ 42, dc, m, s⟩ := by
  have hdc' : dc.toNat ≤ 31 := UInt64.le_iff_toNat_le.mp hdc
  have hm' : m.toNat ≤ 31 := UInt64.le_iff_toNat_le.mp hm
  have hs' : s.toNat ≤ 4095 := UInt64.le_iff_toNat_le.mp hs
  have hid := toNat_pack_mod hdc hm hs t
  have htime : (fields (pack dc m s t)).time = (t - startStmp) % 2 ^ 42 := by
    apply UInt64.toNat_inj.mp
    rw [toNat_time, hid, UInt64.toNat_mod, show (2 ^ 42 : UInt64).toNat = 2 ^ 42 from rfl]
    omega
  have hdatacenter : (fields (pack dc m s t)).datacenterId = dc := by
    apply UInt64.toNat_inj.mp
    rw [toNat_datacenterId, hid]
    omega
  have hmachine : (fields (pack dc m s t)).machineId = m := by
    apply UInt64.toNat_inj.mp
    rw [toNat_machineId, hid]
    omega
  have hsequence : (fields (pack dc m s t)).sequence = s := by
    apply UInt64.toNat_inj.mp
    rw [toNat_sequence, hid]
    omega
  exact Fields.ext htime hdatacenter hmachine hsequence

/-! ## The fields of a generator's ids -/

/-- The clock readings of the 41-bit window: `2 ^ 41` milliseconds from `startStmp` on. -/
def InPeriod (t : UInt64) : Prop :=
  startStmp.toNat ≤ t.toNat ∧ t.toNat < startStmp.toNat + 2 ^ 41
  deriving Decidable

/-- What a generator's last id should read as. -/
def stateFields (g : SnowFlake) : Fields :=
  ⟨g.lastStmp - startStmp, g.datacenterId, g.machineId, g.sequence⟩

theorem fields_lastId {g : SnowFlake} (ht : InPeriod g.lastStmp) :
    fields g.lastId = g.stateFields := by
  have htime : (g.lastStmp - startStmp) % 2 ^ 42 = g.lastStmp - startStmp := by
    have := ht.2
    apply UInt64.toNat_inj.mp
    rw [UInt64.toNat_mod, toNat_sub_startStmp ht.1, show (2 ^ 42 : UInt64).toNat = 2 ^ 42 from rfl,
      Nat.mod_eq_of_lt (by omega)]
  rw [lastId, fields_pack g.datacenterId_le g.machineId_le g.sequence_le, htime, stateFields]

/-- The top bit of an id stays clear. -/
theorem lastId_lt_two_pow {g : SnowFlake} (ht : InPeriod g.lastStmp) : g.lastId.toNat < 2 ^ 63 := by
  have htime := toNat_time g.lastId
  rw [fields_lastId ht, stateFields, toNat_sub_startStmp ht.1] at htime
  have := ht.2
  omega

/-- The ids in an id's low bits are the generator's own, on every clock. -/
theorem fields_datacenterId_lastId (g : SnowFlake) :
    (fields g.lastId).datacenterId = g.datacenterId ∧
    (fields g.lastId).machineId = g.machineId := by
  rw [lastId, fields_pack g.datacenterId_le g.machineId_le g.sequence_le]
  exact ⟨rfl, rfl⟩

/-- Every id of a run carries the generator's datacenter and machine. -/
theorem run_fields (calls : ℕ) : ∀ (g : SnowFlake) (readings : List UInt64),
    ∀ id ∈ run calls g readings,
      (fields id).datacenterId = g.datacenterId ∧ (fields id).machineId = g.machineId := by
  induction calls with
  | zero => intro g readings id hid; simp [run] at hid
  | succ calls ih =>
    intro g readings id hid
    rw [run] at hid
    split at hid
    · rename_i first g' rest hcall
      obtain ⟨rfl, hlater, -⟩ := nextId_returned hcall
      rw [← hlater.datacenterId_eq, ← hlater.machineId_eq]
      obtain rfl | hid := List.mem_cons.mp hid
      · exact fields_datacenterId_lastId g'
      · exact ih g' rest id hid
    · simp at hid

/-- **Generators with different ids share no id**, over any two runs on any two clocks. -/
theorem run_disjoint {g h : SnowFlake}
    (hne : (g.datacenterId, g.machineId) ≠ (h.datacenterId, h.machineId))
    (calls calls' : ℕ) (readings readings' : List UInt64) :
    (run calls g readings).Disjoint (run calls' h readings') := by
  intro id hg hh
  obtain ⟨hgd, hgm⟩ := run_fields calls g readings id hg
  obtain ⟨hhd, hhm⟩ := run_fields calls' h readings' id hh
  exact hne (by rw [← hgd, ← hgm, hhd, hhm])

/-- **Ids decode.**  The id of a call that settled on a reading `t` of the window is non-negative as
a signed number, its bit fields are `t - startStmp`, the generator's two ids and the counter, and no
other state of any generator has that id. -/
theorem returned_decodes {g g' : SnowFlake} {id : UInt64} {readings rest : List UInt64}
    (h : g.nextId readings = .returned id g' rest) (ht : InPeriod g'.lastStmp) :
    0 ≤ id.toInt64 ∧
      fields id = ⟨g'.lastStmp - startStmp, g.datacenterId, g.machineId, g'.sequence⟩ ∧
      ∀ other : SnowFlake, InPeriod other.lastStmp → other.lastId = id →
        other.stateFields = g'.stateFields := by
  obtain ⟨rfl, hlater, -⟩ := nextId_returned h
  refine ⟨?_, ?_, fun other hother heq => ?_⟩
  · have hlt := lastId_lt_two_pow ht
    have hint : g'.lastId.toInt64.toInt = g'.lastId.toNat :=
      BitVec.toInt_eq_toNat_of_lt (x := g'.lastId.toBitVec) (by
        rw [UInt64.toNat_toBitVec]
        omega)
    rw [Int64.le_iff_toInt_le, hint]
    exact Int.natCast_nonneg _
  · rw [fields_lastId ht, stateFields, hlater.datacenterId_eq, hlater.machineId_eq]
  · rw [← fields_lastId hother, heq, fields_lastId ht]

/-- **Ids decode and do not collide**: `returned_decodes` for every call of every generator, and
`run_disjoint` for every two generators that differ in an id. -/
theorem ids_decode_and_disjoint (g : SnowFlake) :
    (∀ (readings : List UInt64) (id : UInt64) (g' : SnowFlake) (rest : List UInt64),
      g.nextId readings = .returned id g' rest → InPeriod g'.lastStmp →
        g'.lastStmp ∈ readings ∧ 0 ≤ id.toInt64 ∧
          fields id = ⟨g'.lastStmp - startStmp, g.datacenterId, g.machineId, g'.sequence⟩ ∧
          ∀ other : SnowFlake, InPeriod other.lastStmp → other.lastId = id →
            other.stateFields = g'.stateFields) ∧
    ∀ h : SnowFlake, (g.datacenterId, g.machineId) ≠ (h.datacenterId, h.machineId) →
      ∀ (calls calls' : ℕ) (readings readings' : List UInt64),
        (run calls g readings).Disjoint (run calls' h readings') := by
  refine ⟨fun readings id g' rest hcall ht => ⟨?_, returned_decodes hcall ht⟩,
    fun h hne calls calls' readings readings' => run_disjoint hne calls calls' readings readings'⟩
  obtain ⟨-, -, hsuf⟩ := nextId_returned hcall
  exact hsuf.subset List.mem_cons_self

/-- One call five milliseconds in, and two machines of one datacenter asked at the same instants. -/
theorem ids_decode_and_disjoint_two_machines :
    let g : SnowFlake := ⟨1, 1, 0, 0, by decide, by decide, by decide⟩
    let h : SnowFlake := ⟨1, 2, 0, 0, by decide, by decide, by decide⟩
    (∃ id, fields id = ⟨5, 1, 1, 0⟩ ∧ 0 ≤ id.toInt64) ∧
      (run 2 g [startStmp + 5, startStmp + 6]).Disjoint
        (run 2 h [startStmp + 5, startStmp + 6]) := by
  intro g h
  refine ⟨⟨(g.settle 0 (startStmp + 5) (by decide)).lastId, ?_⟩,
    (ids_decode_and_disjoint g).2 h (by decide) 2 2 _ _⟩
  obtain ⟨-, hpos, hfields, -⟩ := (ids_decode_and_disjoint g).1 [startStmp + 5] _
    (g.settle 0 (startStmp + 5) (by decide)) [] rfl (by decide)
  exact ⟨hfields.trans (by decide), hpos⟩

end SnowFlake

end Sadip
