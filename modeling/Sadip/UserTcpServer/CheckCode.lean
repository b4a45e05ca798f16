import Mathlib.Data.List.GetD
import Sadip.Machinery.Crc
import Sadip.UserTcpServer

/-!
# UserTcpServer/CheckCode — what the check code of a packet tells, `cam-app/src/TcpRecv.cpp`

`N_CRC16` keeps the bytes of its register apart, and calls the low one `uchCRCHi`.  With its two
tables it computes CRC-16/MODBUS, the bytes swapped (`nCRC16_eq`); so two messages of which one bit
differs have different check codes (`nCRC16_ne`).
-/

namespace Sadip

namespace UserTcpServer

open Crc

/-- The polynomial of CRC-16/MODBUS, without its leading one, from the right to the left. -/
def modbus : BitVec 16 := 0xA001

/-- CRC-16/MODBUS, bit by bit. -/
def crc16Modbus (bs : Bytes) : BitVec 16 := register modbus 0xFFFF (bs.map UInt8.toBitVec)

def byteSwap (c : BitVec 16) : BitVec 16 := c <<< 8 ||| c >>> 8

/-! ## Two bytes -/

variable {x y : BitVec 8}

theorem append_shiftRight : (x ++ y) >>> 8 = 0#8 ++ x := by
  refine BitVec.eq_of_getLsbD_eq fun i hi => ?_
  rw [BitVec.getLsbD_ushiftRight, BitVec.getLsbD_append, if_neg (by omega),
    Nat.add_sub_cancel_left, BitVec.getLsbD_append]
  split
  · rfl
  · next hlow => rw [BitVec.getLsbD_of_ge x i (Nat.not_lt.mp hlow), BitVec.getLsbD_zero]

theorem append_shiftLeft : (x ++ y) <<< 8 = y ++ 0#8 := by
  refine BitVec.eq_of_getLsbD_eq fun i hi => ?_
  rw [BitVec.getLsbD_shiftLeft, decide_eq_true hi, Bool.true_and, BitVec.getLsbD_append,
    BitVec.getLsbD_append]
  by_cases hlow : i < 8
  · rw [decide_eq_true hlow, if_pos hlow, Bool.not_true, Bool.false_and, BitVec.getLsbD_zero]
  · rw [decide_eq_false hlow, if_neg hlow, if_pos (by omega), Bool.not_false, Bool.true_and]

theorem byteSwap_append : byteSwap (x ++ y) = y ++ x := by
  rw [byteSwap, append_shiftLeft, append_shiftRight, BitVec.or_append, BitVec.or_zero,
    BitVec.zero_or]

theorem exists_append (c : BitVec 16) : ∃ x y : BitVec 8, c = x ++ y := by
  refine ⟨(c >>> 8).setWidth 8, c.setWidth 8, BitVec.eq_of_getLsbD_eq fun i hi => ?_⟩
  rw [BitVec.getLsbD_append, BitVec.getLsbD_setWidth, BitVec.getLsbD_setWidth,
    BitVec.getLsbD_ushiftRight]
  split
  · next hlow => rw [decide_eq_true hlow, Bool.true_and]
  · next hlow =>
      rw [Nat.add_sub_cancel' (Nat.not_lt.mp hlow), decide_eq_true (by omega), Bool.true_and]

theorem byteSwap_byteSwap (c : BitVec 16) : byteSwap (byteSwap c) = c := by
  obtain ⟨x, y, rfl⟩ := exists_append c
  rw [byteSwap_append, byteSwap_append]

/-! ## The tables -/

/-- Each table has one byte of what eight shifts make of an index. -/
theorem tables_eq (b : BitVec 8) : (auchCRCLo.getD b.toNat 0).toBitVec
    ++ (auchCRCHi.getD b.toNat 0).toBitVec = (shift modbus)^[8] (b.setWidth 16) := by
  revert b
  decide +kernel

/-- **One turn of the loop.** -/
theorem enter_append (hi lo b : UInt8) : enter modbus (lo.toBitVec ++ hi.toBitVec) b.toBitVec
    = (auchCRCLo.getD (hi ^^^ b).toNat 0).toBitVec
      ++ (lo ^^^ auchCRCHi.getD (hi ^^^ b).toNat 0).toBitVec := by
  have hlow : (lo.toBitVec ++ hi.toBitVec).setWidth 8 = hi.toBitVec :=
    BitVec.setWidth_append_eq_right
  rw [enter_eq, hlow, append_shiftRight, ← tables_eq, BitVec.xor_append, BitVec.xor_zero,
    UInt8.toBitVec_xor, BitVec.xor_comm lo.toBitVec]
  rfl

theorem crcLoop_eq : ∀ (hi lo : UInt8) (bs : Bytes), crcLoop hi lo bs
    = (byteSwap (register modbus (lo.toBitVec ++ hi.toBitVec) (bs.map UInt8.toBitVec))).toNat
  | hi, lo, [] => by
      rw [crcLoop, List.map_nil, register, List.foldl_nil, byteSwap_append, BitVec.toNat_append]
      rfl
  | hi, lo, b :: bs => by
      rw [crcLoop, crcLoop_eq, List.map_cons, register, register, List.foldl_cons, enter_append]

theorem nCRC16_eq (bs : Bytes) : nCRC16 bs = (byteSwap (crc16Modbus bs)).toNat :=
  crcLoop_eq 0xff 0xff bs

/-! ## One bit -/

/-- The `n`th bit of a message, from the lowest bit of its first byte on. -/
def bitAt (bs : Bytes) (n : ℕ) : Bool := (bs.getD (n / 8) 0).toBitVec.getLsbD (n % 8)

/-- Messages of one length that have the same bits, all but one. -/
structure OneBitApart (bs bs' : Bytes) : Prop where
  length_eq : bs.length = bs'.length
  differs : ∃! n, bitAt bs n ≠ bitAt bs' n

variable {bs bs' : Bytes}

/-- Bytes with the same bits. -/
theorem getD_eq_of_bitAt {i : ℕ} (h : ∀ n, n / 8 = i → bitAt bs n = bitAt bs' n) :
    bs.getD i 0 = bs'.getD i 0 := by
  refine UInt8.toBitVec_inj.mp (BitVec.eq_of_getLsbD_eq fun k hk => ?_)
  have hdiv : (8 * i + k) / 8 = i := by omega
  have hmod : (8 * i + k) % 8 = k := by omega
  have hbit := h (8 * i + k) hdiv
  rwa [bitAt, bitAt, hdiv, hmod] at hbit

/-- The bit is in one byte, and what stands before and behind this byte is the same. -/
theorem OneBitApart.exists_append (h : OneBitApart bs bs') :
    ∃ before a b after, a ≠ b ∧ bs = before ++ a :: after ∧ bs' = before ++ b :: after := by
  obtain ⟨n, hn, honly⟩ := h.differs
  have hsame : ∀ i, i ≠ n / 8 → bs.getD i 0 = bs'.getD i 0 := fun i hi =>
    getD_eq_of_bitAt fun m hm => by
      by_contra hne
      rw [honly m hne] at hm
      exact hi hm.symm
  have hlt : n / 8 < bs.length := by
    by_contra hge
    refine hn ?_
    rw [bitAt, bitAt, List.getD_eq_default _ _ (Nat.not_lt.mp hge),
      List.getD_eq_default _ _ (h.length_eq ▸ Nat.not_lt.mp hge)]
  have hlt' : n / 8 < bs'.length := h.length_eq ▸ hlt
  have hset : bs' = bs.set (n / 8) bs'[n / 8] := by
    refine List.ext_getElem (by rw [List.length_set, h.length_eq]) fun i hi hi' => ?_
    rw [List.getElem_set]
    split
    · next heq => simp only [heq]
    · next hne =>
        have hbyte := hsame i (Ne.symm hne)
        rw [List.length_set] at hi'
        rwa [List.getD_eq_getElem _ _ hi, List.getD_eq_getElem _ _ hi', eq_comm] at hbyte
  refine ⟨bs.take (n / 8), bs[n / 8], bs'[n / 8], bs.drop (n / 8 + 1), fun heq => hn ?_, ?_, ?_⟩
  · rw [bitAt, bitAt, List.getD_eq_getElem _ _ hlt, List.getD_eq_getElem _ _ hlt', heq]
  · rw [List.getElem_cons_drop, List.take_append_drop]
  · rwa [List.set_eq_take_append_cons_drop, if_pos hlt] at hset

/-- **One byte makes a difference**, and so does one bit. -/
theorem crc16Modbus_ne (h : OneBitApart bs bs') : crc16Modbus bs ≠ crc16Modbus bs' := by
  obtain ⟨before, a, b, after, hab, rfl, rfl⟩ := h.exists_append
  have hbits : a.toBitVec ≠ b.toBitVec := fun heq => hab (UInt8.toBitVec_inj.mp heq)
  rw [crc16Modbus, crc16Modbus, List.map_append, List.map_append, List.map_cons, List.map_cons]
  exact register_ne rfl (Nat.le_add_left 8 8) hbits _ _ _

theorem nCRC16_ne (h : OneBitApart bs bs') : nCRC16 bs ≠ nCRC16 bs' := by
  intro heq
  rw [nCRC16_eq, nCRC16_eq, BitVec.toNat_inj] at heq
  refine crc16Modbus_ne h ?_
  rw [← byteSwap_byteSwap (crc16Modbus bs), heq, byteSwap_byteSwap]

/-- **The check code is CRC-16/MODBUS**, the bytes swapped, and tells messages apart that differ in
one bit. -/
theorem nCRC16_checks : (∀ bs : Bytes, nCRC16 bs = (byteSwap (crc16Modbus bs)).toNat) ∧
    ∀ bs bs' : Bytes, OneBitApart bs bs' → nCRC16 bs ≠ nCRC16 bs' :=
  ⟨nCRC16_eq, fun _ _ => nCRC16_ne⟩

theorem oneBitApart_zero_one : OneBitApart [0] [1] := by
  refine ⟨rfl, 0, by decide, fun n (hn : bitAt [0] n ≠ bitAt [1] n) => ?_⟩
  by_cases hlow : n < 8
  · have hfirst : ∀ m < 8, bitAt [0] m ≠ bitAt [1] m → m = 0 := by decide
    exact hfirst n hlow hn
  · have hout : 1 ≤ n / 8 := by omega
    rw [bitAt, bitAt, List.getD_eq_default _ _ hout, List.getD_eq_default _ _ hout] at hn
    exact absurd rfl hn

theorem nCRC16_checks_zero_one :
    nCRC16 [0] = (byteSwap (crc16Modbus [0])).toNat ∧ nCRC16 [0] ≠ nCRC16 [1] :=
  ⟨nCRC16_checks.1 [0], nCRC16_checks.2 [0] [1] oneBitApart_zero_one⟩

/-! ## Packets -/

variable {parse : Bytes → Bool} {buffer buffer' fusion : Bytes} {msgLength : ℕ}

theorem memcpy_append_memcpy (buffer : Bytes) (msgLength : ℕ) :
    memcpy buffer 0 26 ++ memcpy buffer 26 msgLength = buffer.take (26 + msgLength) := by
  rw [List.take_add, memcpy, memcpy, List.drop_zero]

theorem checkStruct_congr (h : buffer.drop (26 + msgLength) = buffer'.drop (26 + msgLength)) :
    checkStruct buffer msgLength = checkStruct buffer' msgLength := by
  have hcopy : ∀ off, memcpy buffer (26 + msgLength + off) 2
      = memcpy buffer' (26 + msgLength + off) 2 := by
    intro off
    rw [memcpy, memcpy, ← List.drop_drop, h, List.drop_drop]
  rw [checkStruct, checkStruct, hcopy 2]
  exact congrArg (fun code => PacketCheck.mk (ntoh code) _) (hcopy 0)

/-- **A packet with one bit changed is refused**, if the bit is not in its check. -/
theorem checkPacket_eq_none (h : checkPacket parse buffer msgLength = some fusion)
    (hbit : OneBitApart (buffer.take (26 + msgLength)) (buffer'.take (26 + msgLength)))
    (hcheck : buffer.drop (26 + msgLength) = buffer'.drop (26 + msgLength)) :
    checkPacket parse buffer' msgLength = none := by
  have hcode : (checkStruct buffer msgLength).checkCode ≠
    nCRC16 (buffer'.take (26 + msgLength)) := by
    rw [checkPacket] at h
    split at h
    · cases h
    split at h
    · cases h
    next heq =>
    rw [not_ne_iff.mp heq, memcpy_append_memcpy]
    exact nCRC16_ne hbit
  rw [checkPacket, memcpy_append_memcpy, ← checkStruct_congr hcheck, if_pos hcode, ite_self]

end UserTcpServer

end Sadip
