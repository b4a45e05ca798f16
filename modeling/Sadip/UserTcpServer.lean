import Sadip.Machinery.FileSystem
import Sadip.Machinery.Segments

/-!
# UserTcpServer — packets out of a TCP stream, `cam-app/src/UserTcpServer.cpp`

The reactor calls `onSocketReadable` as long as the socket is readable.  One call takes one packet:
a first read of 26 bytes, then `recvAllData` up to the end of the head, the head's length, and
`recvAllData` again up to the end code.  The buffer is local to the call, and `recvAllData` reads
whatever is there: what a read brings beyond the packet is gone with the buffer.

`convertCam_calls_iff` says which ways of cutting the stream survive this: those where no chunk
holds bytes of two packets and where, once a packet's head is complete, its rest comes in at most
100 reads.
-/

namespace Sadip

namespace UserTcpServer

open Segments

/-! ## The check sum, `TcpRecv.h` and `TcpRecv.cpp` -/

/-- The high bytes of the CRC table. -/
def auchCRCHi : List UInt8 := [
    0x00, 0xC1, 0x81, 0x40, 0x01, 0xC0, 0x80, 0x41, 0x01, 0xC0, 0x80, 0x41, 0x00, 0xC1, 0x81, 0x40,
    0x01, 0xC0, 0x80, 0x41, 0x00, 0xC1, 0x81, 0x40, 0x00, 0xC1, 0x81, 0x40, 0x01, 0xC0, 0x80, 0x41,
    0x01, 0xC0, 0x80, 0x41, 0x00, 0xC1, 0x81, 0x40, 0x00, 0xC1, 0x81, 0x40, 0x01, 0xC0, 0x80, 0x41,
    0x00, 0xC1, 0x81, 0x40, 0x01, 0xC0, 0x80, 0x41, 0x01, 0xC0, 0x80, 0x41, 0x00, 0xC1, 0x81, 0x40,
    0x01, 0xC0, 0x80, 0x41, 0x00, 0xC1, 0x81, 0x40, 0x00, 0xC1, 0x81, 0x40, 0x01, 0xC0, 0x80, 0x41,
    0x00, 0xC1, 0x81, 0x40, 0x01, 0xC0, 0x80, 0x41, 0x01, 0xC0, 0x80, 0x41, 0x00, 0xC1, 0x81, 0x40,
    0x00, 0xC1, 0x81, 0x40, 0x01, 0xC0, 0x80, 0x41, 0x01, 0xC0, 0x80, 0x41, 0x00, 0xC1, 0x81, 0x40,
    0x01, 0xC0, 0x80, 0x41, 0x00, 0xC1, 0x81, 0x40, 0x00, 0xC1, 0x81, 0x40, 0x01, 0xC0, 0x80, 0x41,
    0x01, 0xC0, 0x80, 0x41, 0x00, 0xC1, 0x81, 0x40, 0x00, 0xC1, 0x81, 0x40, 0x01, 0xC0, 0x80, 0x41,
    0x00, 0xC1, 0x81, 0x40, 0x01, 0xC0, 0x80, 0x41, 0x01, 0xC0, 0x80, 0x41, 0x00, 0xC1, 0x81, 0x40,
    0x00, 0xC1, 0x81, 0x40, 0x01, 0xC0, 0x80, 0x41, 0x01, 0xC0, 0x80, 0x41, 0x00, 0xC1, 0x81, 0x40,
    0x01, 0xC0, 0x80, 0x41, 0x00, 0xC1, 0x81, 0x40, 0x00, 0xC1, 0x81, 0x40, 0x01, 0xC0, 0x80, 0x41,
    0x00, 0xC1, 0x81, 0x40, 0x01, 0xC0, 0x80, 0x41, 0x01, 0xC0, 0x80, 0x41, 0x00, 0xC1, 0x81, 0x40,
    0x01, 0xC0, 0x80, 0x41, 0x00, 0xC1, 0x81, 0x40, 0x00, 0xC1, 0x81, 0x40, 0x01, 0xC0, 0x80, 0x41,
    0x01, 0xC0, 0x80, 0x41, 0x00, 0xC1, 0x81, 0x40, 0x00, 0xC1, 0x81, 0x40, 0x01, 0xC0, 0x80, 0x41,
    0x00, 0xC1, 0x81, 0x40, 0x01, 0xC0, 0x80, 0x41, 0x01, 0xC0, 0x80, 0x41, 0x00, 0xC1, 0x81, 0x40]

/-- The low bytes of the CRC table. -/
def auchCRCLo : List UInt8 := [
    0x00, 0xC0, 0xC1, 0x01, 0xC3, 0x03, 0x02, 0xC2, 0xC6, 0x06, 0x07, 0xC7, 0x05, 0xC5, 0xC4, 0x04,
    0xCC, 0x0C, 0x0D, 0xCD, 0x0F, 0xCF, 0xCE, 0x0E, 0x0A, 0xCA, 0xCB, 0x0B, 0xC9, 0x09, 0x08, 0xC8,
    0xD8, 0x18, 0x19, 0xD9, 0x1B, 0xDB, 0xDA, 0x1A, 0x1E, 0xDE, 0xDF, 0x1F, 0xDD, 0x1D, 0x1C, 0xDC,
    0x14, 0xD4, 0xD5, 0x15, 0xD7, 0x17, 0x16, 0xD6, 0xD2, 0x12, 0x13, 0xD3, 0x11, 0xD1, 0xD0, 0x10,
    0xF0, 0x30, 0x31, 0xF1, 0x33, 0xF3, 0xF2, 0x32, 0x36, 0xF6, 0xF7, 0x37, 0xF5, 0x35, 0x34, 0xF4,
    0x3C, 0xFC, 0xFD, 0x3D, 0xFF, 0x3F, 0x3E, 0xFE, 0xFA, 0x3A, 0x3B, 0xFB, 0x39, 0xF9, 0xF8, 0x38,
    0x28, 0xE8, 0xE9, 0x29, 0xEB, 0x2B, 0x2A, 0xEA, 0xEE, 0x2E, 0x2F, 0xEF, 0x2D, 0xED, 0xEC, 0x2C,
    0xE4, 0x24, 0x25, 0xE5, 0x27, 0xE7, 0xE6, 0x26, 0x22, 0xE2, 0xE3, 0x23, 0xE1, 0x21, 0x20, 0xE0,
    0xA0, 0x60, 0x61, 0xA1, 0x63, 0xA3, 0xA2, 0x62, 0x66, 0xA6, 0xA7, 0x67, 0xA5, 0x65, 0x64, 0xA4,
    0x6C, 0xAC, 0xAD, 0x6D, 0xAF, 0x6F, 0x6E, 0xAE, 0xAA, 0x6A, 0x6B, 0xAB, 0x69, 0xA9, 0xA8, 0x68,
    0x78, 0xB8, 0xB9, 0x79, 0xBB, 0x7B, 0x7A, 0xBA, 0xBE, 0x7E, 0x7F, 0xBF, 0x7D, 0xBD, 0xBC, 0x7C,
    0xB4, 0x74, 0x75, 0xB5, 0x77, 0xB7, 0xB6, 0x76, 0x72, 0xB2, 0xB3, 0x73, 0xB1, 0x71, 0x70, 0xB0,
    0x50, 0x90, 0x91, 0x51, 0x93, 0x53, 0x52, 0x92, 0x96, 0x56, 0x57, 0x97, 0x55, 0x95, 0x94, 0x54,
    0x9C, 0x5C, 0x5D, 0x9D, 0x5F, 0x9F, 0x9E, 0x5E, 0x5A, 0x9A, 0x9B, 0x5B, 0x99, 0x59, 0x58, 0x98,
    0x88, 0x48, 0x49, 0x89, 0x4B, 0x8B, 0x8A, 0x4A, 0x4E, 0x8E, 0x8F, 0x4F, 0x8D, 0x4D, 0x4C, 0x8C,
    0x44, 0x84, 0x85, 0x45, 0x87, 0x47, 0x46, 0x86, 0x82, 0x42, 0x43, 0x83, 0x41, 0x81, 0x80, 0x40]

/-- The loop of `N_CRC16`; a byte indexes tables of 256 entries. -/
def crcLoop (uchCRCHi uchCRCLo : UInt8) : Bytes → ℕ
  | [] => uchCRCHi.toNat <<< 8 ||| uchCRCLo.toNat
  | b :: updata =>
      let uindex := uchCRCHi ^^^ b
      crcLoop (uchCRCLo ^^^ auchCRCHi.getD uindex.toNat 0) (auchCRCLo.getD uindex.toNat 0) updata

/-- `N_CRC16`. -/
def nCRC16 (updata : Bytes) : ℕ := crcLoop 0xff 0xff updata

/-! ## Reading the buffer -/

/-- `memcpy` of `n` bytes of the buffer. -/
def memcpy (buffer : Bytes) (off n : ℕ) : Bytes := (buffer.drop off).take n

/-- `ntohs` and `ntohl`: the number that bytes in network order stand for. -/
def ntoh (b : Bytes) : ℕ := b.foldl (fun n x => n * 256 + x.toNat) 0

/-- The fields of `PacketHeader_1` that decide something; the others are only logged. -/
structure PacketHeader where
  header : ℕ
  msgLength : ℕ
  deriving DecidableEq

def packetHead (buffer : Bytes) : PacketHeader where
  header := ntoh (memcpy buffer 0 2)
  msgLength := ntoh (memcpy buffer 22 4)

/-- `PacketCheck`. -/
structure PacketCheck where
  checkCode : ℕ
  endCode : ℕ
  deriving DecidableEq

def checkStruct (buffer : Bytes) (msgLength : ℕ) : PacketCheck where
  checkCode := ntoh (memcpy buffer (26 + msgLength) 2)
  endCode := ntoh (memcpy buffer (26 + msgLength + 2) 2)

/-- The head is refused. -/
def PacketHeader.Refused (packetHead : PacketHeader) : Prop :=
  packetHead.header ≠ 0xFAEB ∨ packetHead.msgLength ≤ 0 ∨ packetHead.msgLength > 65000

instance (packetHead : PacketHeader) : Decidable packetHead.Refused := by
  unfold PacketHeader.Refused; infer_instance

/-! ## The socket callbacks

The socket is the list of chunks that have arrived; a read takes what it asked for from the first
one.  With the chunks used up the peer has closed, and a read returns nothing.  A read into
`buffer` that goes past its 65535 bytes has no defined result: the call is `none`. -/

/-- `recvAllData`: its answer, the bytes received in this callback, and what is left in the
socket. -/
def recvAllData (limit tryCountMax tryCount : ℕ) (buffer : Bytes) (socket : List Bytes) :
    Option (Bool × Bytes × List Bytes) :=
  if buffer.length < limit then
    let tmp := (receive 65535 socket).1
    let rest := (receive 65535 socket).2
    if 65535 < buffer.length + tmp.length then none
    else if tryCountMax < tryCount + 1 then some (false, buffer ++ tmp, rest)
    else recvAllData limit tryCountMax (tryCount + 1) (buffer ++ tmp) rest
  else some (true, buffer, socket)
termination_by tryCountMax - tryCount

variable (parse : Bytes → Bool)

/-- The checks on a packet received up to its end code; `parse` is the answer of
`ParseFromArray`.  The result is what `ConvertCam` is called with. -/
def checkPacket (buffer : Bytes) (msgLength : ℕ) : Option Bytes :=
  let fusion := memcpy buffer 26 msgLength
  if (checkStruct buffer msgLength).endCode ≠ 0xECFD then none
  else if (checkStruct buffer msgLength).checkCode ≠ nCRC16 (memcpy buffer 0 26 ++ fusion) then none
  else if parse fusion then some fusion
  else none

/-- `onSocketReadable`: what it hands to `ConvertCam`, if it does, and what is left in the
socket. -/
def onSocketReadable (socket : List Bytes) : Option (Option Bytes × List Bytes) :=
  let buffer := (receive 26 socket).1
  let socket := (receive 26 socket).2
  if buffer.length ≤ 0 then some (none, socket)
  else
    match recvAllData 26 100 0 buffer socket with
    | none => none
    | some (false, _, socket) => some (none, socket)
    | some (true, buffer, socket) =>
        let packetHead := packetHead buffer
        if packetHead.Refused then some (none, socket)
        else
          match recvAllData (26 + packetHead.msgLength + 4) 100 0 buffer socket with
          | none => none
          | some (false, _, socket) => some (none, socket)
          | some (true, buffer, socket) => some (checkPacket parse buffer packetHead.msgLength,
            socket)

/-! ## One call of `recvAllData` -/

section

variable {parse} {limit tryCountMax tryCount : ℕ} {buffer buffer' : Bytes}
  {socket socket' : List Bytes} {ok : Bool} {fusion? : Option Bytes}

/-- What a call keeps at every turn of its loop, it keeps. -/
theorem recvAllData_induct {P : Bytes → List Bytes → Prop}
    (hstep : ∀ b s, P b s → P (b ++ (receive 65535 s).1) (receive 65535 s).2)
    (hP : P buffer socket) (h : recvAllData limit tryCountMax tryCount buffer socket
      = some (ok, buffer', socket')) : P buffer' socket' := by
  fun_induction recvAllData limit tryCountMax tryCount buffer socket with
  | case1 => cases h
  | case2 =>
      injection h with h
      injection h with _ h
      injection h with hb hs
      exact hb ▸ hs ▸ hstep _ _ hP
  | case3 _ _ _ _ _ _ _ _ ih => exact ih (hstep _ _ hP) h
  | case4 =>
      cases h
      exact hP

/-- **Nothing is lost inside a call**: what was received and what is left are what there was. -/
theorem recvAllData_append (h : recvAllData limit tryCountMax tryCount buffer socket
    = some (ok, buffer', socket')) : buffer' ++ socket'.flatten = buffer ++ socket.flatten :=
  recvAllData_induct (P := fun b s => b ++ s.flatten = buffer ++ socket.flatten)
    (fun b s hbs => by rw [List.append_assoc, receive_append, hbs]) rfl h

theorem recvAllData_proper (hs : Proper socket)
    (h : recvAllData limit tryCountMax tryCount buffer socket = some (ok, buffer', socket')) :
    Proper socket' :=
  recvAllData_induct (P := fun _ s => Proper s) (fun _ _ hs => hs.receive) hs h

theorem recvAllData_size_le
    (h : recvAllData limit tryCountMax tryCount buffer socket = some (ok, buffer', socket')) :
    size socket' ≤ size socket :=
  recvAllData_induct (P := fun _ s => size s ≤ size socket)
    (fun _ _ hs => Nat.le_trans size_receive_le hs) (Nat.le_refl _) h

theorem recvAllData_length_le
    (h : recvAllData limit tryCountMax tryCount buffer socket = some (ok, buffer', socket')) :
    socket'.flatten.length ≤ socket.flatten.length :=
  recvAllData_induct (P := fun _ s => s.flatten.length ≤ socket.flatten.length)
    (fun _ _ hs => Nat.le_trans length_receive_le hs) (Nat.le_refl _) h

/-- **A successful call has read whole chunks**, as many as it takes and no more than it may. -/
theorem reads_of_recvAllData (hb : buffer ≠ []) (ht : tryCount ≤ tryCountMax)
    (h : recvAllData limit tryCountMax tryCount buffer socket = some (true, buffer', socket')) :
    buffer' = buffer ++ (socket.take (reads limit buffer.length socket)).flatten ∧
      socket' = socket.drop (reads limit buffer.length socket) ∧ limit ≤ buffer'.length ∧
      tryCount + reads limit buffer.length socket ≤ tryCountMax := by
  fun_induction recvAllData limit tryCountMax tryCount buffer socket with
  | case1 => cases h
  | case2 => cases h
  | case3 tryCount buffer socket hlt tmp rest hfit htry ih =>
      rcases socket with - | ⟨s, segs⟩
      · -- the peer has closed: the remaining tries bring nothing
        obtain ⟨-, -, hlim, -⟩ := ih (List.append_ne_nil_of_left_ne_nil hb _) (by omega) h
        have happ := congrArg List.length (recvAllData_append h)
        simp only [tmp, rest, receive, List.flatten_nil, List.append_nil,
          List.length_append] at happ
        omega
      · have hs : s.length ≤ 65535 := by
          by_contra hs
          have hlen : tmp.length = 65535 := by
            simp only [tmp, receive_cons_of_lt (by omega : 65535 < s.length), List.length_take]
            omega
          have := List.length_pos_iff.mpr hb
          omega
        have htmp : tmp = s := by simp only [tmp, receive_cons_of_le hs]
        have hrest : rest = segs := by simp only [rest, receive_cons_of_le hs]
        rw [htmp, hrest] at h ih
        obtain ⟨h₁, h₂, h₃, h₄⟩ := ih (by simp [hb]) (by omega) h
        rw [List.length_append] at h₁ h₂ h₄
        rw [reads_cons_of_lt hlt]
        refine ⟨?_, h₂, h₃, by omega⟩
        rw [List.take_succ_cons, List.flatten_cons, ← List.append_assoc, h₁]
  | case4 tryCount buffer socket hge =>
      cases h
      rw [reads_of_le (by omega)]
      exact ⟨by simp, rfl, by omega, by omega⟩

/-- **A call succeeds** when the chunks it takes to the limit fit the buffer and the tries. -/
theorem recvAllData_of_reads
    (hlim : limit ≤ (buffer ++ (socket.take (reads limit buffer.length socket)).flatten).length)
    (hfit : (buffer ++ (socket.take (reads limit buffer.length socket)).flatten).length ≤ 65535)
    (ht : tryCount + reads limit buffer.length socket ≤ tryCountMax) :
    recvAllData limit tryCountMax tryCount buffer socket
      = some (true, buffer ++ (socket.take (reads limit buffer.length socket)).flatten,
          socket.drop (reads limit buffer.length socket)) := by
  induction socket generalizing tryCount buffer with
  | nil =>
      rw [List.take_nil, List.flatten_nil, List.append_nil] at hlim ⊢
      rw [recvAllData, if_neg (by omega), List.drop_nil]
  | cons s segs ih =>
      rcases Nat.lt_or_ge buffer.length limit with hlt | hge
      · rw [reads_cons_of_lt hlt] at hlim hfit ht ⊢
        rw [List.take_succ_cons, List.flatten_cons, ← List.append_assoc,
          ← List.length_append] at hlim hfit
        have hs : s.length ≤ 65535 := by
          simp only [List.length_append] at hfit
          omega
        have hs' : ¬ 65535 < buffer.length + s.length := by
          simp only [List.length_append] at hfit
          omega
        rw [recvAllData, if_pos hlt, receive_cons_of_le hs, if_neg hs', if_neg (by omega),
          ih hlim hfit (by rw [List.length_append]; omega), List.length_append,
          List.take_succ_cons, List.flatten_cons, List.append_assoc, List.drop_succ_cons]
      · rw [reads_of_le hge, recvAllData, if_neg (by omega)]
        simp

/-- What a call takes from the chunks of a group that holds enough. -/
theorem recvAllData_group {group : List Bytes} (tail : List Bytes)
    (hlim : limit ≤ buffer.length + group.flatten.length)
    (hfit : buffer.length + group.flatten.length ≤ 65535)
    (ht : reads limit buffer.length group ≤ tryCountMax) :
    recvAllData limit tryCountMax 0 buffer (group ++ tail)
      = some (true, buffer ++ (group.take (reads limit buffer.length group)).flatten,
          group.drop (reads limit buffer.length group) ++ tail) := by
  have hk := reads_append tail group buffer.length hlim
  have hle := reads_le_length limit group buffer.length
  have hpart := le_of_reads group buffer.length hlim
  have hsplit : (group.take (reads limit buffer.length group)).flatten.length
      ≤ group.flatten.length := by
    conv_rhs => rw [← List.take_append_drop (reads limit buffer.length group) group,
      List.flatten_append, List.length_append]
    exact Nat.le_add_right _ _
  have htake : (group ++ tail).take (reads limit buffer.length (group ++ tail))
      = group.take (reads limit buffer.length group) := by
    rw [hk, List.take_append_of_le_length hle]
  rw [← htake, ← List.drop_append_of_le_length hle, ← hk]
  refine recvAllData_of_reads ?_ ?_ (by omega) <;> rw [htake, List.length_append] <;> omega

/-- A call that asks for exactly what a group holds takes all of it. -/
theorem recvAllData_exact {group : List Bytes} (tail : List Bytes) (hg : Proper group)
    (hlim : limit = buffer.length + group.flatten.length) (hfit : limit ≤ 65535)
    (ht : group.length ≤ tryCountMax) :
    recvAllData limit tryCountMax 0 buffer (group ++ tail)
      = some (true, buffer ++ group.flatten, tail) := by
  have hk : reads limit buffer.length group = group.length := hlim ▸ reads_eq_length hg
  rw [recvAllData_group tail (Nat.le_of_eq hlim) (hlim ▸ hfit) (hk ▸ ht), hk, List.take_length,
    List.drop_length, List.nil_append]

/-! ## One callback -/

/-- **What a callback can do**: find nothing; give up on the head; give up on the rest or find
fault with it; or hand the packet on. -/
theorem onSocketReadable_cases (h : onSocketReadable parse socket = some (fusion?, socket')) :
    ((receive 26 socket).1 = [] ∧ fusion? = none ∧ socket' = (receive 26 socket).2) ∨
    ((receive 26 socket).1 ≠ [] ∧ ∃ ok b s,
      recvAllData 26 100 0 (receive 26 socket).1 (receive 26 socket).2 = some (ok, b, s) ∧
      ((fusion? = none ∧ socket' = s) ∨
        (ok = true ∧ ¬ (packetHead b).Refused ∧ ∃ ok' b',
          recvAllData (26 + (packetHead b).msgLength + 4) 100 0 b s = some (ok', b', socket') ∧
          (fusion? = none ∨
            ok' = true ∧ fusion? = checkPacket parse b' (packetHead b).msgLength)))) := by
  rw [onSocketReadable] at h
  split at h
  · next hnil =>
      cases h
      exact .inl ⟨List.length_eq_zero_iff.mp (Nat.le_zero.mp hnil), rfl, rfl⟩
  · next hne =>
      refine .inr ⟨fun hnil => hne (by rw [hnil]; exact Nat.le_refl _), ?_⟩
      split at h
      · cases h
      · next b s hrecv =>
          cases h
          exact ⟨false, b, _, hrecv, .inl ⟨rfl, rfl⟩⟩
      · next b s hrecv =>
          refine ⟨true, b, s, hrecv, ?_⟩
          simp only at h
          split at h
          · cases h
            exact .inl ⟨rfl, rfl⟩
          · next hok =>
              refine .inr ⟨rfl, hok, ?_⟩
              split at h
              · cases h
              · next b' s' hrecv' =>
                  cases h
                  exact ⟨false, b', hrecv', .inl rfl⟩
              · next b' s' hrecv' =>
                  cases h
                  exact ⟨true, b', hrecv', .inr ⟨rfl, rfl⟩⟩

/-- What every read and every `recvAllData` keeps, a callback keeps. -/
theorem onSocketReadable_induct {P : List Bytes → Prop} (hrecv : P (receive 26 socket).2)
    (hall : ∀ {limit buffer s ok buffer' s'}, recvAllData limit 100 0 buffer s
      = some (ok, buffer', s') → P s → P s')
    (h : onSocketReadable parse socket = some (fusion?, socket')) : P socket' := by
  rcases onSocketReadable_cases h with ⟨-, -, rfl⟩ |
    ⟨-, ok, b, s, h₁, ⟨-, rfl⟩ | ⟨-, -, ok', b', h₂, -⟩⟩
  · exact hrecv
  · exact hall h₁ hrecv
  · exact hall h₂ (hall h₁ hrecv)

theorem onSocketReadable_proper (hs : Proper socket)
    (h : onSocketReadable parse socket = some (fusion?, socket')) : Proper socket' :=
  onSocketReadable_induct hs.receive (fun h hs => recvAllData_proper hs h) h

/-- A callback on a socket that is readable takes something from it. -/
theorem onSocketReadable_size_lt (hne : socket ≠ [])
    (h : onSocketReadable parse socket = some (fusion?, socket')) : size socket' < size socket :=
  onSocketReadable_induct (P := fun s => size s < size socket) (size_receive_lt (by decide) hne)
    (fun h hs => Nat.lt_of_le_of_lt (recvAllData_size_le h) hs) h

theorem onSocketReadable_length_lt (hs : Proper socket) (hne : socket ≠ [])
    (h : onSocketReadable parse socket = some (fusion?, socket')) :
    socket'.flatten.length < socket.flatten.length :=
  onSocketReadable_induct (P := fun s => s.flatten.length < socket.flatten.length)
    (length_receive_lt (by decide) hs hne)
    (fun h hs => Nat.lt_of_le_of_lt (recvAllData_length_le h) hs) h

end

/-- The calls of `ConvertCam` on one connection, with the global counter `msgNum`: the reactor calls
back until the socket is empty. -/
def convertCamCalls (socket : List Bytes) (msgNum : UInt8) : Option (List (Bytes × UInt8)) :=
  if _ : socket = [] then some []
  else
    match h : onSocketReadable parse socket with
    | none => none
    | some (none, rest) => convertCamCalls rest msgNum
    | some (some fusion, rest) =>
        (convertCamCalls rest (msgNum + 1)).map ((fusion, msgNum) :: ·)
termination_by size socket
decreasing_by all_goals exact onSocketReadable_size_lt ‹_› h

/-! ## Packets -/

/-- A well-formed packet: head, body and check, in network order. -/
structure Packet where
  head : Bytes
  body : Bytes
  check : Bytes
  head_length : head.length = 26
  header_eq : ntoh (head.take 2) = 0xFAEB
  msgLength_eq : ntoh (head.drop 22) = body.length
  body_pos : 0 < body.length
  body_le : body.length ≤ 65000
  parse_body : parse body = true
  check_length : check.length = 4
  checkCode_eq : ntoh (check.take 2) = nCRC16 (head ++ body)
  endCode_eq : ntoh (check.drop 2) = 0xECFD

variable {parse}

namespace Packet

/-- The packet as it is sent. -/
def bytes (p : Packet parse) : Bytes := p.head ++ p.body ++ p.check

theorem length_bytes (p : Packet parse) : p.bytes.length = 26 + p.body.length + 4 := by
  rw [bytes, List.length_append, List.length_append, p.head_length, p.check_length]

theorem bytes_ne_nil (p : Packet parse) : p.bytes ≠ [] :=
  List.ne_nil_of_length_pos (by rw [length_bytes]; omega)

end Packet

theorem memcpy_append {off n : ℕ} {xs : Bytes} (h : off + n ≤ xs.length) (ys : Bytes) :
    memcpy (xs ++ ys) off n = memcpy xs off n := by
  rw [memcpy, memcpy, List.drop_append_of_le_length (by omega),
    List.take_append_of_le_length (by rw [List.length_drop]; omega)]

theorem packetHead_append {xs : Bytes} (h : 26 ≤ xs.length) (ys : Bytes) :
    packetHead (xs ++ ys) = packetHead xs := by
  rw [packetHead, packetHead, memcpy_append (by omega), memcpy_append (by omega)]

/-- The three parts of a packet, side by side. -/
theorem memcpy_parts (xs : Bytes) (n m l : ℕ) :
    memcpy xs 0 n ++ memcpy xs n m ++ memcpy xs (n + m) l = xs.take (n + m + l) := by
  rw [List.take_add, List.take_add, memcpy, memcpy, memcpy, List.drop_zero]

theorem length_memcpy {off n : ℕ} {xs : Bytes} (h : off + n ≤ xs.length) :
    (memcpy xs off n).length = n := by
  rw [memcpy, List.length_take, List.length_drop]
  omega

/-- **The checks accept only packets**: what they hand on is the body of one that the buffer starts
with. -/
theorem exists_packet_of_checkPacket {buffer : Bytes} {msgLength : ℕ} {fusion : Bytes}
    (hhead : ¬ (packetHead buffer).Refused) (hlen : (packetHead buffer).msgLength = msgLength)
    (hbuf : 26 + msgLength + 4 ≤ buffer.length)
    (h : checkPacket parse buffer msgLength = some fusion) :
    ∃ p : Packet parse, p.body = fusion ∧ p.bytes = buffer.take (26 + msgLength + 4) := by
  rw [checkPacket] at h
  simp only [PacketHeader.Refused, not_or] at hhead
  split at h
  · cases h
  next hend =>
  split at h
  · cases h
  next hcrc =>
  split at h
  next hparse =>
    obtain rfl := Option.some.inj h
    have hbody := length_memcpy (show 26 + msgLength ≤ buffer.length by omega)
    refine ⟨{ head := memcpy buffer 0 26, body := memcpy buffer 26 msgLength,
              check := memcpy buffer (26 + msgLength) 4,
              head_length := length_memcpy (by omega),
              header_eq := ?_, msgLength_eq := ?_, body_pos := by rw [hbody]; omega,
              body_le := by rw [hbody]; omega, parse_body := hparse,
              check_length := length_memcpy (by omega),
              checkCode_eq := ?_, endCode_eq := ?_ }, rfl, ?_⟩
    · rw [← not_ne_iff.mp hhead.1]
      simp [packetHead, memcpy, List.take_take]
    · rw [hbody, ← hlen]
      simp [packetHead, memcpy, List.drop_take]
    · rw [← not_ne_iff.mp hcrc]
      simp [checkStruct, memcpy, List.take_take]
    · rw [← not_ne_iff.mp hend]
      simp [checkStruct, memcpy, List.drop_take]
    · exact memcpy_parts buffer 26 msgLength 4
  · cases h

theorem memcpy_drop (xs ys : Bytes) (off n : ℕ) :
    memcpy (xs ++ ys) (xs.length + off) n = memcpy ys off n := by
  rw [memcpy, memcpy, List.drop_append, List.drop_eq_nil_of_le (Nat.le_add_right _ _),
    Nat.add_sub_cancel_left, List.nil_append]

theorem packetHead_bytes (p : Packet parse) : packetHead p.bytes = ⟨0xFAEB, p.body.length⟩ := by
  rw [Packet.bytes, List.append_assoc, packetHead_append (Nat.le_of_eq p.head_length.symm),
    packetHead, memcpy, List.drop_zero, p.header_eq, memcpy, List.take_of_length_le
      (by simp [p.head_length]), p.msgLength_eq]

theorem not_refused (p : Packet parse) : ¬ (packetHead p.bytes).Refused := by
  have := p.body_pos
  have := p.body_le
  rw [packetHead_bytes, PacketHeader.Refused]
  simp only
  omega

/-- The checks hand on the body of a packet. -/
theorem checkPacket_bytes (p : Packet parse) :
    checkPacket parse p.bytes p.body.length = some p.body := by
  have hbody : memcpy p.bytes 26 p.body.length = p.body := by
    rw [Packet.bytes, List.append_assoc, ← p.head_length, show p.head.length = p.head.length + 0
      from rfl, memcpy_drop, memcpy, List.drop_zero, List.take_left]
  have hhead : memcpy p.bytes 0 26 = p.head := by
    rw [Packet.bytes, List.append_assoc, memcpy, List.drop_zero, ← p.head_length, List.take_left]
  have hlen : 26 + p.body.length = (p.head ++ p.body).length := by
    rw [List.length_append, p.head_length]
  have hcheck : ∀ off, memcpy p.bytes (26 + p.body.length + off) 2 = memcpy p.check off 2 :=
    fun off => by rw [Packet.bytes, hlen, memcpy_drop]
  have hcode : (checkStruct p.bytes p.body.length).checkCode = nCRC16 (p.head ++ p.body) := by
    rw [← p.checkCode_eq]
    exact congrArg ntoh (hcheck 0)
  have hend : (checkStruct p.bytes p.body.length).endCode = 0xECFD := by
    rw [← p.endCode_eq, ← List.take_of_length_le (i := 2) (l := p.check.drop 2)
      (by simp [p.check_length])]
    exact congrArg ntoh (hcheck 2)
  rw [checkPacket]
  simp only [hbody, hhead, hcode, hend, p.parse_body, ne_eq, not_true_eq_false, if_false, if_true]

/-! ## A callback and a packet -/

/-- The reads a callback makes for the rest of a packet when `group` is how the packet comes: those
after the first read and after the reads that complete the head. -/
def bodyReads (group : List Bytes) : ℕ :=
  (receive 26 group).2.length - reads 26 (receive 26 group).1.length (receive 26 group).2

variable {socket socket' : List Bytes}

/-- **A callback that hands a body on has taken a packet from the socket**, and perhaps more; if no
more, the packet came in chunks of its own, its rest in at most 100 reads. -/
theorem exists_packet_of_onSocketReadable (hs : Proper socket) {fusion : Bytes}
    (h : onSocketReadable parse socket = some (some fusion, socket')) :
    ∃ p : Packet parse, p.body = fusion ∧ ∃ lost,
    socket.flatten = p.bytes ++ lost ++ socket'.flatten ∧
      (lost = [] → ∃ group, socket = group ++ socket' ∧ group.flatten = p.bytes ∧
        bodyReads group ≤ 100) := by
  obtain ⟨-, hnone, -⟩ | ⟨hne, ok, b, s, h₁,
    ⟨hnone, -⟩ | ⟨rfl, hhead, ok', b', h₂, hnone | ⟨rfl, hcheck⟩⟩⟩ :=
    onSocketReadable_cases h
  · cases hnone
  · cases hnone
  · cases hnone
  generalize hr₁ : (receive 26 socket).1 = buf at h₁ hne
  generalize hr₂ : (receive 26 socket).2 = rest at h₁
  obtain ⟨hb, hs', h26, -⟩ := reads_of_recvAllData hne (by decide) h₁
  obtain ⟨hb', hsocket', hlim, htries⟩ := reads_of_recvAllData
    (List.ne_nil_of_length_pos (by omega)) (by decide) h₂
  have hhead' : packetHead b' = packetHead b := by rw [hb', packetHead_append h26]
  obtain ⟨p, hbody, hbytes⟩ := exists_packet_of_checkPacket (hhead' ▸ hhead)
    (congrArg PacketHeader.msgLength hhead') hlim hcheck.symm
  have hstream : b' ++ socket'.flatten = socket.flatten := by
    rw [recvAllData_append h₂, recvAllData_append h₁, ← hr₁, ← hr₂, receive_append]
  have hlen : p.bytes.length = 26 + (packetHead b).msgLength + 4 := by
    rw [hbytes, List.length_take, Nat.min_eq_left hlim]
  have htake : p.bytes ++ b'.drop p.bytes.length = b' := by
    rw [hlen, hbytes, List.take_append_drop]
  refine ⟨p, hbody, b'.drop p.bytes.length, by rw [htake, hstream], fun hlost => ?_⟩
  generalize hk₁ : reads 26 buf.length rest = k₁ at hb hs'
  generalize hk₂ : reads (26 + (packetHead b).msgLength + 4) b.length s = k₂ at hb' hsocket' htries
  -- the chunks both loops took, as the first read left them
  have hrest : rest = (rest.take k₁ ++ s.take k₂) ++ socket' := by
    rw [List.append_assoc, hsocket', List.take_append_drop, hs', List.take_append_drop]
  have hall : buf ++ (rest.take k₁ ++ s.take k₂).flatten = b' := by
    rw [List.flatten_append, ← List.append_assoc, ← hb, ← hb']
  have hbuf : buf.length ≤ 26 := hr₁ ▸ receive_length_le socket
  have hfull := congrArg List.length hall
  rw [List.length_append] at hfull
  have hys : rest.take k₁ ++ s.take k₂ ≠ [] := by
    intro hnil
    rw [hnil, List.flatten_nil, List.length_nil] at hfull
    omega
  have hsocket : socket ≠ [] := by
    rintro rfl
    exact hne hr₁.symm
  obtain ⟨group, hgroup, hrecv⟩ := exists_group hsocket hys (hr₂.trans hrest)
  have hflat := receive_append (n := 26) group
  rw [hrecv, hr₁, hall] at hflat
  refine ⟨group, hgroup, by rw [← hflat, ← htake, hlost, List.append_nil], ?_⟩
  have hk : reads 26 buf.length (rest.take k₁ ++ s.take k₂) = k₁ := by
    have hall' := reads_append socket' (rest.take k₁ ++ s.take k₂) buf.length
      (show 26 ≤ _ by omega)
    rw [← hall', ← hrest, hk₁]
  have hk₁' : k₁ ≤ rest.length := hk₁ ▸ reads_le_length _ rest _
  have hk₂' : k₂ ≤ s.length := hk₂ ▸ reads_le_length _ s _
  rw [bodyReads, hrecv, hr₁]
  simp only
  rw [hk, List.length_append, List.length_take, List.length_take]
  omega

/-- **A packet that comes in chunks of its own is handed on.** -/
theorem onSocketReadable_group (p : Packet parse) {group : List Bytes} (hg : Proper group)
    (hbytes : group.flatten = p.bytes) (hreads : bodyReads group ≤ 100) (tail : List Bytes) :
    onSocketReadable parse (group ++ tail) = some (some p.body, tail) := by
  have hne : group ≠ [] := by
    rintro rfl
    exact p.bytes_ne_nil hbytes.symm
  have hstream := (receive_append (n := 26) group).trans hbytes
  have hbuf := receive_ne_nil (n := 26) (by decide) hg hne
  have hproper := hg.receive (n := 26)
  rw [bodyReads] at hreads
  rw [onSocketReadable, receive_append_left hne]
  generalize (receive 26 group).1 = buf at *
  generalize (receive 26 group).2 = rest at *
  have hpos := List.length_pos_iff.mpr hbuf
  have hmax := p.body_le
  have hlen := congrArg List.length hstream
  rw [List.length_append, p.length_bytes] at hlen
  have htries := reads_le 26 buf.length hproper
  have hhead : recvAllData 26 100 0 buf (rest ++ tail) = _ :=
    recvAllData_group tail (by omega) (by omega) (by omega)
  simp only
  rw [if_neg (by omega), hhead]
  have h26 := le_of_reads rest buf.length (show 26 ≤ _ by omega)
  rw [← List.length_drop] at hreads
  have hrest : buf ++ (rest.take (reads 26 buf.length rest)).flatten
      ++ (rest.drop (reads 26 buf.length rest)).flatten = p.bytes := by
    rw [List.append_assoc, ← List.flatten_append, List.take_append_drop, hstream]
  have hproper' := hproper.drop (reads 26 buf.length rest)
  rw [← List.length_append] at h26
  generalize buf ++ (rest.take (reads 26 buf.length rest)).flatten = b at *
  generalize rest.drop (reads 26 buf.length rest) = s at *
  have hhead' : packetHead b = ⟨0xFAEB, p.body.length⟩ := by
    rw [← packetHead_bytes p, ← hrest, packetHead_append h26]
  have hok : ¬ (packetHead b).Refused := by
    rw [hhead', ← packetHead_bytes p]
    exact not_refused p
  rw [hhead'] at hok
  have hlen' := congrArg List.length hrest
  rw [List.length_append, p.length_bytes] at hlen'
  simp only [hhead', if_neg hok]
  rw [recvAllData_exact tail hproper' hlen'.symm (by omega) hreads, hrest]
  simp only [checkPacket_bytes]

/-! ## A connection -/

/-- The bodies handed to `ConvertCam`, in order. -/
def bodies (calls : List (Bytes × UInt8)) : List Bytes := calls.map Prod.fst

@[simp] theorem bodies_cons (fusion : Bytes) (msgNum : UInt8) (calls : List (Bytes × UInt8)) :
    bodies ((fusion, msgNum) :: calls) = fusion :: bodies calls := rfl

theorem convertCamCalls_nil (msgNum : UInt8) : convertCamCalls parse [] msgNum = some [] := by
  rw [convertCamCalls]
  exact dif_pos rfl

theorem convertCamCalls_of_some (hne : socket ≠ []) {fusion : Bytes}
    (h : onSocketReadable parse socket = some (some fusion, socket')) (msgNum : UInt8) :
    convertCamCalls parse socket msgNum
      = (convertCamCalls parse socket' (msgNum + 1)).map ((fusion, msgNum) :: ·) := by
  rw [convertCamCalls, dif_neg hne]
  split <;> simp_all

theorem convertCamCalls_of_none (hne : socket ≠ [])
    (h : onSocketReadable parse socket = some (none, socket')) (msgNum : UInt8) :
    convertCamCalls parse socket msgNum = convertCamCalls parse socket' msgNum := by
  rw [convertCamCalls, dif_neg hne]
  split <;> simp_all

/-- **A connection with defined calls goes on from callback to callback.** -/
theorem convertCamCalls_cases (hne : socket ≠ []) {msgNum : UInt8} {calls : List (Bytes × UInt8)}
    (h : convertCamCalls parse socket msgNum = some calls) :
    ∃ fusion? socket', onSocketReadable parse socket = some (fusion?, socket') ∧
      ((fusion? = none ∧ convertCamCalls parse socket' msgNum = some calls) ∨
        ∃ fusion calls', fusion? = some fusion ∧ calls = (fusion, msgNum) :: calls' ∧
          convertCamCalls parse socket' (msgNum + 1) = some calls') := by
  rcases hread : onSocketReadable parse socket with - | ⟨- | fusion, socket'⟩
  · rw [convertCamCalls, dif_neg hne] at h
    split at h <;> simp_all
  · exact ⟨none, socket', rfl, .inl ⟨rfl, convertCamCalls_of_none hne hread msgNum ▸ h⟩⟩
  · rw [convertCamCalls_of_some hne hread, Option.map_eq_some_iff] at h
    obtain ⟨calls', hcalls', rfl⟩ := h
    exact ⟨some fusion, socket', rfl, .inr ⟨fusion, calls', rfl, rfl, hcalls'⟩⟩

/-- The bytes of the packets with these bodies. -/
def packed : List Bytes → ℕ
  | [] => 0
  | b :: bs => 26 + b.length + 4 + packed bs

@[simp] theorem packed_cons (b : Bytes) (bs : List Bytes) :
    packed (b :: bs) = 26 + b.length + 4 + packed bs := rfl

theorem length_flatten_bytes : ∀ ps : List (Packet parse),
    (ps.map Packet.bytes).flatten.length = packed (ps.map Packet.body)
  | [] => rfl
  | p :: ps => by
      rw [List.map_cons, List.flatten_cons, List.length_append, p.length_bytes,
        length_flatten_bytes ps, List.map_cons, packed_cons]

/-- **Nothing is invented**: the packets of the bodies handed on fit the bytes received. -/
theorem packed_le {socket : List Bytes} (hs : Proper socket) {msgNum : UInt8}
    {calls : List (Bytes × UInt8)} (h : convertCamCalls parse socket msgNum = some calls) :
    packed (bodies calls) ≤ socket.flatten.length := by
  rcases eq_or_ne socket [] with rfl | hne
  · rw [convertCamCalls_nil] at h
    obtain rfl := Option.some.inj h
    exact Nat.zero_le _
  obtain ⟨fusion?, socket', hread, ⟨rfl, hcalls⟩ | ⟨fusion, calls', rfl, rfl, hcalls⟩⟩ :=
    convertCamCalls_cases hne h
  · have := packed_le (onSocketReadable_proper hs hread) hcalls
    have := onSocketReadable_length_lt hs hne hread
    omega
  · have ih := packed_le (onSocketReadable_proper hs hread) hcalls
    obtain ⟨p, hbody, lost, hflat, -⟩ := exists_packet_of_onSocketReadable hs hread
    have hlen := congrArg List.length hflat
    rw [List.length_append, List.length_append, p.length_bytes, hbody] at hlen
    rw [bodies_cons, packed_cons]
    omega
termination_by size socket
decreasing_by all_goals exact onSocketReadable_size_lt hne hread

/-- Each packet comes in chunks of its own, and its rest in at most 100 reads. -/
def OwnChunks (ps : List (Packet parse)) (groups : List (List Bytes)) : Prop :=
  List.Forall₂ (fun p group => group.flatten = p.bytes ∧ bodyReads group ≤ 100) ps groups

/-- **All bodies handed on, every packet had its own chunks**: a callback that lost a byte would
leave too few for the bodies still to come. -/
theorem exists_groups : ∀ (ps : List (Packet parse)) {socket : List Bytes} {msgNum : UInt8}
    {calls : List (Bytes × UInt8)}, Proper socket → socket.flatten = (ps.map Packet.bytes).flatten →
    convertCamCalls parse socket msgNum = some calls → bodies calls = ps.map Packet.body →
    ∃ groups, socket = groups.flatten ∧ OwnChunks ps groups
  | [], socket, _, _, hs, hflat, _, _ => ⟨[], hs.eq_nil_of_flatten hflat, .nil⟩
  | p :: ps, socket, msgNum, calls, hs, hflat, h, hbodies => by
      have hlen := congrArg List.length hflat
      rw [length_flatten_bytes, ← hbodies] at hlen
      have hne : socket ≠ [] := by
        rintro rfl
        rw [hbodies, List.map_cons, packed_cons] at hlen
        exact absurd hlen (by simp; omega)
      obtain ⟨fusion?, socket', hread, ⟨rfl, hcalls⟩ | ⟨fusion, calls', rfl, rfl, hcalls⟩⟩ :=
        convertCamCalls_cases hne h
      · have := packed_le (onSocketReadable_proper hs hread) hcalls
        have := onSocketReadable_length_lt hs hne hread
        omega
      · have hs' := onSocketReadable_proper hs hread
        have hle := packed_le hs' hcalls
        obtain ⟨hfusion, hbodies'⟩ := List.cons_eq_cons.mp hbodies
        obtain ⟨q, hbody, lost, hsplit, hgroup⟩ := exists_packet_of_onSocketReadable hs hread
        have hqlen : q.bytes.length = p.bytes.length := by
          rw [q.length_bytes, p.length_bytes, hbody, ← hfusion]
        have hlost : lost = [] := by
          have hcount := congrArg List.length hsplit
          rw [hlen, bodies_cons, packed_cons, List.length_append,
            List.length_append, q.length_bytes, hbody] at hcount
          exact List.length_eq_zero_iff.mp (by omega)
        obtain ⟨group, hsocket, hbytes, hreads⟩ := hgroup hlost
        rw [hlost, List.append_nil, hflat, List.map_cons, List.flatten_cons] at hsplit
        obtain ⟨hq, hrest⟩ := List.append_inj hsplit hqlen.symm
        obtain ⟨groups, hgroups, hown⟩ := exists_groups ps hs' hrest.symm hcalls hbodies'
        exact ⟨group :: groups, by rw [List.flatten_cons, ← hgroups, hsocket],
          .cons ⟨hbytes.trans hq.symm, hreads⟩ hown⟩

/-- **Packets in chunks of their own are all handed on.** -/
theorem convertCamCalls_of_ownChunks {ps : List (Packet parse)} {groups : List (List Bytes)}
    (hown : OwnChunks ps groups) (hs : Proper groups.flatten) (msgNum : UInt8) :
    ∃ calls, convertCamCalls parse groups.flatten msgNum = some calls ∧
      bodies calls = ps.map Packet.body := by
  induction hown generalizing msgNum with
  | nil => exact ⟨[], convertCamCalls_nil msgNum, rfl⟩
  | @cons p group ps groups hp _ ih =>
      obtain ⟨hbytes, hreads⟩ := hp
      rw [List.flatten_cons] at hs ⊢
      have hread := onSocketReadable_group p hs.of_append_left hbytes hreads groups.flatten
      obtain ⟨calls, hcalls, hbodies⟩ := ih hs.of_append_right (msgNum + 1)
      have hne : group ++ groups.flatten ≠ [] := by
        intro hnil
        rw [(List.append_eq_nil_iff.mp hnil).1] at hbytes
        exact p.bytes_ne_nil hbytes.symm
      refine ⟨(p.body, msgNum) :: calls, ?_, ?_⟩
      · rw [convertCamCalls_of_some hne hread, hcalls, Option.map_some]
      · rw [bodies_cons, hbodies, List.map_cons]

/-- **Which streams are put together again.**  Packets sent back to back are handed to `ConvertCam`,
each once and in order, exactly when each comes in chunks of its own and its rest in at most 100
reads. -/
theorem convertCam_calls_iff (ps : List (Packet parse)) (socket : List Bytes) (msgNum : UInt8)
    (hs : Proper socket) (hflat : socket.flatten = (ps.map Packet.bytes).flatten) :
    (convertCamCalls parse socket msgNum).map bodies = some (ps.map Packet.body) ↔
      ∃ groups, socket = groups.flatten ∧ OwnChunks ps groups := by
  constructor
  · intro h
    obtain ⟨calls, hcalls, hbodies⟩ := Option.map_eq_some_iff.mp h
    exact exists_groups ps hs hflat hcalls hbodies
  · rintro ⟨groups, rfl, hown⟩
    obtain ⟨calls, hcalls, hbodies⟩ := convertCamCalls_of_ownChunks hown hs msgNum
    rw [hcalls, Option.map_some, hbodies]

/-- A packet whose body is one field, `sendTime = 1`. -/
def sendTimePacket : Packet (· == [0x08, 0x01]) where
  head := [0xFA, 0xEB] ++ List.replicate 20 0 ++ [0, 0, 0, 2]
  body := [0x08, 0x01]
  check := [0x6E, 0xE4, 0xEC, 0xFD]
  head_length := by decide
  header_eq := by decide
  msgLength_eq := by decide
  body_pos := by decide
  body_le := by decide
  parse_body := by decide
  check_length := by decide
  checkCode_eq := by decide +kernel
  endCode_eq := by decide

/-- The first packet in three chunks, cut in its head and in its body, and the second in one. -/
theorem convertCam_calls_split_head :
    let bytes := sendTimePacket.bytes
    (convertCamCalls (· == [0x08, 0x01])
        [bytes.take 10, (bytes.drop 10).take 17, bytes.drop 27, bytes] 0).map bodies
      = some [[0x08, 0x01], [0x08, 0x01]] := by
  intro bytes
  have h := convertCam_calls_iff [sendTimePacket, sendTimePacket]
    [bytes.take 10, (bytes.drop 10).take 17, bytes.drop 27, bytes] 0
    (by simp only [Proper, List.forall_mem_cons]; decide) (by decide)
  refine h.mpr ⟨[[bytes.take 10, (bytes.drop 10).take 17, bytes.drop 27], [bytes]], rfl,
    .cons ⟨by decide, by decide⟩ (.cons ⟨by decide, by decide⟩ .nil)⟩

/-- **Two packets in one chunk**: the first callback takes both and hands on one. -/
theorem convertCam_calls_second_lost :
    Proper [sendTimePacket.bytes ++ sendTimePacket.bytes] ∧
      [sendTimePacket.bytes ++ sendTimePacket.bytes].flatten
        = ([sendTimePacket, sendTimePacket].map Packet.bytes).flatten ∧
      (convertCamCalls (· == [0x08, 0x01]) [sendTimePacket.bytes ++ sendTimePacket.bytes] 0).map
        bodies
        ≠ some ([sendTimePacket, sendTimePacket].map Packet.body) := by
  have hs : Proper [sendTimePacket.bytes ++ sendTimePacket.bytes] := fun s hs =>
    List.mem_singleton.mp hs ▸ List.append_ne_nil_of_left_ne_nil sendTimePacket.bytes_ne_nil _
  refine ⟨hs, by simp, fun h => ?_⟩
  obtain ⟨calls, hcalls, hbodies⟩ := Option.map_eq_some_iff.mp h
  obtain ⟨groups, hgroups, hown⟩ := exists_groups _ hs (by simp) hcalls hbodies
  have hlen : ∀ g : List Bytes, g.flatten = sendTimePacket.bytes → 0 < g.length := fun g hg =>
    List.length_pos_iff.mpr (by rintro rfl; exact sendTimePacket.bytes_ne_nil hg.symm)
  rcases hown with - | ⟨⟨h₁, -⟩, - | ⟨⟨h₂, -⟩, -⟩⟩
  have := hlen _ h₁
  have := hlen _ h₂
  have hone := congrArg List.length hgroups
  simp only [List.flatten_cons, List.length_append, List.length_cons, List.length_nil] at hone
  omega

end UserTcpServer

end Sadip
