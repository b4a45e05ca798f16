import Sadip.UserTcpServer

/-!
# UserTcpServer/Buffer — what the callback does to its 65535 bytes

`recvAllData` asks for 65535 bytes at every turn of its loop and copies what comes behind what is
there.  `limit` ends the loop when enough has come; nothing ends it when too much has.

The callback is written down here by its accesses to `buffer`, over any results of `receiveBytes`.
`accesses_inBounds_iff` says for which results they all stay within the buffer and within what was
received: those where no turn of either loop brings more than the buffer has room for.
-/

namespace Sadip

namespace UserTcpServer

open Segments

/-! ## What `receiveBytes` returns -/

/-- The results of `receiveBytes` in one callback: bytes, no bytes for 0 or less, or `none` for an
exception.  The first call asks for 26 bytes, the others ask for 65535. -/
structure Receives where
  result : ℕ → Option Bytes
  first_le : ∀ tmp ∈ result 0, tmp.length ≤ 26
  le : ∀ k, ∀ tmp ∈ result k, tmp.length ≤ 65535

namespace Receives

variable (r : Receives)

/-- The bytes of the first `k` results. -/
def received : ℕ → Bytes
  | 0 => []
  | k + 1 => received k ++ (r.result k).getD []

/-- `recv_len_` after the first `k` results. -/
def total (k : ℕ) : ℕ := (r.received k).length

theorem received_succ {k : ℕ} {tmp : Bytes} (h : r.result k = some tmp) :
    r.received (k + 1) = r.received k ++ tmp := by
  rw [received, h, Option.getD_some]

theorem total_succ {k : ℕ} {tmp : Bytes} (h : r.result k = some tmp) :
    r.total (k + 1) = r.total k + tmp.length := by
  rw [total, received_succ r h, List.length_append, total]

theorem total_le_succ (k : ℕ) : r.total k ≤ r.total (k + 1) := by
  rw [total, total, received, List.length_append]
  exact Nat.le_add_right _ _

theorem total_mono {i j : ℕ} (h : i ≤ j) : r.total i ≤ r.total j := by
  induction h with
  | refl => exact Nat.le_refl _
  | step _ ih => exact Nat.le_trans ih (r.total_le_succ _)

end Receives

/-! ## The callback, by its accesses -/

/-- An access to `buffer`. -/
inductive Access where
  /-- `n` bytes are written at `off`. -/
  | write (off n : ℕ)
  /-- `n` bytes are read at `off` with `recvLen` bytes received. -/
  | read (off n recvLen : ℕ)

/-- What is written lies in the buffer; what is read has been received. -/
def Access.InBounds : Access → Prop
  | write off n => off + n ≤ 65535
  | read off n recvLen => off + n ≤ recvLen

instance : DecidablePred Access.InBounds := fun a => by
  cases a <;> unfold Access.InBounds <;> infer_instance

/-- How `recvAllData` ends: it returns `true` with this many results taken; it returns `false` or is
left by an exception; or it has written past the buffer. -/
inductive Ending where
  | filled (buffer : Bytes) (k : ℕ)
  | gaveUp
  | overran

/-- The `memcpy` of a turn of the loop, made only when something came. -/
def copied (buffer tmp : Bytes) : List Access :=
  if tmp.length ≤ 0 then [] else [.write buffer.length tmp.length]

/-- `recvAllData`, with `k` results taken before the turn. -/
def recvAllDataAccesses (r : Receives) (limit tryCountMax tryCount : ℕ) (buffer : Bytes) (k : ℕ) :
    List Access × Ending :=
  if buffer.length < limit then
    match r.result k with
    | none => ([], .gaveUp)
    | some tmp =>
        if 65535 < buffer.length + tmp.length then (copied buffer tmp, .overran)
        else if tryCountMax < tryCount + 1 then (copied buffer tmp, .gaveUp)
        else
          let rest := recvAllDataAccesses r limit tryCountMax (tryCount + 1) (buffer ++ tmp) (k + 1)
          (copied buffer tmp ++ rest.1, rest.2)
  else ([], .filled buffer k)
termination_by tryCountMax - tryCount

/-- The fields of the head, each with a `memcpy` of its own. -/
def headReads (recvLen : ℕ) : List Access :=
  [(0, 2), (2, 1), (3, 1), (4, 15), (19, 1), (20, 2), (22, 4)].map
    fun field => .read field.1 field.2 recvLen

/-- The body, the check sum and the end code; with the right end code, the head once more. -/
def packetReads (buffer : Bytes) (msgLength : ℕ) : List Access :=
  [.read 26 msgLength buffer.length, .read (26 + msgLength) 2 buffer.length,
    .read (26 + msgLength + 2) 2 buffer.length] ++
  if (checkStruct buffer msgLength).endCode ≠ 0xECFD then [] else [.read 0 26 buffer.length]

/-- `onSocketReadable` from the second `recvAllData` on. -/
def bodyAccesses (r : Receives) (msgLength : ℕ) (buffer : Bytes) (k : ℕ) : List Access :=
  let second := recvAllDataAccesses r (26 + msgLength + 4) 100 0 buffer k
  second.1 ++
    match second.2 with
    | .filled buffer _ => packetReads buffer msgLength
    | .gaveUp => []
    | .overran => []

/-- `onSocketReadable`. -/
def accesses (r : Receives) : List Access :=
  match r.result 0 with
  | none => []
  | some buffer =>
      .write 0 buffer.length ::
        if buffer.length ≤ 0 then []
        else
          let first := recvAllDataAccesses r 26 100 0 buffer 1
          first.1 ++
            match first.2 with
            | .filled buffer k =>
                headReads buffer.length ++
                  if (packetHead buffer).Refused then []
                  else bodyAccesses r (packetHead buffer).msgLength buffer k
            | .gaveUp => []
            | .overran => []

/-! ## One loop -/

namespace Receives

variable (r : Receives)

/-- The loop that begins with result `k` and may go on `n` times takes result `j`. -/
structure Takes (limit k n j : ℕ) : Prop where
  le : k ≤ j
  le_add : j ≤ k + n
  isSome : ∀ i, k ≤ i → i ≤ j → (r.result i).isSome
  lt : r.total j < limit

/-- The loop that begins with result `k` and may go on `n` times ends well before result `a`. -/
structure Fills (limit k n a : ℕ) : Prop where
  le : k ≤ a
  le_add : a ≤ k + n
  isSome : ∀ i, k ≤ i → i < a → (r.result i).isSome
  lt : ∀ i, k ≤ i → i < a → r.total i < limit
  limit_le : limit ≤ r.total a

/-- No result that the loop takes is longer than what is left of the buffer. -/
def LoopFits (limit k n : ℕ) : Prop := ∀ j, r.Takes limit k n j → r.total (j + 1) ≤ 65535

variable {r} {limit k n a : ℕ} {tmp : Bytes}

theorem takes_self (hk : r.result k = some tmp) (hlt : r.total k < limit) :
    r.Takes limit k n k where
  le := Nat.le_refl k
  le_add := Nat.le_add_right k n
  isSome i hi hik := by
    obtain rfl := Nat.le_antisymm hik hi
    rw [hk, Option.isSome_some]
  lt := hlt

/-- After its first turn a loop goes on as the loop from the next result. -/
theorem takes_succ_iff (hk : r.result k = some tmp) (hlt : r.total k < limit) {j : ℕ} :
    r.Takes limit k (n + 1) j ↔ j = k ∨ r.Takes limit (k + 1) n j := by
  constructor
  · intro h
    rcases Nat.eq_or_lt_of_le h.le with rfl | hkj
    · exact .inl rfl
    · have := h.le_add
      exact .inr ⟨hkj, by omega, fun i hi => h.isSome i (by omega), h.lt⟩
  · rintro (rfl | h)
    · exact takes_self hk hlt
    · have hle := h.le
      have hadd := h.le_add
      refine ⟨by omega, by omega, fun i hi hij => ?_, h.lt⟩
      rcases Nat.eq_or_lt_of_le hi with rfl | hki
      · rw [hk, Option.isSome_some]
      · exact h.isSome i hki hij

theorem loopFits_succ_iff (hk : r.result k = some tmp) (hlt : r.total k < limit) :
    r.LoopFits limit k (n + 1) ↔ r.total (k + 1) ≤ 65535 ∧ r.LoopFits limit (k + 1) n :=
  ⟨fun h => ⟨h k (takes_self hk hlt), fun j hj => h j ((takes_succ_iff hk hlt).mpr (.inr hj))⟩,
    fun ⟨hhere, hrest⟩ j hj => by
      rcases (takes_succ_iff hk hlt).mp hj with rfl | hj
      · exact hhere
      · exact hrest j hj⟩

theorem fills_succ_iff (hk : r.result k = some tmp) (hlt : r.total k < limit) :
    r.Fills limit k (n + 1) a ↔ r.Fills limit (k + 1) n a := by
  constructor
  · intro h
    have hka : k ≠ a := by
      rintro rfl
      exact Nat.not_le_of_lt hlt h.limit_le
    have := h.le
    have := h.le_add
    exact ⟨by omega, by omega, fun i hi => h.isSome i (by omega), fun i hi => h.lt i (by omega),
      h.limit_le⟩
  · intro h
    have := h.le
    have := h.le_add
    refine ⟨by omega, by omega, fun i hi hia => ?_, fun i hi hia => ?_, h.limit_le⟩
    · rcases Nat.eq_or_lt_of_le hi with rfl | hki
      · rw [hk, Option.isSome_some]
      · exact h.isSome i hki hia
    · rcases Nat.eq_or_lt_of_le hi with rfl | hki
      · exact hlt
      · exact h.lt i hki hia

/-- A loop that has its limit already ends where it begins. -/
theorem fills_iff_of_le (hle : limit ≤ r.total k) : r.Fills limit k n a ↔ a = k := by
  constructor
  · intro h
    by_contra hne
    have := h.le
    exact Nat.not_lt_of_le hle (h.lt k (Nat.le_refl k) (by omega))
  · rintro rfl
    exact ⟨Nat.le_refl a, Nat.le_add_right a n, fun i _ _ => by omega, fun i _ _ => by omega, hle⟩

end Receives

section

variable {r : Receives} {limit tryCountMax tryCount k : ℕ} {buffer : Bytes}

theorem copied_inBounds_iff {tmp : Bytes} (hlen : buffer.length ≤ 65535) :
    (∀ access ∈ copied buffer tmp, access.InBounds) ↔ buffer.length + tmp.length ≤ 65535 := by
  rw [copied]
  split
  · simp only [List.not_mem_nil, false_imp_iff, implies_true, true_iff]
    omega
  · rw [List.forall_mem_singleton, Access.InBounds]

/-- The turn that goes past the end is the last. -/
theorem recvAllDataAccesses_of_lt {tmp : Bytes} (hk : r.result k = some tmp)
    (hlt : buffer.length < limit) (hover : 65535 < buffer.length + tmp.length) :
    recvAllDataAccesses r limit tryCountMax tryCount buffer k = (copied buffer tmp, .overran) := by
  rw [recvAllDataAccesses, if_pos hlt]
  simp only [hk, if_pos hover]

/-- **A loop stays in the buffer** when all it takes fits. -/
theorem recvAllDataAccesses_inBounds_iff (hmax : limit ≤ 65535) (ht : tryCount ≤ tryCountMax)
    (hb : buffer = r.received k) :
    (∀ access ∈ (recvAllDataAccesses r limit tryCountMax tryCount buffer k).1, access.InBounds) ↔
      r.LoopFits limit k (tryCountMax - tryCount) := by
  fun_induction recvAllDataAccesses r limit tryCountMax tryCount buffer k with
  | case1 tryCount buffer k hlt hk =>
      -- the exception: nothing is taken
      refine iff_of_true (by simp) fun j hj => ?_
      have := hj.isSome k (Nat.le_refl k) hj.le
      rw [hk] at this
      cases this
  | case2 tryCount buffer k hlt tmp hk hover =>
      subst hb
      refine iff_of_false ?_ fun hfits => ?_
      · rw [copied_inBounds_iff (by omega)]
        omega
      · have := hfits k (Receives.takes_self hk hlt)
        rw [r.total_succ hk] at this
        exact Nat.not_le_of_lt hover this
  | case3 tryCount buffer k hlt tmp hk hfit hlast =>
      subst hb
      refine iff_of_true ((copied_inBounds_iff (by omega)).mpr (by omega)) fun j hj => ?_
      have := hj.le
      have := hj.le_add
      obtain rfl : j = k := by omega
      rw [r.total_succ hk]
      exact Nat.not_lt.mp hfit
  | case4 tryCount buffer k hlt tmp hk hfit hmore rest ih =>
      subst hb
      rw [show tryCountMax - tryCount = tryCountMax - (tryCount + 1) + 1 by omega,
        Receives.loopFits_succ_iff hk hlt, ← ih (by omega) (r.received_succ hk).symm,
        r.total_succ hk, List.forall_mem_append, copied_inBounds_iff (by omega)]
      rfl
  | case5 tryCount buffer k hge =>
      subst hb
      exact iff_of_true (by simp) fun j hj =>
        absurd (Nat.lt_of_le_of_lt (r.total_mono hj.le) hj.lt) hge

/-- A loop that ends well has what it was to wait for. -/
theorem le_length_of_filled {b : Bytes} {a : ℕ}
    (h : (recvAllDataAccesses r limit tryCountMax tryCount buffer k).2 = .filled b a) :
    limit ≤ b.length := by
  fun_induction recvAllDataAccesses r limit tryCountMax tryCount buffer k with
  | case1 => cases h
  | case2 => cases h
  | case3 => cases h
  | case4 _ _ _ _ _ _ _ _ _ ih => exact ih h
  | case5 _ _ _ hge =>
      obtain ⟨rfl, rfl⟩ := Ending.filled.inj h
      exact Nat.not_lt.mp hge

/-- A loop leaves the buffer only by overrunning it. -/
theorem recvAllDataAccesses_inBounds_iff_ne (hmax : limit ≤ 65535) :
    (∀ access ∈ (recvAllDataAccesses r limit tryCountMax tryCount buffer k).1, access.InBounds) ↔
      (recvAllDataAccesses r limit tryCountMax tryCount buffer k).2 ≠ .overran := by
  fun_induction recvAllDataAccesses r limit tryCountMax tryCount buffer k with
  | case1 => simp
  | case2 =>
      rw [copied_inBounds_iff (by omega)]
      exact iff_of_false (by omega) (fun h => h rfl)
  | case3 =>
      rw [copied_inBounds_iff (by omega)]
      exact iff_of_true (by omega) (fun h => by cases h)
  | case4 _ _ _ _ _ _ _ _ _ ih =>
      rw [List.forall_mem_append, copied_inBounds_iff (by omega), ← ih]
      exact and_iff_right (by omega)
  | case5 => simp

/-- **Where a loop that fits ends.** -/
theorem recvAllDataAccesses_filled_iff (ht : tryCount ≤ tryCountMax) (hb : buffer = r.received k)
    (hfits : r.LoopFits limit k (tryCountMax - tryCount)) {b : Bytes} {a : ℕ} :
    (recvAllDataAccesses r limit tryCountMax tryCount buffer k).2 = .filled b a ↔
      r.Fills limit k (tryCountMax - tryCount) a ∧ b = r.received a := by
  fun_induction recvAllDataAccesses r limit tryCountMax tryCount buffer k with
  | case1 tryCount buffer k hlt hk =>
      subst hb
      refine iff_of_false (by simp) fun ⟨h, _⟩ => ?_
      rcases Nat.eq_or_lt_of_le h.le with rfl | hka
      · exact Nat.not_le_of_lt hlt h.limit_le
      · have := h.isSome k (Nat.le_refl k) hka
        rw [hk] at this
        cases this
  | case2 tryCount buffer k hlt tmp hk hover =>
      subst hb
      have := hfits k (Receives.takes_self hk hlt)
      rw [r.total_succ hk] at this
      exact absurd hover (Nat.not_lt.mpr this)
  | case3 tryCount buffer k hlt tmp hk hfit hlast =>
      subst hb
      refine iff_of_false (by simp) fun ⟨h, _⟩ => ?_
      have := h.le
      have := h.le_add
      obtain rfl : a = k := by omega
      exact Nat.not_le_of_lt hlt h.limit_le
  | case4 tryCount buffer k hlt tmp hk hfit hmore rest ih =>
      subst hb
      rw [show tryCountMax - tryCount = tryCountMax - (tryCount + 1) + 1 by omega] at hfits ⊢
      rw [Receives.fills_succ_iff hk hlt]
      exact ih (by omega) (r.received_succ hk).symm ((Receives.loopFits_succ_iff hk hlt).mp hfits).2
  | case5 tryCount buffer k hge =>
      subst hb
      rw [Receives.fills_iff_of_le (Nat.not_lt.mp hge), Ending.filled.injEq]
      constructor
      · rintro ⟨rfl, rfl⟩
        exact ⟨rfl, rfl⟩
      · rintro ⟨rfl, rfl⟩
        exact ⟨rfl, rfl⟩

/-! ## The callback -/

/-- The first result and both loops fit: what has come when a loop takes a result leaves room for
it. -/
def Receives.Fits (r : Receives) : Prop :=
  r.received 1 ≠ [] → r.LoopFits 26 1 100 ∧
    ∀ a, r.Fills 26 1 100 a → ¬ (packetHead (r.received a)).Refused →
      r.LoopFits (26 + (packetHead (r.received a)).msgLength + 4) a 100

/-- An accepted head asks for no more than the buffer holds. -/
theorem limit_le_of_not_refused {packetHead : PacketHeader} (h : ¬ packetHead.Refused) :
    26 + packetHead.msgLength + 4 ≤ 65535 := by
  simp only [PacketHeader.Refused, not_or] at h
  omega

/-- **Short results fit**: 65029 bytes may be there when the last of them comes. -/
theorem fits_of_length_le (h : ∀ k, ∀ tmp ∈ r.result k, tmp.length ≤ 506) : r.Fits := by
  have hfits : ∀ {limit k n : ℕ}, limit ≤ 65030 → r.LoopFits limit k n := by
    intro limit k n hlimit j hj
    obtain ⟨tmp, htmp⟩ := Option.isSome_iff_exists.mp (hj.isSome j hj.le (Nat.le_refl j))
    have := h j tmp htmp
    have := hj.lt
    rw [r.total_succ htmp]
    omega
  refine fun _ => ⟨hfits (by decide), fun a _ hok => hfits ?_⟩
  simp only [PacketHeader.Refused, not_or] at hok
  omega

theorem headReads_inBounds {recvLen : ℕ} (h : 26 ≤ recvLen) :
    ∀ access ∈ headReads recvLen, access.InBounds := by
  simp only [headReads, List.forall_mem_map, Access.InBounds]
  intro field hfield
  have : field.1 + field.2 ≤ 26 := by
    revert field
    decide
  exact Nat.le_trans this h

theorem packetReads_inBounds {msgLength : ℕ} (h : 26 + msgLength + 4 ≤ buffer.length) :
    ∀ access ∈ packetReads buffer msgLength, access.InBounds := by
  rw [packetReads, List.forall_mem_append]
  constructor
  · simp only [List.forall_mem_cons, Access.InBounds, List.not_mem_nil, false_imp_iff, implies_true,
      and_true]
    omega
  · split
    · simp
    · rw [List.forall_mem_singleton, Access.InBounds]
      omega

/-- What is read after the second loop has been received: the loop decides. -/
theorem bodyAccesses_inBounds_iff {msgLength : ℕ} :
    (∀ access ∈ bodyAccesses r msgLength buffer k, access.InBounds) ↔
      ∀ access ∈ (recvAllDataAccesses r (26 + msgLength + 4) 100 0 buffer k).1,
        access.InBounds := by
  rw [bodyAccesses, List.forall_mem_append, and_iff_left_iff_imp]
  intro _
  split
  · next hend => exact packetReads_inBounds (le_length_of_filled hend)
  · simp
  · simp

end

/-- **The callback stays in its buffer exactly when what comes fits.**  The loops do not see to it:
`limit` bounds what is there before a read, not what the read adds. -/
theorem accesses_inBounds_iff (r : Receives) :
    (∀ access ∈ accesses r, access.InBounds) ↔ r.Fits := by
  rw [accesses, Receives.Fits]
  split
  · next h0 => simp [Receives.received, h0]
  next buffer h0 =>
  have hrecv : r.received 1 = buffer := (r.received_succ h0).trans (List.nil_append _)
  have hwrite : (Access.write 0 buffer.length).InBounds := by
    have := r.first_le buffer h0
    rw [Access.InBounds]
    omega
  rw [List.forall_mem_cons, and_iff_right hwrite, hrecv]
  split
  · next hnil =>
      simp [List.length_eq_zero_iff.mp (Nat.le_zero.mp hnil)]
  next hpos =>
  rw [imp_iff_right (fun hnil => hpos (by rw [hnil]; exact Nat.le_refl 0))]
  have hloop := recvAllDataAccesses_inBounds_iff (show 26 ≤ 65535 by decide) (Nat.zero_le 100)
    hrecv.symm
  rw [List.forall_mem_append, hloop]
  refine and_congr_right fun hfits => ?_
  have hfilled := fun a (hfills : r.Fills 26 1 100 a) =>
    (recvAllDataAccesses_filled_iff (Nat.zero_le 100) hrecv.symm hfits).mpr ⟨hfills, rfl⟩
  split
  · next b a hend =>
      obtain ⟨hfills, rfl⟩ := (recvAllDataAccesses_filled_iff (Nat.zero_le 100) hrecv.symm hfits).mp
        hend
      -- the loop ends at one place only
      have hunique : ∀ a', r.Fills 26 1 100 a' → a' = a := fun a' h =>
        (Ending.filled.inj ((hfilled a' h).symm.trans hend)).2
      rw [List.forall_mem_append, and_iff_right (headReads_inBounds (le_length_of_filled hend))]
      split
      · next hrefused =>
          refine iff_of_true (by simp) fun a' h hok => ?_
          obtain rfl := hunique a' h
          exact absurd hrefused hok
      · next hok =>
          rw [bodyAccesses_inBounds_iff, recvAllDataAccesses_inBounds_iff
            (limit_le_of_not_refused hok)
            (Nat.zero_le 100) rfl]
          constructor
          · intro h a' ha' _
            obtain rfl := hunique a' ha'
            exact h
          · exact fun h => h a hfills hok
  · next hend =>
      exact iff_of_true (by simp) fun a h => by cases (hfilled a h).symm.trans hend
  · next hend =>
      exact iff_of_true (by simp) fun a h => by cases (hfilled a h).symm.trans hend

/-- One byte of the head is late, and a full read comes with it. -/
def lateByte : Receives where
  result
    | 0 => some (List.replicate 25 0)
    | 1 => some (List.replicate 65535 0)
    | _ => none
  first_le tmp h := by
    obtain rfl := Option.some.inj h
    decide
  le k tmp h := by
    rcases k with - | - | k
    · obtain rfl := Option.some.inj h
      decide
    · obtain rfl := Option.some.inj h
      exact Nat.le_of_eq List.length_replicate
    · cases h

/-- A head that comes in two parts, the second of them too long. -/
theorem write_mem_accesses {r : Receives} {buffer tmp : Bytes} (h0 : r.result 0 = some buffer)
    (h1 : r.result 1 = some tmp) (hpos : 0 < buffer.length) (hlt : buffer.length < 26)
    (hover : 65535 < buffer.length + tmp.length) :
    Access.write buffer.length tmp.length ∈ accesses r := by
  have hcopied : Access.write buffer.length tmp.length ∈ copied buffer tmp := by
    rw [copied, if_neg (by omega)]
    exact List.mem_singleton_self _
  simp only [accesses, h0]
  rw [if_neg (by omega), recvAllDataAccesses_of_lt h1 hlt hover]
  exact List.mem_cons_of_mem _ (List.mem_append_left _ hcopied)

/-- **The buffer is overrun**: 25 bytes are there, 26 are wanted, 65535 come. -/
theorem not_accesses_inBounds : ¬ ∀ r : Receives, ∀ access ∈ accesses r, access.InBounds := by
  intro h
  have h25 : (List.replicate 25 (0 : UInt8)).length = 25 := List.length_replicate
  have h65535 : (List.replicate 65535 (0 : UInt8)).length = 65535 := List.length_replicate
  have hmem := write_mem_accesses (r := lateByte) rfl rfl (by omega) (by omega) (by omega)
  rw [h25, h65535] at hmem
  exact absurd (h lateByte _ hmem) (by decide)

/-! ## The sockets of `onSocketReadable` -/

/-- What is left in the socket after `k` calls of `receiveBytes`. -/
def left (socket : List Bytes) : ℕ → List Bytes
  | 0 => socket
  | 1 => (receive 26 socket).2
  | k + 2 => (receive 65535 (left socket (k + 1))).2

/-- What a socket has the calls return. -/
def Receives.ofSocket (socket : List Bytes) : Receives where
  result
    | 0 => some (receive 26 socket).1
    | k + 1 => some (receive 65535 (left socket (k + 1))).1
  first_le tmp h := by
    obtain rfl := Option.some.inj h
    exact receive_length_le socket
  le k tmp h := by
    rcases k with - | k
    · obtain rfl := Option.some.inj h
      exact Nat.le_trans (receive_length_le socket) (by decide)
    · obtain rfl := Option.some.inj h
      exact receive_length_le _

/-- What `recvAllData` answers at an ending. -/
def Ending.Answers (socket : List Bytes) : Ending → Option (Bool × Bytes × List Bytes) → Prop
  | filled buffer k, answer => 1 ≤ k ∧ answer = some (true, buffer, left socket k)
  | gaveUp, answer => ∃ buffer rest, answer = some (false, buffer, rest)
  | overran, answer => answer = none

theorem Ending.Answers.eq_none_iff {socket : List Bytes}
    {answer : Option (Bool × Bytes × List Bytes)} :
    ∀ {ending : Ending}, ending.Answers socket answer → (answer = none ↔ ending = .overran)
  | .filled _ _, ⟨_, h⟩ => by simp [h]
  | .gaveUp, ⟨_, _, h⟩ => by simp [h]
  | .overran, h => iff_of_true h rfl

section

variable {socket : List Bytes} {limit tryCountMax tryCount k : ℕ} {buffer : Bytes}

theorem result_ofSocket (hk : 1 ≤ k) :
    (Receives.ofSocket socket).result k = some (receive 65535 (left socket k)).1 := by
  obtain ⟨k, rfl⟩ := Nat.exists_eq_add_of_le' hk
  rfl

theorem left_succ (hk : 1 ≤ k) : left socket (k + 1) = (receive 65535 (left socket k)).2 := by
  obtain ⟨k, rfl⟩ := Nat.exists_eq_add_of_le' hk
  rfl

/-- **The accesses are those of `recvAllData`.** -/
theorem recvAllDataAccesses_answers (hk : 1 ≤ k) :
    (recvAllDataAccesses (.ofSocket socket) limit tryCountMax tryCount buffer k).2.Answers socket
      (recvAllData limit tryCountMax tryCount buffer (left socket k)) := by
  fun_induction recvAllDataAccesses (.ofSocket socket) limit tryCountMax tryCount buffer k with
  | case1 tryCount buffer k hlt hnone =>
      rw [result_ofSocket hk] at hnone
      cases hnone
  | case2 tryCount buffer k hlt tmp htmp hover =>
      obtain rfl := Option.some.inj ((result_ofSocket hk).symm.trans htmp)
      rw [recvAllData, if_pos hlt]
      exact if_pos hover
  | case3 tryCount buffer k hlt tmp htmp hfit hlast =>
      obtain rfl := Option.some.inj ((result_ofSocket hk).symm.trans htmp)
      rw [recvAllData, if_pos hlt]
      exact ⟨_, _, (if_neg hfit).trans (if_pos hlast)⟩
  | case4 tryCount buffer k hlt tmp htmp hfit hmore rest ih =>
      obtain rfl := Option.some.inj ((result_ofSocket hk).symm.trans htmp)
      have hrecv := ih (Nat.le_succ_of_le hk)
      rw [left_succ hk] at hrecv
      rw [recvAllData, if_pos hlt]
      simp only [if_neg hfit, if_neg hmore]
      exact hrecv
  | case5 tryCount buffer k hge =>
      rw [recvAllData, if_neg hge]
      exact ⟨hk, rfl⟩

/-- `recvAllData` has no answer exactly when it leaves the buffer. -/
theorem recvAllData_eq_none_iff (hk : 1 ≤ k) (hmax : limit ≤ 65535) :
    recvAllData limit tryCountMax tryCount buffer (left socket k) = none ↔
      ¬ ∀ access ∈ (recvAllDataAccesses (.ofSocket socket) limit tryCountMax tryCount buffer k).1,
        access.InBounds := by
  rw [recvAllDataAccesses_inBounds_iff_ne hmax, not_not]
  exact (recvAllDataAccesses_answers hk).eq_none_iff

/-- **`onSocketReadable` has no answer exactly when an access is out of bounds.** -/
theorem onSocketReadable_eq_none_iff (parse : Bytes → Bool) :
    onSocketReadable parse socket = none ↔
      ¬ ∀ access ∈ accesses (.ofSocket socket), access.InBounds := by
  have hwrite : (Access.write 0 (receive 26 socket).1.length).InBounds := by
    have := receive_length_le (n := 26) socket
    rw [Access.InBounds]
    omega
  have h0 : (Receives.ofSocket socket).result 0 = some (receive 26 socket).1 := rfl
  have hfirst : (recvAllDataAccesses (.ofSocket socket) 26 100 0 (receive 26 socket).1 1).2.Answers
      socket (recvAllData 26 100 0 (receive 26 socket).1 (receive 26 socket).2) :=
    recvAllDataAccesses_answers (Nat.le_refl 1)
  have hnone : recvAllData 26 100 0 (receive 26 socket).1 (receive 26 socket).2 = none ↔ _ :=
    recvAllData_eq_none_iff (Nat.le_refl 1) (by decide)
  rw [accesses, onSocketReadable]
  simp only [h0, List.forall_mem_cons, hwrite, true_and]
  split
  · simp
  rw [List.forall_mem_append, not_and_or, ← hnone]
  cases hend : (recvAllDataAccesses (.ofSocket socket) 26 100 0 (receive 26 socket).1 1).2 with
  | filled b k =>
      rw [hend] at hfirst
      obtain ⟨hk, hfirst⟩ := hfirst
      rw [hfirst]
      have hhead := headReads_inBounds (le_length_of_filled hend)
      by_cases hok : (packetHead b).Refused
      · simpa [hok] using hhead
      · simp only [reduceCtorEq, false_or, if_neg hok, List.forall_mem_append]
        rw [and_iff_right hhead, bodyAccesses_inBounds_iff,
          ← recvAllData_eq_none_iff hk (limit_le_of_not_refused hok)]
        rcases recvAllData _ _ _ _ _ with - | ⟨- | -, _, _⟩ <;> simp
  | gaveUp =>
      rw [hend] at hfirst
      obtain ⟨b, rest, hfirst⟩ := hfirst
      simp [hfirst]
  | overran =>
      rw [hend] at hfirst
      simp [show recvAllData _ _ _ _ _ = _ from hfirst]

end

end UserTcpServer

end Sadip
