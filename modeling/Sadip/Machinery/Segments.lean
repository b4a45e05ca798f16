import Mathlib.Data.List.Basic

/-!
# Machinery/Segments — a stream that arrives in segments

What a peer has sent is a list of segments, none of them empty.  One read takes what is left of the
first segment, up to the size it asks for; it never joins two segments.  `reads` counts the segments
it takes until so much has been read, and the reader stops at the end of the last of them: the
stream comes back as sent (`receive_append`) but the reader's place in it need not be the place it
was waiting for.
-/

namespace Segments

variable {α : Type*} {n limit got : ℕ} {s : List α} {segs tail : List (List α)}

/-- No segment is empty. -/
def Proper (segs : List (List α)) : Prop := ∀ s ∈ segs, s ≠ []

theorem Proper.of_cons (h : Proper (s :: segs)) : Proper segs :=
  fun t ht => h t (List.mem_cons_of_mem s ht)

theorem Proper.drop (h : Proper segs) (k : ℕ) : Proper (segs.drop k) :=
  fun t ht => h t (List.mem_of_mem_drop ht)

theorem Proper.of_append_right (h : Proper (segs ++ tail)) : Proper tail :=
  fun t ht => h t (List.mem_append_right segs ht)

theorem Proper.of_append_left (h : Proper (segs ++ tail)) : Proper segs :=
  fun t ht => h t (List.mem_append_left tail ht)

theorem Proper.eq_nil_of_flatten (h : Proper segs) (hnil : segs.flatten = []) : segs = [] := by
  rcases segs with - | ⟨s, segs⟩
  · rfl
  · exact absurd (List.append_eq_nil_iff.mp hnil).1 (h s List.mem_cons_self)

/-! ## One read -/

/-- What a read of at most `n` elements returns, and what it leaves.  Nothing is returned when the
segments are used up. -/
def receive (n : ℕ) : List (List α) → List α × List (List α)
  | [] => ([], [])
  | s :: segs => if s.length ≤ n then (s, segs) else (s.take n, s.drop n :: segs)

theorem receive_cons_of_le (h : s.length ≤ n) : receive n (s :: segs) = (s, segs) := if_pos h

theorem receive_cons_of_lt (h : n < s.length) :
    receive n (s :: segs) = (s.take n, s.drop n :: segs) := if_neg (by omega)

theorem receive_length_le : ∀ segs : List (List α), (receive n segs).1.length ≤ n
  | [] => Nat.zero_le n
  | s :: segs => by
      rcases Nat.lt_or_ge n s.length with h | h
      · rw [receive_cons_of_lt h, List.length_take]
        exact Nat.min_le_left _ _
      · rwa [receive_cons_of_le h]

/-- **A read takes from the front of the stream.** -/
theorem receive_append : ∀ segs : List (List α),
    (receive n segs).1 ++ (receive n segs).2.flatten = segs.flatten
  | [] => rfl
  | s :: segs => by
      rcases Nat.lt_or_ge n s.length with h | h
      · rw [receive_cons_of_lt h, List.flatten_cons, List.flatten_cons, ← List.append_assoc,
          List.take_append_drop]
      · rw [receive_cons_of_le h, List.flatten_cons]

theorem Proper.receive (h : Proper segs) : Proper (receive n segs).2 := by
  rcases segs with - | ⟨s, segs⟩
  · exact h
  rcases Nat.lt_or_ge n s.length with hs | hs
  · rw [receive_cons_of_lt hs]
    intro t ht
    rcases List.mem_cons.mp ht with rfl | ht
    · exact fun hnil => by have := List.drop_eq_nil_iff.mp hnil; omega
    · exact h.of_cons t ht
  · rw [receive_cons_of_le hs]
    exact h.of_cons

theorem receive_ne_nil (hn : 0 < n) (h : Proper segs) (hne : segs ≠ []) :
    (Segments.receive n segs).1 ≠ [] := by
  obtain ⟨s, segs, rfl⟩ := List.exists_cons_of_ne_nil hne
  have hs := h s List.mem_cons_self
  rcases Nat.lt_or_ge n s.length with hlt | hle
  · rw [receive_cons_of_lt hlt]
    exact fun hnil => by rcases List.take_eq_nil_iff.mp hnil with h0 | h0 <;> [omega; exact hs h0]
  · rwa [receive_cons_of_le hle]

theorem length_receive_le :
    (Segments.receive n segs).2.flatten.length ≤ segs.flatten.length := by
  have := congrArg List.length (receive_append (n := n) segs)
  rw [List.length_append] at this
  omega

theorem length_receive_lt (hn : 0 < n) (h : Proper segs) (hne : segs ≠ []) :
    (Segments.receive n segs).2.flatten.length < segs.flatten.length := by
  have := congrArg List.length (receive_append (n := n) segs)
  have := List.length_pos_iff.mpr (receive_ne_nil hn h hne)
  rw [List.length_append] at *
  omega

/-- A read that asks for a first segment's worth does not look at the later ones. -/
theorem receive_append_left (hne : segs ≠ []) (tail : List (List α)) :
    Segments.receive n (segs ++ tail)
      = ((Segments.receive n segs).1, (Segments.receive n segs).2 ++ tail) := by
  obtain ⟨s, segs, rfl⟩ := List.exists_cons_of_ne_nil hne
  rcases Nat.lt_or_ge n s.length with h | h
  · rw [List.cons_append, receive_cons_of_lt h, receive_cons_of_lt h, List.cons_append]
  · rw [List.cons_append, receive_cons_of_le h, receive_cons_of_le h]

/-- A read that leaves some segments of a group, and then others, is a read of the group. -/
theorem exists_group (hne : segs ≠ []) {ys : List (List α)} (hys : ys ≠ [])
    (h : (Segments.receive n segs).2 = ys ++ tail) :
    ∃ group, segs = group ++ tail ∧
      Segments.receive n group = ((Segments.receive n segs).1, ys) := by
  obtain ⟨s, segs, rfl⟩ := List.exists_cons_of_ne_nil hne
  rcases Nat.lt_or_ge n s.length with hlt | hle
  · obtain ⟨y, ys, rfl⟩ := List.exists_cons_of_ne_nil hys
    rw [receive_cons_of_lt hlt, List.cons_append] at h
    obtain ⟨hy, hsegs⟩ := List.cons_eq_cons.mp h
    exact ⟨s :: ys, by rw [hsegs, List.cons_append], by
      rw [receive_cons_of_lt hlt, receive_cons_of_lt hlt, hy]⟩
  · rw [receive_cons_of_le hle] at h
    exact ⟨s :: ys, by rw [List.cons_append, ← h], by
      rw [receive_cons_of_le hle, receive_cons_of_le hle]⟩

/-- A measure that every read of a stream makes smaller, even of an empty segment. -/
def size (segs : List (List α)) : ℕ := segs.length + segs.flatten.length

theorem size_receive_lt (hn : 0 < n) (hne : segs ≠ []) :
    size (Segments.receive n segs).2 < size segs := by
  obtain ⟨s, segs, rfl⟩ := List.exists_cons_of_ne_nil hne
  rcases Nat.lt_or_ge n s.length with h | h
  · rw [receive_cons_of_lt h]
    simp only [size, List.length_cons, List.flatten_cons, List.length_append, List.length_drop]
    omega
  · rw [receive_cons_of_le h]
    simp only [size, List.length_cons, List.flatten_cons, List.length_append]
    omega

theorem size_receive_le : size (Segments.receive n segs).2 ≤ size segs := by
  have hflat : (Segments.receive n segs).2.flatten.length ≤ _ := length_receive_le
  have hcount : (Segments.receive n segs).2.length ≤ segs.length := by
    rcases segs with - | ⟨s, segs⟩
    · exact Nat.le_refl _
    · rw [Segments.receive]
      split <;> simp
  rw [size, size]
  omega

/-! ## Whole segments until so much is there -/

/-- How many whole segments it takes to get from `got` elements to `limit`. -/
def reads (limit : ℕ) : ℕ → List (List α) → ℕ
  | _, [] => 0
  | got, s :: segs => if got < limit then reads limit (got + s.length) segs + 1 else 0

theorem reads_of_le (h : limit ≤ got) (segs : List (List α)) : reads limit got segs = 0 := by
  rcases segs with - | ⟨s, segs⟩
  · rfl
  · exact if_neg (by omega)

theorem reads_cons_of_lt (h : got < limit) :
    reads limit got (s :: segs) = reads limit (got + s.length) segs + 1 := if_pos h

/-- The reader does not look past the segments that hold enough. -/
theorem reads_append (tail : List (List α)) : ∀ (segs : List (List α)) (got : ℕ),
    limit ≤ got + segs.flatten.length → reads limit got (segs ++ tail) = reads limit got segs
  | [], got, h => by
      rw [reads_of_le (by simpa using h), reads_of_le (by simpa using h)]
  | s :: segs, got, h => by
      rcases Nat.lt_or_ge got limit with hlt | hle
      · rw [List.cons_append, reads_cons_of_lt hlt, reads_cons_of_lt hlt,
          reads_append tail segs _ (by simpa [Nat.add_assoc] using h)]
      · rw [reads_of_le hle, reads_of_le hle]

theorem reads_le_length (limit : ℕ) : ∀ (segs : List (List α)) (got : ℕ),
    reads limit got segs ≤ segs.length
  | [], _ => Nat.le_refl _
  | s :: segs, got => by
      rcases Nat.lt_or_ge got limit with h | h
      · rw [reads_cons_of_lt h]
        exact Nat.succ_le_succ (reads_le_length limit segs _)
      · rw [reads_of_le h]
        exact Nat.zero_le _

/-- Every segment brings something, so the count is at most what is missing. -/
theorem reads_le (limit got : ℕ) (h : Proper segs) : reads limit got segs ≤ limit - got := by
  induction segs generalizing got with
  | nil => exact Nat.zero_le _
  | cons s segs ih =>
      rcases Nat.lt_or_ge got limit with hlt | hle
      · have hs : 0 < s.length := List.length_pos_iff.mpr (h s List.mem_cons_self)
        have := ih (got + s.length) h.of_cons
        rw [reads_cons_of_lt hlt]
        omega
      · rw [reads_of_le hle]
        exact Nat.zero_le _

/-- Where there is enough, the segments counted hold enough. -/
theorem le_of_reads : ∀ (segs : List (List α)) (got : ℕ), limit ≤ got + segs.flatten.length →
    limit ≤ got + (segs.take (reads limit got segs)).flatten.length
  | [], got, h => by simpa using h
  | s :: segs, got, h => by
      rcases Nat.lt_or_ge got limit with hlt | hle
      · have ih := le_of_reads segs (got + s.length) (by simpa [Nat.add_assoc] using h)
        rw [reads_cons_of_lt hlt, List.take_succ_cons, List.flatten_cons, List.length_append]
        omega
      · omega

/-- **Reading exactly what the segments hold reads all of them.** -/
theorem reads_eq_length (h : Proper segs) :
    reads (got + segs.flatten.length) got segs = segs.length := by
  induction segs generalizing got with
  | nil => rfl
  | cons s segs ih =>
      have hs : 0 < s.length := List.length_pos_iff.mpr (h s List.mem_cons_self)
      rw [List.flatten_cons, List.length_append, reads_cons_of_lt (by omega), ← Nat.add_assoc,
        ih h.of_cons, List.length_cons]

end Segments
