import Sadip.FileTopic.Names
import Sadip.FileTopic.Receive
import Sadip.NodeCmdTopic.Reply

/-!
# Split/Replacing — replacing in strings, `utils/split.h`

`subreplace` begins its search again at the start of the string after each replacement, so that it
also finds what a replacement has made.  Nothing keeps it from going on forever, but for what it is
called with.
-/

namespace Sadip

namespace Split

variable {α : Type*} [DecidableEq α]

/-- The loop of `subreplace`, for so many rounds at most: nothing when it needs more. -/
def subreplace (sub_str new_str : List α) : ℕ → List α → Option (List α)
  | 0, _ => none
  | rounds + 1, dst_str =>
      if sub_str <:+: dst_str then
        subreplace sub_str new_str rounds (Replace.replaceFirst sub_str new_str dst_str)
      else some dst_str

/-- The shapes of the calls: a shorter string in place of another, or a letter in place of another
letter. -/
def Shape (sub_str new_str : List α) : Prop :=
  new_str.length < sub_str.length ∨ ∃ a b : α, b ≠ a ∧ sub_str = [a] ∧ new_str = [b]

variable {sub_str new_str dst_str : List α}

/-- With nothing to replace, the loop ends. -/
theorem subreplace_of_absent (h : ¬ sub_str <:+: dst_str) {rounds : ℕ} (hr : 0 < rounds) :
    subreplace sub_str new_str rounds dst_str = some dst_str := by
  obtain ⟨rounds, rfl⟩ := Nat.exists_eq_add_one_of_ne_zero hr.ne'
  rw [subreplace, if_neg h]

/-- **A measure that every replacement takes down** ends the loop, with what as many replacements
make. -/
theorem subreplace_of_measure (μ : List α → ℕ) (hμ : ∀ before after,
      μ (before ++ new_str ++ after) < μ (before ++ sub_str ++ after)) :
    ∀ (rounds n : ℕ) (dst_str : List α), μ dst_str < rounds → μ dst_str ≤ n →
      subreplace sub_str new_str rounds dst_str
        = some ((Replace.replaceFirst sub_str new_str)^[n] dst_str)
  | rounds + 1, n, dst_str, hr, hn => by
      rcases Replace.replaceFirst_cases sub_str new_str dst_str with
        ⟨before, after, rfl, hrep⟩ | ⟨hnot, hrep⟩
      · have hlt := hμ before after
        obtain ⟨n, rfl⟩ := Nat.exists_eq_add_one_of_ne_zero (by omega : n ≠ 0)
        rw [subreplace, if_pos ⟨before, after, rfl⟩, Function.iterate_succ_apply, hrep]
        exact subreplace_of_measure μ hμ rounds n _ (by omega) (by omega)
      · rw [subreplace_of_absent hnot (Nat.succ_pos rounds), Function.iterate_fixed hrep]

/-- **Each shape has its measure**, which the length bounds. -/
theorem Shape.exists_measure (h : Shape sub_str new_str) : ∃ μ : List α → ℕ,
    (∀ before after, μ (before ++ new_str ++ after) < μ (before ++ sub_str ++ after)) ∧
      ∀ dst_str, μ dst_str ≤ dst_str.length := by
  rcases h with hlen | ⟨a, b, hne, rfl, rfl⟩
  · exact ⟨List.length, Replace.length_replacement_lt hlen, fun _ => le_rfl⟩
  · exact ⟨List.count a, Replace.count_replacement_lt hne, fun _ => List.count_le_length⟩

/-- **The result of a call**, which is that of as many replacements as the string is long. -/
theorem Shape.subreplace_eq (h : Shape sub_str new_str) {rounds : ℕ}
    (hr : dst_str.length < rounds) : subreplace sub_str new_str rounds dst_str
      = some ((Replace.replaceFirst sub_str new_str)^[dst_str.length] dst_str) := by
  obtain ⟨μ, hμ, hle⟩ := h.exists_measure
  exact subreplace_of_measure μ hμ rounds _ dst_str ((hle dst_str).trans_lt hr) (hle dst_str)

/-- Nothing is left to replace. -/
theorem Shape.absent (h : Shape sub_str new_str) (dst_str : List α) :
    ¬ sub_str <:+: (Replace.replaceFirst sub_str new_str)^[dst_str.length] dst_str := by
  obtain ⟨μ, hμ, hle⟩ := h.exists_measure
  exact Replace.not_infix_iterate_of_measure μ hμ _ dst_str (hle dst_str)

/-- Nor does the string become longer. -/
theorem Shape.length_le (h : Shape sub_str new_str) (n : ℕ) (dst_str : List α) :
    ((Replace.replaceFirst sub_str new_str)^[n] dst_str).length ≤ dst_str.length := by
  have hle : new_str.length ≤ sub_str.length := by
    rcases h with hlen | ⟨a, b, -, rfl, rfl⟩
    · exact hlen.le
    · exact le_rfl
  refine Replace.iterate_replaceFirst_induction
    (P := fun as => as.length ≤ dst_str.length) (fun before after has => ?_) n dst_str le_rfl
  simp only [List.length_append] at has ⊢
  omega

/-- A replacement that has the pattern in it is looked through again, forever. -/
theorem subreplace_forever (h : sub_str <:+: new_str) : ∀ {rounds : ℕ} {dst_str : List α},
    sub_str <:+: dst_str → subreplace sub_str new_str rounds dst_str = none
  | 0, _, _ => rfl
  | rounds + 1, dst_str, hin => by
      rw [subreplace, if_pos hin]
      refine subreplace_forever h ?_
      rcases Replace.replaceFirst_cases sub_str new_str dst_str with
        ⟨before, after, -, hrep⟩ | ⟨hnot, -⟩
      · rw [hrep]
        exact h.trans (List.infix_append before new_str after)
      · exact absurd hin hnot

/-! ## The calls -/

/-- What `send_file` and `sendOneFile`, `handle_reply`, and `uploadToS3` replace, and by what. -/
def calls : List (String × String) := [("./", ""), ("\\", "/"), ("//", "/"), ("/./", "/")]

theorem shape_of_mem_calls : ∀ call ∈ calls, Shape call.1.toList call.2.toList := by
  intro call hcall
  simp only [calls, List.mem_cons, List.not_mem_nil, or_false] at hcall
  rcases hcall with rfl | rfl | rfl | rfl
  · exact .inl (by decide)
  · exact .inr ⟨'\\', '/', by decide, rfl, rfl⟩
  · exact .inl (by decide)
  · exact .inl (by decide)

/-- **Each call ends**, with a string that has nothing left to replace: doing it again changes
nothing, and one letter in place of another is that letter in all places. -/
theorem subreplace_terminates :
    (∀ call ∈ calls, Shape call.1.toList call.2.toList) ∧
    ∀ (α : Type) [DecidableEq α] (sub_str new_str : List α), Shape sub_str new_str →
      ∀ resource_str : List α, ∃ dst_str,
        (∀ rounds, resource_str.length < rounds →
          subreplace sub_str new_str rounds resource_str = some dst_str) ∧
        ¬ sub_str <:+: dst_str ∧
        (∀ rounds, 0 < rounds → subreplace sub_str new_str rounds dst_str = some dst_str) ∧
        ∀ a b, sub_str = [a] → new_str = [b] →
          dst_str = resource_str.map fun c => if c = a then b else c := by
  refine ⟨shape_of_mem_calls, fun α _ sub_str new_str h resource_str => ?_⟩
  refine ⟨_, fun rounds => h.subreplace_eq, h.absent resource_str,
    fun rounds => subreplace_of_absent (h.absent resource_str), ?_⟩
  rintro a b rfl rfl
  rcases h with hlen | ⟨a, b, hne, ha, hb⟩
  · exact absurd hlen (Nat.lt_irrefl 1)
  · obtain rfl := List.singleton_inj.mp ha
    obtain rfl := List.singleton_inj.mp hb
    exact Replace.iterate_replaceFirst_letter hne _ _ List.count_le_length

/-- Two dots before two slashes, where one replacement makes what the next one finds; and a path
with backslashes. -/
theorem subreplace_terminates_paths :
    (∃ dst_str, subreplace "./".toList [] 5 "..//".toList = some dst_str ∧
      ¬ "./".toList <:+: dst_str) ∧
    subreplace ['\\'] ['/'] 6 "a\\b\\c".toList = some "a/b/c".toList := by
  obtain ⟨hcalls, hends⟩ := subreplace_terminates
  obtain ⟨dst_str, hdots, hnot, -⟩ := hends Char "./".toList "".toList
    (hcalls ("./", "") (by decide)) "..//".toList
  obtain ⟨slashed, hslashes, -, -, hmap⟩ := hends Char ['\\'] ['/']
    (hcalls ("\\", "/") (by decide)) "a\\b\\c".toList
  refine ⟨⟨dst_str, hdots 5 (by decide), hnot⟩, ?_⟩
  rw [hslashes 6 (by decide), hmap _ _ rfl rfl]
  decide

/-- The name that `send_file` works with. -/
theorem subreplace_dot (fileName : String) {rounds : ℕ} (hr : fileName.toList.length < rounds) :
    subreplace "./".toList "".toList rounds fileName.toList
      = some (FileTopic.subreplaceDot fileName).toList :=
  ((shape_of_mem_calls ("./", "") (by decide)).subreplace_eq hr).trans
    (congrArg some String.toList_ofList.symm)

/-- The name that `handle_reply` passes on. -/
theorem subreplace_backslash (pathName : Json.Text) {rounds : ℕ} (hr : pathName.length < rounds) :
    subreplace ['\\'.toUInt8] ['/'.toUInt8] rounds pathName
      = some (NodeCmdTopic.HandleReply.subreplaceBackslash pathName) :=
  Shape.subreplace_eq (.inr ⟨'\\'.toUInt8, '/'.toUInt8, by decide, rfl, rfl⟩) hr

/-! ## The key of an upload, `utils/aws/s3/FileWatcher.h` -/

/-- `s3Key` of `uploadToS3`. -/
def s3Key (rounds : ℕ) (m_nodeid file : List Char) : Option (List Char) :=
  (subreplace ['/', '/'] ['/'] rounds (m_nodeid ++ file)).bind
    (subreplace ['/', '.', '/'] ['/'] rounds)

/-- **A key is made, and its slashes stand alone**: no two together, and no dot alone between
two. -/
theorem exists_s3Key (m_nodeid file : List Char) : ∃ key,
    (∀ rounds, (m_nodeid ++ file).length < rounds → s3Key rounds m_nodeid file = some key) ∧
    ¬ ['/', '/'] <:+: key ∧ ¬ ['/', '.', '/'] <:+: key := by
  have hslashes : Shape ['/', '/'] ['/'] := .inl (by decide)
  have hdots : Shape ['/', '.', '/'] ['/'] := .inl (by decide)
  -- the second call makes no two slashes again
  have hkept := Replace.iterate_replaceFirst_induction (P := fun as => ¬ ['/', '/'] <:+: as)
    (fun before after => Replace.not_infix_pair_of_between ['.'])
  refine ⟨_, fun rounds hr => ?_, hkept _ _ (hslashes.absent (m_nodeid ++ file)),
    hdots.absent _⟩
  rw [s3Key, hslashes.subreplace_eq hr, Option.bind_some]
  exact hdots.subreplace_eq ((hslashes.length_le _ _).trans_lt hr)

end Split

end Sadip
