import Sadip.ProcessManager

/-!
# ProcessManager/Kill — `kill_process` as a filter of the table, `node/src/ProcessManager.cpp`

What a kill is for: the entries of its uuid are gone, each after one `terminate` of its child, and
the others stand as they stood (`Filters`).  `kill_all_process` and `remove_process` go on from what
`erase` returns; the range-for of `kill_process` goes on with iterators that `erase` has
invalidated, so that it is a filter only where it has nothing to erase: `filters_iff`.
-/

namespace Sadip

namespace ProcessManager

open Imperative Imperative.Prog

/-- The uuid of a `terminate`. -/
def Call.terminated? : Call → Option String
  | .terminate uuid => some uuid
  | _ => none

/-- The uuids whose children have been told to terminate, in the order of the calls. -/
def terminated (s : State) : List String := s.calls.filterMap Call.terminated?

/-- No call on a child that a kill of this uuid makes throws. -/
def Undisturbed (uuid : String) (s : State) : Prop :=
  ∀ p, s.instances.find? (·.uuid = uuid) = some p → ¬ CutShort p s.answers

/-- The entries of the uuid are gone, each was told to terminate once, and no other entry was
touched. -/
structure Filters (uuid : String) (s s' : State) : Prop where
  instances : s'.instances = s.instances.filter (·.uuid ≠ uuid)
  terminated : terminated s' = terminated s ++ (registered s).filter (· = uuid)

variable {s : State} {uuid : String}

/-- A system that never throws disturbs no kill. -/
theorem undisturbed_of_forall (h : ∀ a ∈ s.answers, a.event ≠ .throws) (uuid : String) :
    Undisturbed uuid s := by
  intro p _ hcut
  obtain ⟨a, ha, hthrows⟩ := exists_throws hcut.2
  exact h a ha hthrows

/-- A kill that finds nothing is a filter. -/
theorem filters_absent (h : uuid ∉ registered s) : Filters uuid s s := by
  refine ⟨(List.filter_eq_self.mpr fun q hq => ?_).symm, ?_⟩
  · simpa using fun he : q.uuid = uuid => h (he ▸ List.mem_map_of_mem hq)
  · rw [List.filter_eq_nil_iff.mpr, List.append_nil]
    exact fun u hu => by simpa using fun he : u = uuid => h (he ▸ hu)

/-- **When a kill is a filter.**  If no call on the child throws, `kill_process` uses only entries
that are in the table, terminates each process of the uuid once and leaves the rest alone exactly
when the uuid is not registered: what it erases, it erases under its own loop. -/
theorem filters_iff (h : Undisturbed uuid s) :
    (∃ s', killProcess uuid s = .done true s' ∧ Filters uuid s s') ↔ uuid ∉ registered s := by
  rcases hfind : s.instances.find? (·.uuid = uuid) with - | p
  · have hnot := find?_eq_none_iff.mp hfind
    exact iff_of_true ⟨s, killProcess_absent hnot, filters_absent hnot⟩ hnot
  · refine iff_of_false ?_ fun hnot => ?_
    · rintro ⟨s', hs', -⟩
      rw [killProcess_through hfind (h p hfind)] at hs'
      cases hs'
    · rw [find?_eq_none_iff.mpr hnot] at hfind
      cases hfind

/-- Two applications with live children that end when told to. -/
def twoRunning : State where
  instances := [
    { launchCmd := "a ", uuid := "./ a", workPath := "./", env := [], child := .alive 101 },
    { launchCmd := "b ", uuid := "./ b", workPath := "./", env := [], child := .alive 102 }]
  environment := []
  answers := [{ event := .exits }]
  calls := []

theorem undisturbed_twoRunning (uuid : String) : Undisturbed uuid twoRunning :=
  undisturbed_of_forall (by decide) uuid

/-- An application that is not among them can be killed… -/
theorem filters_third : ∃ s', killProcess "./ c" twoRunning = .done true s' ∧
    Filters "./ c" twoRunning s' :=
  (filters_iff (undisturbed_twoRunning _)).mpr (by decide)

/-- …**and the kill of the last, as of any other, is undefined.** -/
theorem not_filters_last : ¬ ∀ (s : State) (uuid : String), Undisturbed uuid s →
    ∃ s', killProcess uuid s = .done true s' ∧ Filters uuid s s' := by
  intro h
  obtain ⟨s', hrun, -⟩ := h twoRunning "./ b" (undisturbed_twoRunning _)
  have hundefined : killProcess "./ b" twoRunning = .undefined := by rfl
  rw [hundefined] at hrun
  cases hrun

end ProcessManager

end Sadip
