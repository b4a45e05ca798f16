import Sadip.Ini

/-!
# Ini/Meaning — what the calls of the handler are

What the lines of a file are does not depend on the handler (`scan`), nor does what it is called for
(`meaning`).  A handler that never fails gets all of these calls, whether or not lines are bad, and
the result is the number of the first that is (`iniParse_eq`).
-/

namespace Sadip

namespace Ini

open Fgets

/-- A call of the handler. -/
structure Call where
  sectionName : Text
  name : Text
  value : Text
  deriving DecidableEq

/-- Whether a name goes on after a line. -/
def stillNamed (named : Bool) : Line → Bool
  | .heading _ => false
  | .pair name _ => decide (name ≠ [])
  | _ => named

/-- What the lines of a file are. -/
def scan (first named : Bool) : List Text → List Line
  | [] => []
  | l :: ls =>
      classify first named l :: scan false (stillNamed named (classify first named l)) ls

/-- The calls that lines are worth, behind a heading and a name. -/
def meaning (sectionName prevName : Text) : List Line → List Call
  | [] => []
  | .continuation value :: ls => ⟨sectionName, prevName, value⟩ :: meaning sectionName prevName ls
  | .heading name :: ls => meaning (strncpy0 name maxSection) [] ls
  | .pair name value :: ls =>
      ⟨sectionName, name, value⟩ :: meaning sectionName (strncpy0 name maxName) ls
  | _ :: ls => meaning sectionName prevName ls

theorem meaning_blank (sectionName prevName : Text) (ls : List Line) :
    meaning sectionName prevName (.blank :: ls) = meaning sectionName prevName ls := rfl

/-- The number of the first bad line, or nothing. -/
def firstBad (ls : List Line) : ℕ :=
  if .bad ∈ ls then ls.idxOf .bad + 1 else 0

/-- The lines of a file, and what it says. -/
def linesOf (content : Text) : List Line :=
  scan true false (lines '\n'.toUInt8 (maxLine - 1) content)

def callsOf (content : Text) : List Call := meaning [] [] (linesOf content)

section Handlers

variable {σ : Type}

/-- The handler never fails. -/
def Handler.Total (handler : Handler σ) : Prop := ∀ u s n v, (handler u s n v).1 = true

/-- What becomes of the user's data. -/
def feed (handler : Handler σ) (u : σ) (calls : List Call) : σ :=
  calls.foldl (fun u c => (handler u c.sectionName c.name c.value).2) u

variable {handler : Handler σ} {st : State σ}

theorem strncpy0_eq_nil_iff {s : Text} {size : ℕ} (h : 1 < size) :
    strncpy0 s size = [] ↔ s = [] := by
  rw [strncpy0, List.take_eq_nil_iff]
  exact or_iff_right (by omega)

theorem strncpy0_of_short {s : Text} {size : ℕ} (h : s.length < size) : strncpy0 s size = s :=
  List.take_of_length_le (Nat.le_sub_one_of_lt h)

theorem call_of_total (h : handler.Total) (name value : Text) : st.call handler name value =
    { st with user := (handler st.user st.sectionName name value).2 } := by
  rw [State.call]
  exact if_pos (h _ _ _ _)

/-- The loop is a scan, and then an action for each line. -/
theorem foldl_readLine (ls : List Text) (st : State σ) (h : handler.Total) :
    ls.foldl (State.readLine handler) st =
      (scan (decide (st.lineno = 0)) (decide (st.prevName ≠ [])) ls).foldl
        (fun st k => State.act handler { st with lineno := st.lineno + 1 } k) st := by
  induction ls generalizing st with
  | nil => rfl
  | cons l ls ih =>
    rw [List.foldl_cons, ih, scan, List.foldl_cons]
    have hnext : ∀ k : Line, (State.act handler { st with lineno := st.lineno + 1 } k).lineno =
        st.lineno + 1 ∧ decide ((State.act handler { st with lineno := st.lineno + 1 } k).prevName ≠
          []) = stillNamed (decide (st.prevName ≠ [])) k := by
      intro k
      cases k with
      | blank => exact ⟨rfl, rfl⟩
      | continuation value =>
        rw [State.act, call_of_total h]
        exact ⟨rfl, rfl⟩
      | heading name => exact ⟨rfl, rfl⟩
      | pair name value =>
        rw [State.act, call_of_total h]
        refine ⟨rfl, decide_eq_decide.mpr (not_congr ?_)⟩
        exact strncpy0_eq_nil_iff (by decide)
      | bad =>
        rw [State.act, State.fail]
        split <;> exact ⟨rfl, rfl⟩
    obtain ⟨hlineno, hnamed⟩ := hnext (classify (decide (st.lineno = 0))
      (decide (st.prevName ≠ [])) l)
    rw [State.readLine, hlineno, hnamed]
    rfl

theorem firstBad_cons_bad (ls : List Line) : firstBad (.bad :: ls) = 1 := by
  rw [firstBad, if_pos List.mem_cons_self, List.idxOf_cons_self]

theorem firstBad_cons_of_ne {k : Line} (h : k ≠ .bad) (ls : List Line) :
    firstBad (k :: ls) = if firstBad ls = 0 then 0 else firstBad ls + 1 := by
  rw [firstBad, firstBad, List.idxOf_cons_ne _ h]
  by_cases hmem : Line.bad ∈ ls
  · rw [if_pos (List.mem_cons_of_mem _ hmem), if_pos hmem, if_neg (Nat.succ_ne_zero _)]
  · rw [if_neg hmem, if_neg, if_pos rfl]
    exact fun hbad => (List.mem_cons.mp hbad).elim (fun he => h he.symm) hmem

/-- The user's data and the error, after some lines. -/
theorem foldl_act (h : handler.Total) (ks : List Line) (st : State σ) :
    (ks.foldl (fun st k => State.act handler { st with lineno := st.lineno + 1 } k) st).user =
        feed handler st.user (meaning st.sectionName st.prevName ks) ∧
      (ks.foldl (fun st k => State.act handler { st with lineno := st.lineno + 1 } k) st).error =
        if st.error ≠ 0 ∨ firstBad ks = 0 then st.error else st.lineno + firstBad ks := by
  induction ks generalizing st with
  | nil => exact ⟨rfl, (if_pos (.inr rfl)).symm⟩
  | cons k ks ih =>
    rw [List.foldl_cons]
    -- a line that is not bad leaves the error as it is, and is counted
    have hcount : ∀ {st' : State σ}, k ≠ .bad → st'.error = st.error → st'.lineno = st.lineno + 1 →
        (if st'.error ≠ 0 ∨ firstBad ks = 0 then st'.error else st'.lineno + firstBad ks) =
          if st.error ≠ 0 ∨ firstBad (k :: ks) = 0 then st.error
          else st.lineno + firstBad (k :: ks) := by
      intro st' hk herror hlineno
      rw [herror, hlineno, firstBad_cons_of_ne hk]
      by_cases hbad : firstBad ks = 0
      · rw [if_pos hbad, if_pos (.inr hbad), if_pos (.inr rfl)]
      · rw [if_neg hbad]
        split_ifs with h₁ h₂ h₂
        · rfl
        · exact absurd (h₁.resolve_right hbad) fun h => h₂ (.inl h)
        · exact absurd (h₂.resolve_right not_false) fun h => h₁ (.inl h)
        · omega
    obtain ⟨huser, herror⟩ := ih (State.act handler { st with lineno := st.lineno + 1 } k)
    rw [huser, herror]
    cases k with
    | blank => exact ⟨rfl, hcount nofun rfl rfl⟩
    | continuation value =>
      rw [State.act, call_of_total h]
      exact ⟨rfl, hcount nofun rfl rfl⟩
    | heading name => exact ⟨rfl, hcount nofun rfl rfl⟩
    | pair name value =>
      rw [State.act, call_of_total h]
      exact ⟨rfl, hcount nofun rfl rfl⟩
    | bad =>
      rw [State.act, State.fail, firstBad_cons_bad]
      by_cases herror : st.error = 0
      · rw [if_pos herror, if_pos (.inl (Nat.succ_ne_zero _)), if_neg (by simp [herror])]
        exact ⟨rfl, rfl⟩
      · rw [if_neg herror, if_pos (.inl herror), if_pos (.inl herror)]
        exact ⟨rfl, rfl⟩

/-- **What a file comes to**, if the handler never fails: all its calls, and the first bad line. -/
theorem iniParse_eq (h : handler.Total) (user : σ) (content : Text) :
    iniParse handler user (some content) =
      ((firstBad (linesOf content) : ℤ), feed handler user (callsOf content)) := by
  rw [iniParse, iniParseStream, foldl_readLine _ _ h]
  obtain ⟨huser, herror⟩ := foldl_act h (linesOf content) { user }
  refine Prod.ext ?_ huser
  refine congrArg (Nat.cast : ℕ → ℤ) (herror.trans ?_)
  split_ifs with hif
  · exact (hif.resolve_left fun h => h rfl).symm
  · exact Nat.zero_add _

end Handlers

end Ini

end Sadip
