import Sadip.DataInsert.Layout

/-!
# DataInsert/Room — texts that fit their buffers

Only strings can make a text outgrow its buffer.  A layout that `Holds` `n` bytes has room for its
start, and for a tuple with any numbers in it and strings of `n` bytes together; so an insertion is
`Roomy`, whichever identifiers it takes, if the strings of each tuple are that short.
-/

namespace Sadip

namespace DataInsert

open Printf Sql

variable {σ α β : Type}

namespace Insertion

/-- Every text fits its buffer, whichever identifiers are taken. -/
def Roomy (print : σ → List Char) : Insertion σ α → Prop
  | done _ => True
  | draw k => ∀ id, Roomy print (k id)
  | .print size text k => Printf.size print text < size ∧ Roomy print k
  | execute _ k => Roomy print k
  | flush _ k => Roomy print k
  | undefined => True

variable {print : σ → List Char}

/-- Room for all identifiers is room for those that are drawn. -/
theorem Roomy.fits (ids : ℕ → Int64) : ∀ {p : Insertion σ α}, Roomy print p →
    ∀ n : ℕ, Fits print ids p n
  | done _, _, _ => trivial
  | draw k, h, n => Roomy.fits ids (p := k (ids n)) (h (ids n)) (n + 1)
  | .print _ _ k, h, n => ⟨h.1, Roomy.fits ids (p := k) h.2 n⟩
  | execute _ k, h, n => Roomy.fits ids (p := k) h n
  | flush _ k, h, n => Roomy.fits ids (p := k) h n
  | undefined, _, _ => trivial

/-- One part after another. -/
theorem Roomy.bind {f : α → Insertion σ β} : ∀ {p : Insertion σ α}, Roomy print p →
    (∀ a, Roomy print (f a)) → Roomy print (p >>= f)
  | done a, _, hf => hf a
  | draw k, h, hf => fun id => Roomy.bind (p := k id) (h id) hf
  | .print _ _ k, h, hf => ⟨h.1, Roomy.bind (p := k) h.2 hf⟩
  | execute _ k, h, hf => Roomy.bind (p := k) h hf
  | flush _ k, h, hf => Roomy.bind (p := k) h hf
  | undefined, _, _ => trivial

end Insertion

open Insertion

variable {print : σ → List Char}

theorem roomy_pure (a : α) : Roomy print (pure a : Insertion σ α) := trivial

theorem roomy_nextId : Roomy print (nextId : Insertion σ Int64) := fun _ => trivial

theorem roomy_ownId (own : UInt64) : Roomy print (ownId own : Insertion σ Int64) := by
  rw [ownId]
  split
  · exact roomy_nextId
  · trivial

theorem roomy_flush (sqls : Text σ) : Roomy print (flush sqls) := trivial

/-- A format has room for any numbers and `n` bytes of strings. -/
theorem roomy_sprintf {size n : ℕ} {fmt : String} {as : List (Arg σ)}
    (hroom : ((pieces fmt.toList).map fun ps =>
      decide (4 * ps.countP Piece.isChar + 84 * (convs ps).length + n < size)) = some true)
    (hn : (as.map (Arg.bytes print)).sum ≤ n) :
    Roomy print (sprintf size fmt as : Insertion σ (Text σ)) := by
  rw [sprintf]
  split
  · next t ht =>
      obtain ⟨ps, hps, hformat⟩ := Option.bind_eq_some_iff.mp ht
      have hsize : Printf.size print t ≤ _ := size_le_of_format hformat
      rw [hps, Option.map_some, Option.some.injEq, decide_eq_true_iff] at hroom
      exact ⟨by omega, trivial⟩
  · trivial

/-! ## Layouts -/

/-- There is room for the start, and for a tuple with `n` bytes of strings. -/
def Layout.Holds (l : Layout) (n : ℕ) : Prop :=
  4 * l.header.length < l.size ∧
    ((pieces l.row.toList).map fun ps =>
      decide (4 * ps.countP Piece.isChar + 84 * (convs ps).length + n < l.size)) = some true

/-- It is checked on the characters of header and row. -/
theorem Layout.Holds.of_chars {l : Layout} {n : ℕ} {h r : List Char}
    (hh : l.header = String.ofList h) (hr : l.row = String.ofList r)
    (hholds : (decide (4 * h.length < l.size) && decide (((pieces r).map fun ps =>
      decide (4 * ps.countP Piece.isChar + 84 * (convs ps).length + n < l.size)) = some true))
        = true) : l.Holds n := by
  rw [Bool.and_eq_true, decide_eq_true_iff, decide_eq_true_iff] at hholds
  refine ⟨?_, ?_⟩
  · rw [hh, String.length_ofList]
    exact hholds.1
  · rw [hr, String.toList_ofList]
    exact hholds.2

theorem Layout.Holds.roomy_start {l : Layout} {n : ℕ} (h : l.Holds n) (i : ℕ) :
    Roomy print (l.start i : Insertion σ (Text σ)) := by
  rw [start]
  split
  · rw [sprintf_of_printed l.printed_header]
    exact ⟨Nat.lt_of_le_of_lt (size_literal_le _) h.1, trivial⟩
  · trivial

/-- **A tuple that fits.** -/
theorem Layout.Holds.roomy_append {l : Layout} {n : ℕ} (h : l.Holds n) (i : ℕ)
    {as : List (Arg σ)} (hn : (as.map (Arg.bytes print)).sum ≤ n) :
    Roomy print (l.append i as) :=
  (h.roomy_start i).bind fun _ => (roomy_sprintf h.2 hn).bind fun _ => roomy_pure _

/-! ## Loops -/

variable {body : ℕ → α → Insertion σ (Text σ)}

theorem roomy_forEach : ∀ {i : ℕ} {es : List α},
    (∀ q ∈ es.zipIdx i, Roomy print (body q.2 q.1)) → Roomy print (forEach body i es)
  | _, [], _ => trivial
  | i, e :: es, hbody => by
      rw [List.zipIdx_cons, List.forall_mem_cons] at hbody
      exact hbody.1.bind fun _ => (roomy_forEach hbody.2).bind fun _ => trivial

/-- **A loop has room** if each of its elements has. -/
theorem roomy_insertEach {es : List α} (hbody : ∀ i, ∀ e ∈ es, Roomy print (body i e)) :
    Roomy print (insertEach body es) :=
  (roomy_forEach fun q hq => hbody q.2 q.1 (List.fst_mem_of_mem_zipIdx hq)).bind
    fun _ => roomy_flush _

theorem roomy_optionally {o : Option β} {f : β → Insertion σ Unit} (h : ∀ b, Roomy print (f b)) :
    Roomy print (optionally o f) := by
  cases o with
  | none => trivial
  | some b => exact h b

/-- An element that has no list below it, nor strings. -/
theorem Layout.Holds.roomy_leaf {l : Layout} (h : l.Holds 0) (i : ℕ) {as : Int64 → List (Arg σ)}
    (hbytes : ∀ id, ((as id).map (Arg.bytes print)).sum = 0) :
    Roomy print (nextId >>= fun id => l.append i (as id)) :=
  roomy_nextId.bind fun id => h.roomy_append i (Nat.le_of_eq (hbytes id))

end DataInsert

end Sadip
