import Sadip.Machinery.Blanks
import Sadip.NodeCmdWorker

/-!
# NodeCmdWorker/Identity — the uuid of an application, `node/src/NodeCmdWorker.cpp`

An application is known by its working directory, its command and its two lists of parameters, put
together with blanks between them.  `ADDAPP`, `STARTAPP`, `STOPAPP`, `RESTARTAPP` and `REMOVEAPP`
make the uuid of the same four fields, but a blank inside a field looks like one between two fields:
what the uuid keeps of them is the sequence of their pieces between blanks (`appUuid_eq_iff`), not
where one field ends and the next begins.
-/

namespace Sadip

namespace NodeCmdWorker

open Blanks

/-- The fields that tell applications apart. -/
def NodeCmd.fields (c : NodeCmd) : List String := [c.paras1, c.cmd, c.paras, c.paras2]

/-- The pieces of the four fields between blanks, less the empty ones at the two ends. -/
def NodeCmd.pieces (c : NodeCmd) : List (List Char) :=
  strip List.isEmpty (c.fields.flatMap fun field => field.toList.splitOn ' ')

/-- Commands about different applications have different uuids, and those about one have the same,
whatever they are to do with it. -/
structure ToldApart (c d : NodeCmd) : Prop where
  apart : c.fields.map trim ≠ d.fields.map trim → c.appUuid ≠ d.appUuid
  same : c.fields = d.fields → c.appUuid = d.appUuid

theorem trim_eq (s : String) : trim s = String.ofList (strip (isBlank ' ') s.toList) := rfl

theorem words_fields (c : NodeCmd) :
    words ' ' (c.paras1 ++ " " ++ c.cmd ++ " " ++ c.paras ++ " " ++ c.paras2).toList = c.pieces := by
  have hblank : " ".toList = [' '] := rfl
  rw [words, NodeCmd.pieces, NodeCmd.fields]
  simp only [String.toList_append, hblank, List.append_assoc, List.nil_append,
    List.cons_append, List.splitOn_append_cons_self, List.flatMap_cons, List.flatMap_nil,
    List.append_nil]

/-- **What a uuid keeps of a command.** -/
theorem appUuid_eq_iff (c d : NodeCmd) : c.appUuid = d.appUuid ↔ c.pieces = d.pieces := by
  rw [NodeCmd.appUuid, NodeCmd.appUuid, combUuid, combUuid, trim_eq, trim_eq, String.ofList_inj,
    strip_eq_strip_iff, words_fields, words_fields]

/-- **When two commands are told apart**: their fields are the same less the blanks at their ends,
or differ in the sequence of all their pieces. -/
theorem toldApart_iff (c d : NodeCmd) :
    ToldApart c d ↔ c.fields.map trim = d.fields.map trim ∨ c.pieces ≠ d.pieces := by
  constructor
  · intro h
    by_contra hno
    rw [not_or, not_not] at hno
    exact h.apart hno.1 ((appUuid_eq_iff c d).mpr hno.2)
  · intro h
    refine ⟨fun hne heq => ?_, fun he => ?_⟩
    · exact h.elim hne fun hpieces => hpieces ((appUuid_eq_iff c d).mp heq)
    · rw [appUuid_eq_iff, NodeCmd.pieces, NodeCmd.pieces, he]

/-- A field that is one piece. -/
def Whole (field : String) : Prop := ' ' ∉ field.toList ∧ field ≠ ""

theorem pieces_of_whole {c : NodeCmd} (h : ∀ field ∈ c.fields, Whole field) :
    c.pieces = c.fields.map String.toList := by
  have hsplit : (c.fields.flatMap fun field => field.toList.splitOn ' ')
      = c.fields.map String.toList := by
    rw [List.map_eq_flatMap]
    exact List.flatMap_congr fun field hf => List.splitOn_eq_singleton (h field hf).1
  have hne : ∀ field ∈ c.fields, ¬ field.toList.isEmpty = true := fun field hf he =>
    (h field hf).2 (String.toList_eq_nil_iff.mp (List.isEmpty_iff.mp he))
  rw [NodeCmd.pieces, hsplit, strip, NodeCmd.fields]
  simp only [NodeCmd.fields, List.forall_mem_cons] at hne
  rw [List.map_cons, List.dropWhile_cons_of_neg hne.1]
  exact List.rdropWhile_concat_neg List.isEmpty [_, _, _] _ hne.2.2.2.1

/-- **Fields that are one piece each are told apart.** -/
theorem pieces_ne_of_whole {c d : NodeCmd} (hc : ∀ field ∈ c.fields, Whole field)
    (hd : ∀ field ∈ d.fields, Whole field) (hne : c.fields ≠ d.fields) : c.pieces ≠ d.pieces := by
  rw [pieces_of_whole hc, pieces_of_whole hd]
  exact fun he => hne (List.map_injective_iff.mpr (fun _ _ => String.toList_inj.mp) he)

/-- **A parameter inside the command**: the application and the command with its parameter in a
field of its own have one uuid. -/
theorem not_toldApart : ¬ ∀ c d : NodeCmd, ToldApart c d := by
  intro h
  have := (toldApart_iff
    { uuid := "1", cmdType := .ADDAPP, cmd := "a b", paras := "", paras1 := "./", paras2 := "" }
    { uuid := "2", cmdType := .STOPAPP, cmd := "a", paras := "b", paras1 := "./", paras2 := "" }).mp
    (h _ _)
  revert this
  decide

end NodeCmdWorker

end Sadip
