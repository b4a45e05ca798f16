import Sadip.Machinery.Sql.Sent

/-!
# MonitorTopic — what the monitor stores, `monitor-app/src/MonitorTopic.cpp`

Every message on the use of a topic becomes one statement (`insert_mon`), which is printed into a
buffer of 4096 bytes.
-/

set_option maxRecDepth 10000

namespace Sadip

namespace MonitorTopic

open Printf Sql

variable {σ : Type}

/-- The fields of a message that are stored. -/
structure TopicMonInfo (σ : Type) where
  uuid : σ
  domain : Int32
  srcNodeId : σ
  toNodeId : σ
  topicName : σ
  cycle : Int64
  nCount : Int64
  nSize : Int64
  srcType : Int32
  progarmName : σ

def monInfoSqlFormat : String :=
  "insert into `topic_mon_info`(`uuid`,`domain`,`src_node_id`,\t`to_node_id`,`topic_name`,`cycle`,`n_count`,\t`n_size`,`src_type`,`program_name`)\tVALUES\t('%s', %d, '%s',\t'%s', '%s', %ld, %ld,\t%ld, %d,'%s');"

def monInfoArgs (monitor : TopicMonInfo σ) : List (Arg σ) :=
  [.str monitor.uuid, .int monitor.domain, .str monitor.srcNodeId, .str monitor.toNodeId,
   .str monitor.topicName, .long monitor.cycle, .long monitor.nCount, .long monitor.nSize,
   .int monitor.srcType, .str monitor.progarmName]

/-- The statement that `insert_mon` has executed, if it fits its buffer. -/
def insertMon (print : σ → List Char) (monitor : TopicMonInfo σ) : Option (List (Chunk σ)) := do
  let ps ← pieces monInfoSqlFormat.toList
  let monInfoSql ← format ps (monInfoArgs monitor)
  if Printf.size print monInfoSql < 4096 then some monInfoSql else none

def TopicMonInfo.texts (monitor : TopicMonInfo σ) : List σ :=
  [monitor.uuid, monitor.srcNodeId, monitor.toNodeId, monitor.topicName, monitor.progarmName]

/-! ## What is sent -/

variable {monitor : TopicMonInfo σ} {print content harmless : σ → List Char}

/-- The format itself takes 178 bytes. -/
theorem legible_monInfoSqlFormat :
    Legible monInfoSqlFormat.toList [.s, .d, .s, .s, .s, .ld, .ld, .ld, .d, .s] 178 := by
  rw [monInfoSqlFormat]
  exact .of_chars rfl (by decide +kernel)

theorem suits_monInfoArgs (monitor : TopicMonInfo σ) : List.Forall₂ Arg.Suits (monInfoArgs monitor)
    [.s, .d, .s, .s, .s, .ld, .ld, .ld, .d, .s] := by
  simp [monInfoArgs, Arg.Suits]

/-- The bytes of what is put in. -/
def monInfoBytes (print : σ → List Char) (monitor : TopicMonInfo σ) : ℕ :=
  ((monInfoArgs monitor).map fun a => Printf.size print [.arg a]).sum

theorem exists_monInfoSql (monitor : TopicMonInfo σ) : ∃ ps hs t,
    holes .start ps = some (.start, hs) ∧ List.Forall₂ Prints ps t ∧ strings t = monitor.texts ∧
      ∀ print : σ → List Char, insertMon print monitor =
        if 178 + monInfoBytes print monitor < 4096 then some t else none := by
  obtain ⟨ps, hs, hps, hholes, hconvs, hbytes⟩ := legible_monInfoSqlFormat.formats
  have hsuits : List.Forall₂ Arg.Suits (monInfoArgs monitor) (convs ps) := by
    rw [hconvs]
    exact suits_monInfoArgs monitor
  obtain ⟨t, ht⟩ := format_of_suits hsuits
  refine ⟨ps, hs, t, hholes, prints_of_format ht, strings_of_format ht hsuits, fun print => ?_⟩
  rw [insertMon, hps, Option.bind_eq_bind, Option.bind_some, ht, Option.bind_eq_bind,
    Option.bind_some, size_of_format ht hsuits, hbytes]
  rfl

/-- The statement of a message with these strings. -/
def monSent (monitor : TopicMonInfo σ) (content : σ → List Char) : Option (List Sent) :=
  (insertMon (fun s => cut (content s)) monitor).map fun t =>
    [send (fun s => cut (content s)) content t]

end MonitorTopic

end Sadip
