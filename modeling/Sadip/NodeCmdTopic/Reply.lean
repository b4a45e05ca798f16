import Sadip.Machinery.Json.Writing
import Sadip.Machinery.Replace

/-!
# NodeCmdTopic/Reply — the replies a manager receives, `node/src/NodeCmdTopic.cpp`

`handle_reply` makes one statement of a reply.  A reply with results has them written for the column
`result` and, again, for `description`: the directories, then the files (`resStr_eq`,
`description_eq`).  In a reply without results the description is read as JSON and written again
inside an object.

The room for the statement is 4096 bytes and what these two texts take; all other fields have to fit
into the 4096 (`statement_fits_iff`).
-/

namespace Sadip

namespace NodeCmdTopic

namespace HandleReply

open Json

/-! ## Messages -/

structure File where
  filePathName : Text
  isDir : Bool
  fileSize : Int64
  timestamp : Int64

/-- The fields `handle_reply` reads. -/
structure NodeCmdReply where
  uuid : Text
  cmdType : Int32
  srcNodeId : Text
  srcNodeName : Text
  toNodeId : Text
  toNodeName : Text
  cmdReplyUuid : Text
  desc : Text
  descStr : Text
  status : Int32
  result : List File

/-- What is left of a string that goes through `c_str()`. -/
def cStr (t : Text) : Text := t.takeWhile (· ≠ 0)

/-- `utility::string::subreplace(s, "\\", "/")`; each round of its loop takes one backslash away. -/
def subreplaceBackslash (s : Text) : Text :=
  (Replace.replaceFirst ['\\'.toUInt8] ['/'.toUInt8])^[s.length] s

variable {D : Type} (doubles : Doubles D)

/-! ## The lists -/

/-- `objectTemp` -/
def fileObject (f : File) : Value D :=
  .object [(utf8 "filePathName", .string (cStr (subreplaceBackslash f.filePathName))),
    (utf8 "isDir", .bool f.isDir), (utf8 "fileSize", .int f.fileSize.toInt),
    (utf8 "timestamp", .int f.timestamp.toInt)]

/-- The two arrays, `alarmArray` and `alarmArrayFile`. -/
def pushResult (arrays : List (Value D) × List (Value D)) (f : File) :
    List (Value D) × List (Value D) :=
  if f.isDir then (arrays.1 ++ [fileObject f], arrays.2) else (arrays.1, arrays.2 ++ [fileObject f])

/-- The array that becomes the member `FileInfos`: a copy of each element of the second one is
pushed behind the first. -/
def fileInfos (result : List File) : List (Value D) :=
  let (alarmArray, alarmArrayFile) := result.foldl pushResult ([], [])
  alarmArrayFile.foldl (fun array value => array ++ [value]) alarmArray

/-- `PushBack` of the element at `i`; what is moved leaves a null behind. -/
def moveElement (arrays : List (Value D) × List (Value D)) (i : ℕ) :
    List (Value D) × List (Value D) :=
  (arrays.1.set i .null, arrays.2 ++ [arrays.1.getD i .null])

/-- The source array and the target array, after the source has been moved. -/
def moveAll (source : List (Value D)) : List (Value D) × List (Value D) :=
  (List.range source.length).foldl moveElement (source, [])

/-! ## The texts -/

/-- `{"FileInfos":..}` -/
def fileInfosObject (array : List (Value D)) : Value D := .object [(utf8 "FileInfos", .array array)]

/-- `{"uuid":..,"cmdType":..,"result":{"data":..}}` -/
def descriptionObject (r : NodeCmdReply) (data : Value D) : Value D :=
  .object [(utf8 "uuid", .string (cStr r.uuid)), (utf8 "cmdType", .int r.cmdType.toInt),
    (utf8 "result", .object [(utf8 "data", data)])]

/-- `if (data.IsNull()) data.SetArray();` -/
def orEmpty : Value D → Value D
  | .null => .array []
  | v => v

/-- The description read as JSON; the document stays null when there is an error in it. -/
def documentStr (desc : Text) : Value D := (parse doubles desc).getD .null

def resStr (r : NodeCmdReply) : Text :=
  if 0 < r.result.length then cStr (write doubles (fileInfosObject (fileInfos r.result)))
  else if r.cmdType = 8 ∨ r.cmdType = 3 then cStr (write doubles (fileInfosObject []))
  else []

def description (r : NodeCmdReply) : Text :=
  if 0 < r.result.length then
    cStr (write doubles (descriptionObject r (orEmpty (.array (moveAll (fileInfos r.result)).2))))
  else cStr (write doubles (descriptionObject r (orEmpty (documentStr doubles r.desc))))

/-! ## The statement -/

/-- The format of the statement between its conversions. -/
def statementPieces : List String :=
  ["insert into node_cmd_reply(uuid,src_node_id,src_node_name,to_node_id,to_node_name, cmd_reply_uuid,description,                result,comm_status_id,cmd_type_id,podman_desc) values ('",
    "','", "','", "','", "','", "','", "','", "','", "',", ",", ",'"]

/-- What is printed for the conversions. -/
def statementArgs (r : NodeCmdReply) : List Text :=
  [cStr r.uuid, cStr r.srcNodeId, cStr r.srcNodeName, cStr r.toNodeId, cStr r.toNodeName,
    cStr r.cmdReplyUuid, cStr (description doubles r), cStr (resStr doubles r),
    decimal r.status.toInt, decimal r.cmdType.toInt, cStr r.descStr]

def cmdReplySql (r : NodeCmdReply) : Text :=
  (List.zipWith (fun piece arg => utf8 piece ++ arg) statementPieces
    (statementArgs doubles r)).flatten ++ utf8 "')"

/-- The size of the buffer it is printed to. -/
def allocated (r : NodeCmdReply) : ℕ :=
  4096 + (resStr doubles r).length + (description doubles r).length

/-! ## What the lists are for -/

/-- A name with slashes for backslashes. -/
def slashed (name : Text) : Text := name.map fun c => if c = '\\'.toUInt8 then '/'.toUInt8 else c

/-- An entry as it was received, but for the name. -/
def entry (f : File) : Value D :=
  .object [(utf8 "filePathName", .string (slashed f.filePathName)), (utf8 "isDir", .bool f.isDir),
    (utf8 "fileSize", .int f.fileSize.toInt), (utf8 "timestamp", .int f.timestamp.toInt)]

/-- The directories, then the files, in the order they were received. -/
def listing (result : List File) : List (Value D) :=
  (result.filter (·.isDir) ++ result.filter (!·.isDir)).map entry

variable {doubles : Doubles D} {r : NodeCmdReply} {f : File} {t : Text}

/-! ### The arrays -/

theorem subreplaceBackslash_eq (s : Text) : subreplaceBackslash s = slashed s :=
  Replace.iterate_replaceFirst_letter (by decide) s.length s List.count_le_length

theorem cStr_of_not_mem (h : 0 ∉ t) : cStr t = t :=
  List.takeWhile_eq_self_iff.mpr fun _ hc => decide_eq_true fun h0 => h (h0 ▸ hc)

theorem zero_not_mem_slashed (h : 0 ∉ t) : 0 ∉ slashed t := by
  intro hmem
  obtain ⟨c, hc, heq⟩ := List.mem_map.mp hmem
  split_ifs at heq
  · exact absurd heq (by decide)
  · exact h (heq ▸ hc)

theorem fileObject_eq_entry (h : 0 ∉ f.filePathName) : (fileObject f : Value D) = entry f := by
  rw [fileObject, entry, subreplaceBackslash_eq, cStr_of_not_mem (zero_not_mem_slashed h)]

theorem foldl_pushResult : ∀ (result : List File) (arrays : List (Value D) × List (Value D)),
    result.foldl pushResult arrays = (arrays.1 ++ (result.filter (·.isDir)).map fileObject,
      arrays.2 ++ (result.filter (!·.isDir)).map fileObject)
  | [], arrays => by simp
  | f :: result, arrays => by
      rw [List.foldl_cons, foldl_pushResult result, pushResult]
      cases hf : f.isDir <;> simp [hf]

theorem foldl_push {α : Type} : ∀ vs array : List α,
    vs.foldl (fun array value => array ++ [value]) array = array ++ vs
  | [], array => (List.append_nil array).symm
  | v :: vs, array => by
      rw [List.foldl_cons, foldl_push vs, List.append_assoc, List.singleton_append]

/-- **Every entry is in the array once**, the directories before the files. -/
theorem fileInfos_eq (result : List File) : (fileInfos result : List (Value D)) =
    (result.filter (·.isDir) ++ result.filter (!·.isDir)).map fileObject := by
  rw [fileInfos, foldl_pushResult]
  simp only [List.nil_append]
  rw [foldl_push, List.map_append]

/-- After `k` moves the first `k` elements have changed places, and there are nulls where they
were. -/
theorem foldl_moveElement (source : List (Value D)) : ∀ k ≤ source.length,
    (List.range k).foldl moveElement (source, []) =
      (List.replicate k .null ++ source.drop k, source.take k) := by
  intro k
  induction k with
  | zero => exact fun _ => rfl
  | succ k ih =>
    intro hk
    have hlt : k < source.length := hk
    rw [List.range_succ, List.foldl_append, ih (Nat.le_of_lt hk), List.foldl_cons, List.foldl_nil,
      moveElement]
    refine Prod.ext ?_ ?_
    · rw [List.set_append_right _ _ (by simp), List.length_replicate, Nat.sub_self,
        List.drop_eq_getElem_cons hlt, List.set_cons_zero, List.replicate_succ', List.append_assoc,
        List.singleton_append]
    · have hget : (List.replicate k Value.null ++ source.drop k).getD k .null = source[k] := by
        rw [List.getD_eq_getElem?_getD, List.getElem?_append_right (by simp),
          List.length_replicate, Nat.sub_self, List.drop_eq_getElem_cons hlt]
        rfl
      rw [hget, List.take_add_one, List.getElem?_eq_getElem hlt]
      rfl

theorem moveAll_eq (source : List (Value D)) :
    moveAll source = (List.replicate source.length .null, source) := by
  rw [moveAll, foldl_moveElement source source.length le_rfl, List.drop_length, List.append_nil,
    List.take_length]

/-! ### The texts -/

theorem fits_toInt64 (v : Int64) : Fits v.toInt := by
  have hge := v.le_toInt
  have hlt := v.toInt_lt
  exact ⟨hge, Int.lt_trans hlt (by decide)⟩

theorem fits_toInt32 (v : Int32) : Fits v.toInt := by
  have hge := v.le_toInt
  have hlt := v.toInt_lt
  exact ⟨Int.le_trans (by decide) hge, Int.lt_trans hlt (by decide)⟩

theorem exact_entry (f : File) : Exact (entry f : Value D) := by
  refine .object ?_
  simp only [List.mem_cons, List.not_mem_nil, or_false, forall_eq_or_imp, forall_eq]
  exact ⟨.string _, .bool _, .int (fits_toInt64 _), .int (fits_toInt64 _)⟩

theorem exact_listing (result : List File) : Exact (.array (listing result) : Value D) :=
  .array (List.forall_mem_map.mpr fun f _ => exact_entry f)

theorem exact_fileInfosObject {array : List (Value D)} (h : Exact (.array array)) :
    Exact (fileInfosObject array) :=
  .object (List.forall_mem_singleton.mpr h)

theorem exact_descriptionObject (r : NodeCmdReply) {data : Value D} (h : Exact data) :
    Exact (descriptionObject r data) := by
  refine .object ?_
  simp only [List.mem_cons, List.not_mem_nil, or_false, forall_eq_or_imp, forall_eq]
  exact ⟨.string _, .int (fits_toInt32 _), .object (List.forall_mem_singleton.mpr h)⟩

/-- What is written comes through `GetString` as it is. -/
theorem cStr_write {v : Value D} (h : Exact v) : cStr (write doubles v) = write doubles v :=
  cStr_of_not_mem fun hmem => h.visible 0 hmem (by decide)

theorem fileInfos_eq_listing {result : List File} (hname : ∀ f ∈ result, 0 ∉ f.filePathName) :
    (fileInfos result : List (Value D)) = listing result := by
  rw [fileInfos_eq, listing]
  refine List.map_congr_left fun f hf => fileObject_eq_entry (hname f ?_)
  rcases List.mem_append.mp hf with hf | hf
  · exact List.mem_of_mem_filter hf
  · exact List.mem_of_mem_filter hf

/-- **The two texts hold the directories and then the files**, each once and as it was received,
with slashes for backslashes: for the column `result`, -/
theorem resStr_eq (doubles : Doubles D) (hne : r.result ≠ [])
    (hname : ∀ f ∈ r.result, 0 ∉ f.filePathName) :
    resStr doubles r = write doubles (fileInfosObject (listing r.result)) := by
  rw [resStr, if_pos (List.length_pos_of_ne_nil hne), fileInfos_eq_listing hname]
  exact cStr_write (exact_fileInfosObject (exact_listing _))

/-- and for `description`. -/
theorem description_eq (doubles : Doubles D) (hne : r.result ≠ [])
    (hname : ∀ f ∈ r.result, 0 ∉ f.filePathName) : description doubles r =
      write doubles (descriptionObject r (.array (listing r.result))) := by
  rw [description, if_pos (List.length_pos_of_ne_nil hne), moveAll_eq, fileInfos_eq_listing hname]
  exact cStr_write (exact_descriptionObject r (exact_listing _))

/-! ## The room for the statement -/

/-- The bytes of the fields that the room is not made for. -/
def uncounted (r : NodeCmdReply) : ℕ :=
  (cStr r.uuid).length + (cStr r.srcNodeId).length + (cStr r.srcNodeName).length +
    (cStr r.toNodeId).length + (cStr r.toNodeName).length + (cStr r.cmdReplyUuid).length +
    (cStr r.descStr).length + (decimal r.status.toInt).length + (decimal r.cmdType.toInt).length

theorem cStr_cStr (t : Text) : cStr (cStr t) = cStr t := by
  rw [cStr, cStr, List.takeWhile_takeWhile]
  simp

theorem cStr_resStr (doubles : Doubles D) (r : NodeCmdReply) :
    cStr (resStr doubles r) = resStr doubles r := by
  rw [resStr]
  split_ifs
  · exact cStr_cStr _
  · exact cStr_cStr _
  · rfl

theorem cStr_description (doubles : Doubles D) (r : NodeCmdReply) :
    cStr (description doubles r) = description doubles r := by
  rw [description]
  split_ifs <;> exact cStr_cStr _

theorem length_utf8_of_chars {s : String} {cs : List Char} (h : s = String.ofList cs) :
    (utf8 s).length = (cs.flatMap String.utf8EncodeChar).length := by
  rw [utf8, h, String.toList_ofList]

set_option maxRecDepth 2000 in
theorem length_statementPieces_head : (utf8 (statementPieces.headD "")).length = 182 :=
  (length_utf8_of_chars rfl).trans (by decide +kernel)

theorem length_statementPieces_tail :
    (statementPieces.tail.map fun piece => (utf8 piece).length).sum = 26 := by decide +kernel

/-- The format itself takes 210 bytes. -/
theorem length_cmdReplySql (doubles : Doubles D) (r : NodeCmdReply) :
    (cmdReplySql doubles r).length =
      210 + uncounted r + (resStr doubles r).length + (description doubles r).length := by
  have hhead := length_statementPieces_head
  have htail := length_statementPieces_tail
  have hend : (utf8 "')").length = 2 := rfl
  simp only [statementPieces, List.headD_cons, List.tail_cons, List.map_cons, List.map_nil,
    List.sum_cons, List.sum_nil] at hhead htail
  simp only [cmdReplySql, statementPieces, statementArgs, List.zipWith_cons_cons,
    List.zipWith_nil_left, List.flatten_cons, List.flatten_nil, List.length_append, List.length_nil,
    cStr_resStr, cStr_description, uncounted, hend]
  omega

/-- The buffer has 3885 bytes for what is not counted. -/
theorem length_cmdReplySql_lt_iff (doubles : Doubles D) (r : NodeCmdReply) :
    (cmdReplySql doubles r).length + 1 ≤ allocated doubles r ↔ uncounted r ≤ 3885 := by
  rw [length_cmdReplySql, allocated]
  omega

/-- **The statement fits into its buffer**, terminator included, if and only if what is not counted
in its size fits into 3885 bytes. -/
theorem statement_fits_iff (doubles : Doubles D) (r : NodeCmdReply) :
    (cmdReplySql doubles r).length + 1 ≤ allocated doubles r ↔ uncounted r ≤ 3885 :=
  length_cmdReplySql_lt_iff doubles r

/-- A reply with a long output of `podman`. -/
def podmanReply : NodeCmdReply where
  uuid := []
  cmdType := 41
  srcNodeId := []
  srcNodeName := []
  toNodeId := []
  toNodeName := []
  cmdReplyUuid := []
  desc := []
  descStr := List.replicate 5000 'a'.toUInt8
  status := 2
  result := []

theorem not_statement_fits : ¬ ∀ (D : Type) (doubles : Doubles D) (r : NodeCmdReply),
    (cmdReplySql doubles r).length + 1 ≤ allocated doubles r := by
  intro h
  have hfits := h Empty ⟨fun _ => none, Empty.elim⟩ podmanReply
  have hdesc : (cStr podmanReply.descStr).length = 5000 := by
    have hmem : 0 ∉ podmanReply.descStr := fun h => absurd (List.eq_of_mem_replicate h) (by decide)
    rw [cStr_of_not_mem hmem]
    exact List.length_replicate
  rw [length_cmdReplySql, allocated, uncounted, hdesc] at hfits
  omega

end HandleReply

end NodeCmdTopic

end Sadip
