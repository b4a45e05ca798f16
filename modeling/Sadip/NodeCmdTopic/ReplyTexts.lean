import Sadip.Machinery.Json.Literal
import Sadip.Machinery.Sql.Sent
import Sadip.NodeCmdTopic.Reply

/-!
# NodeCmdTopic/ReplyTexts — the strings in the statement of `handle_reply`

The statement of a reply as a text with the strings of the reply in it, some of them inside the JSON
documents for `description` and `result`, and when it comes back as it was meant
(`secure_cmdReply_iff`).
-/

namespace Sadip

namespace NodeCmdTopic

namespace HandleReply

open Json Sql
open Printf (Arg Chunk Conv chars)

/-! ## The statement as it is printed -/

section

variable {D : Type} (doubles : Doubles D) (r : NodeCmdReply)

/-- What is printed for the conversions, before it is cut at a NUL. -/
def printfArgs : List (Arg Text) :=
  [.str r.uuid, .str r.srcNodeId, .str r.srcNodeName, .str r.toNodeId, .str r.toNodeName,
    .str r.cmdReplyUuid, .str (description doubles r), .str (resStr doubles r), .int r.status,
    .int r.cmdType, .str r.descStr]

/-- The conversions of the format, one for each argument. -/
def printfConvs : List Conv := [.s, .s, .s, .s, .s, .s, .s, .s, .d, .d, .s]

/-- What `snprintf` makes of format and arguments. -/
def chunks : List (Chunk Text) := weave statementPieces (printfArgs doubles r) "')"

/-- The tokens of a statement that inserts one row. -/
def insertOf {α : Type} (token : Token → α) (table : String) (row : List (String × α)) : List α :=
  [token (.word "insert".toList), token (.word "into".toList), token (.word table.toList),
    token .opening] ++
    (row.map fun column => token (.word column.1.toList)).intersperse (token .comma) ++
    [token .closing, token (.word "values".toList), token .opening] ++
    (row.map Prod.snd).intersperse (token .comma) ++ [token .closing]

/-- The columns of `node_cmd_reply`, in the order of the format. -/
def columns : List String :=
  ["uuid", "src_node_id", "src_node_name", "to_node_id", "to_node_name", "cmd_reply_uuid",
    "description", "result", "comm_status_id", "cmd_type_id", "podman_desc"]

/-- The statement as it is sent; its bytes are the characters of the server. -/
def sentText : Sent := ⟨latin1 (cmdReplySql doubles r), meantTokens latin1 (chunks doubles r)⟩

end

variable {D : Type} {doubles : Doubles D} {r : NodeCmdReply} {t : Text}

theorem suits_printfArgs : List.Forall₂ Arg.Suits (printfArgs doubles r) printfConvs := by
  simp [printfArgs, printfConvs, Arg.Suits]

/-- The conversions in their columns. -/
def rowHoles : List Hole :=
  [.text, .text, .text, .text, .text, .text, .text, .text, .number, .number, .text]

set_option maxRecDepth 10000 in
/-- **The format inserts one row**, each hole in the place of its column. -/
theorem holes_statement : holes .start (woven statementPieces printfConvs "')") =
    some (.start, insertOf .token "node_cmd_reply" (columns.zip rowHoles)) := by
  rw [statementPieces, printfConvs]
  decide +kernel

theorem prints_chunks :
    List.Forall₂ Printf.Prints (woven statementPieces printfConvs "')") (chunks doubles r) :=
  prints_weave suits_printfArgs _ _

theorem strings_chunks : Printf.strings (chunks doubles r) =
    [r.uuid, r.srcNodeId, r.srcNodeName, r.toNodeId, r.toNodeName, r.cmdReplyUuid,
      description doubles r, resStr doubles r, r.descStr] := by
  rw [← strings_args, chunks, args_weave _ (by rfl)]
  rfl

/-- Words and arguments in turn, as bytes and as characters. -/
theorem latin1_woven {tail : String} (htail : ∀ c ∈ tail.toList, c.toNat < 128) {ts : List Text}
    {as : List (Arg Text)}
    (h : List.Forall₂ (fun t a => latin1 t = a.chars fun s => cut (latin1 s)) ts as) :
    ∀ {ws : List String}, (∀ w ∈ ws, ∀ c ∈ w.toList, c.toNat < 128) → ws.length = ts.length →
      latin1 ((List.zipWith (fun piece arg => utf8 piece ++ arg) ws ts).flatten ++ utf8 tail) =
        chars (fun s => cut (latin1 s)) (weave ws as tail) := by
  induction h with
  | nil =>
    intro ws _ hlen
    obtain rfl := List.length_eq_zero_iff.mp hlen
    exact (latin1_utf8 htail).trans (Printf.chars_literal _).symm
  | @cons t a ts as ha _ ih =>
    rintro (- | ⟨w, ws⟩) hws hlen
    · cases hlen
    obtain ⟨hw, hws⟩ := List.forall_mem_cons.mp hws
    rw [List.zipWith_cons_cons, List.flatten_cons, List.append_assoc, List.append_assoc,
      latin1_append, latin1_append, ih hws (Nat.succ.inj hlen), weave, Printf.chars_append,
      Printf.chars_literal, latin1_utf8 hw, ha]
    rfl

theorem latin1_cStr (t : Text) : latin1 (cStr t) = cut (latin1 t) := latin1_takeWhile t

theorem ascii_statementPieces : ∀ w ∈ statementPieces, ∀ c ∈ w.toList, c.toNat < 128 := by
  have hall : (statementPieces.all fun w => w.toList.all fun c => decide (c.toNat < 128)) =
      true := by decide +kernel
  exact fun w hw => List.all_iff_forall_prop.mp (List.all_eq_true.mp hall w hw)

/-- The text as the characters that the server sees. -/
theorem latin1_cmdReplySql : latin1 (cmdReplySql doubles r) =
    chars (fun s => cut (latin1 s)) (chunks doubles r) := by
  rw [cmdReplySql, chunks]
  refine latin1_woven (List.all_iff_forall_prop.mp (by decide)) ?_ ascii_statementPieces rfl
  simp only [statementArgs, printfArgs, List.forall₂_cons, List.forall₂_nil_left_iff, and_true,
    latin1_cStr, latin1_decimal]
  exact ⟨rfl, rfl, rfl, rfl, rfl, rfl, rfl, rfl, rfl, rfl, rfl⟩

/-- **What is sent is what the format prints.** -/
theorem sentText_eq_send : sentText doubles r =
    send (fun s => cut (latin1 s)) latin1 (chunks doubles r) := by
  rw [sentText, latin1_cmdReplySql, send]

/-- It is read as meant exactly if each of its strings can stand between quotes. -/
theorem faithful_sentText_iff : (sentText doubles r).Faithful ↔
    ∀ t ∈ [r.uuid, r.srcNodeId, r.srcNodeName, r.toNodeId, r.toNodeName, r.cmdReplyUuid,
      description doubles r, resStr doubles r, r.descStr], Quotable t := by
  rw [sentText_eq_send, faithful_send_iff (fun _ => rfl) holes_statement prints_chunks,
    strings_chunks]
  rfl

/-! ## The documents -/

theorem quotable_cStr_write (hdoubles : Numeric doubles) (v : Value D) :
    Quotable (cStr (write doubles v)) ↔ ∀ s ∈ v.texts, Bare s := by
  rw [cStr_of_not_mem fun hmem => visible_write hdoubles v 0 hmem (by decide),
    quotable_write_iff hdoubles]

theorem textsOfElements_eq_flatMap (vs : List (Value D)) :
    textsOfElements vs = vs.flatMap Value.texts := by
  induction vs with
  | nil => rfl
  | cons v vs ih => exact congrArg (v.texts ++ ·) ih

/-- Of a file only the name can break the text. -/
theorem bare_fileObject (f : File) : (∀ s ∈ (fileObject f : Value D).texts, Bare s) ↔
    Bare (cStr (slashed f.filePathName)) := by
  have hnames : Bare (utf8 "filePathName") ∧ Bare (utf8 "isDir") ∧ Bare (utf8 "fileSize") ∧
      Bare (utf8 "timestamp") := by decide
  rw [← subreplaceBackslash_eq]
  simp [fileObject, Value.texts, textsOfMembers, hnames]

theorem bare_fileInfos (result : List File) :
    (∀ s ∈ textsOfElements (fileInfos result : List (Value D)), Bare s) ↔
      ∀ f ∈ result, Bare (cStr (slashed f.filePathName)) := by
  rw [textsOfElements_eq_flatMap, fileInfos_eq, List.forall_mem_flatMap, List.forall_mem_map]
  simp only [bare_fileObject, List.forall_mem_append, List.forall_mem_filter]
  refine ⟨?_, fun h => ⟨fun f hf _ => h f hf, fun f hf _ => h f hf⟩⟩
  rintro ⟨hdirs, hfiles⟩ f hf
  cases hdir : f.isDir
  · exact hfiles f hf (by rw [hdir]; rfl)
  · exact hdirs f hf hdir

theorem bare_descriptionObject {data : Value D} :
    (∀ s ∈ (descriptionObject r data).texts, Bare s) ↔
      Bare (cStr r.uuid) ∧ ∀ s ∈ data.texts, Bare s := by
  have hnames : Bare (utf8 "uuid") ∧ Bare (utf8 "cmdType") ∧ Bare (utf8 "result") ∧
      Bare (utf8 "data") := by decide
  simp [descriptionObject, Value.texts, textsOfMembers, hnames]

/-- The description carries the files, or if there are none what the text of the reply says. -/
theorem quotable_description (hdoubles : Numeric doubles) (r : NodeCmdReply) :
    Quotable (description doubles r) ↔ Bare (cStr r.uuid) ∧
      (∀ f ∈ r.result, Bare (cStr (slashed f.filePathName))) ∧
        (r.result = [] → ∀ s ∈ (documentStr doubles r.desc).texts, Bare s) := by
  rw [description]
  by_cases hresult : r.result = []
  · have htexts : (orEmpty (documentStr doubles r.desc)).texts =
        (documentStr doubles r.desc).texts := by
      cases documentStr doubles r.desc <;> rfl
    rw [if_neg (by simp [hresult]), quotable_cStr_write hdoubles, bare_descriptionObject, htexts,
      hresult]
    simp
  · rw [if_pos (List.length_pos_of_ne_nil hresult), quotable_cStr_write hdoubles,
      bare_descriptionObject, moveAll_eq]
    refine and_congr_right fun _ => ?_
    show (∀ s ∈ textsOfElements (fileInfos r.result : List (Value D)), Bare s) ↔ _
    rw [bare_fileInfos]
    exact (and_iff_left fun h => absurd h hresult).symm

theorem quotable_fileInfosObject (hdoubles : Numeric doubles) (array : List (Value D)) :
    Quotable (cStr (write doubles (fileInfosObject array))) ↔
      ∀ s ∈ textsOfElements array, Bare s := by
  have hname : Bare (utf8 "FileInfos") := by decide
  rw [quotable_cStr_write hdoubles]
  simp [fileInfosObject, Value.texts, textsOfMembers, hname]

/-- The column of the result carries the files. -/
theorem quotable_resStr (hdoubles : Numeric doubles) (r : NodeCmdReply) :
    Quotable (resStr doubles r) ↔ ∀ f ∈ r.result, Bare (cStr (slashed f.filePathName)) := by
  rw [resStr]
  by_cases hresult : r.result = []
  · rw [if_neg (by simp [hresult]), hresult]
    refine iff_of_true ?_ (List.forall_mem_nil _)
    split_ifs
    · exact (quotable_fileInfosObject hdoubles []).mpr (List.forall_mem_nil _)
    · rfl
  · rw [if_pos (List.length_pos_of_ne_nil hresult), quotable_fileInfosObject hdoubles,
      bare_fileInfos]

/-! ## Replies -/

variable {σ : Type}

/-- A file of a listing; `σ` are the strings. -/
structure Listed (σ : Type) where
  filePathName : σ
  isDir : Bool
  fileSize : Int64
  timestamp : Int64

/-- A reply as it is received. -/
structure Reply (σ : Type) where
  uuid : σ
  cmdType : Int32
  srcNodeId : σ
  srcNodeName : σ
  toNodeId : σ
  toNodeName : σ
  cmdReplyUuid : σ
  desc : σ
  descStr : σ
  status : Int32
  result : List (Listed σ)

/-- The bytes of a string. -/
def encode (content : σ → List Char) (s : σ) : Text := (content s).flatMap String.utf8EncodeChar

namespace Reply

variable (doubles) (r : Reply σ) (content : σ → List Char)

/-- The reply with these strings. -/
def message : NodeCmdReply where
  uuid := encode content r.uuid
  cmdType := r.cmdType
  srcNodeId := encode content r.srcNodeId
  srcNodeName := encode content r.srcNodeName
  toNodeId := encode content r.toNodeId
  toNodeName := encode content r.toNodeName
  cmdReplyUuid := encode content r.cmdReplyUuid
  desc := encode content r.desc
  descStr := encode content r.descStr
  status := r.status
  result := r.result.map fun f => ⟨encode content f.filePathName, f.isDir, f.fileSize, f.timestamp⟩

/-- What is sent, if it fits. -/
def sent : Option (List Sent) :=
  if (cmdReplySql doubles (r.message content)).length + 1 ≤
    allocated doubles (r.message content) then
    some [sentText doubles (r.message content)]
  else none

/-- The strings outside the documents. -/
def texts : List σ :=
  [r.uuid, r.srcNodeId, r.srcNodeName, r.toNodeId, r.toNodeName, r.cmdReplyUuid, r.descStr]

/-- The strings are literal, and those in the documents have nothing to escape. -/
structure Sound : Prop where
  literal : ∀ s ∈ r.texts, isLiteral (content s) = true
  uuid : Bare (encode content r.uuid)
  names : ∀ f ∈ r.result, Bare (cStr (slashed (encode content f.filePathName)))
  document : r.result = [] → ∀ s ∈ (documentStr doubles (encode content r.desc)).texts, Bare s

variable {doubles r content} {harmless : σ → List Char}

theorem quotable_encode {s : σ} : Quotable (encode content s) ↔ isLiteral (content s) = true := by
  rw [Quotable, encode, isLiteral_utf8]

theorem cStr_encode (s : σ) :
    cStr (encode content s) = (cut (content s)).flatMap String.utf8EncodeChar :=
  takeWhile_flatMap_utf8 (content s)

/-- **The statement is faithful** exactly if the reply is sound. -/
theorem faithful_iff (hdoubles : Numeric doubles) :
    (sentText doubles (r.message content)).Faithful ↔ r.Sound doubles content := by
  have huuid : isLiteral (content r.uuid) = true →
      (Bare (cStr (encode content r.uuid)) ↔ Bare (encode content r.uuid)) := by
    intro h
    rw [cStr_encode, cut_of_not_mem (not_mem_of_isLiteral h), encode]
  have hnames : (∀ f ∈ (r.message content).result, Bare (cStr (slashed f.filePathName))) ↔
      ∀ f ∈ r.result, Bare (cStr (slashed (encode content f.filePathName))) := List.forall_mem_map
  have hresult : (r.message content).result = [] ↔ r.result = [] := List.map_eq_nil_iff
  have htexts : (∀ s ∈ r.texts, isLiteral (content s) = true) ↔
      Quotable (encode content r.uuid) ∧ Quotable (encode content r.srcNodeId) ∧
        Quotable (encode content r.srcNodeName) ∧ Quotable (encode content r.toNodeId) ∧
          Quotable (encode content r.toNodeName) ∧ Quotable (encode content r.cmdReplyUuid) ∧
            Quotable (encode content r.descStr) := by
    simp [texts, quotable_encode]
  rw [faithful_sentText_iff]
  simp only [List.forall_mem_cons, quotable_description hdoubles, quotable_resStr hdoubles, hnames,
    hresult]
  constructor
  · rintro ⟨h₁, h₂, h₃, h₄, h₅, h₆, ⟨hbare, hnames, hdocument⟩, -, h₇, -⟩
    have hliteral := htexts.mpr ⟨h₁, h₂, h₃, h₄, h₅, h₆, h₇⟩
    exact ⟨hliteral, (huuid (quotable_encode.mp h₁)).mp hbare, hnames, hdocument⟩
  · intro h
    obtain ⟨h₁, h₂, h₃, h₄, h₅, h₆, h₇⟩ := htexts.mp h.literal
    have hbare := (huuid (quotable_encode.mp h₁)).mpr h.uuid
    exact ⟨h₁, h₂, h₃, h₄, h₅, h₆, ⟨hbare, h.names, h.document⟩, h.names, h₇, nofun⟩

theorem length_cStr_encode (s : σ) :
    (cStr (encode content s)).length = bytes (cut (content s)) := by
  rw [cStr_encode, length_flatMap_utf8, bytes]

/-- What replaces the strings does not change the bytes that are not counted. -/
theorem uncounted_of_replaces (h : Replaces harmless content) :
    uncounted (r.message harmless) = uncounted (r.message content) := by
  simp only [uncounted, message, length_cStr_encode, h.bytes_cut]

/-- A name without backslashes stays as it is. -/
theorem slashed_of_bare (h : Bare t) : slashed t = t := by
  refine (List.map_congr_left fun c hc => ?_).trans (List.map_id t)
  exact if_neg (h c hc).1.2.1

theorem cStr_of_bare (h : Bare t) : cStr t = t :=
  cStr_of_not_mem fun hmem => (h 0 hmem).1.2.2 (by decide)

theorem sound_of_replaces (h : Replaces harmless content) : r.Sound doubles harmless where
  literal s _ := h.isLiteral s
  uuid := bare_of_letters (h r.uuid).1
  names f _ := by
    have hname : Bare (encode harmless f.filePathName) := bare_of_letters (h f.filePathName).1
    rwa [slashed_of_bare hname, cStr_of_bare hname]
  document _ := by
    rw [documentStr, encode]
    rcases hparse : parse doubles ((harmless r.desc).flatMap String.utf8EncodeChar) with - | v
    · exact nofun
    · rw [Option.getD_some, texts_of_letters (h r.desc).1 hparse]
      exact nofun

/-- A reply without files, with an empty list for them. -/
def quietReply : Reply (List Char) where
  uuid := ['u']
  cmdType := 3
  srcNodeId := ['n', '1']
  srcNodeName := []
  toNodeId := ['n', '2']
  toNodeName := []
  cmdReplyUuid := ['r']
  desc := ['[', ']']
  descStr := []
  status := 2
  result := []

end Reply

end HandleReply

end NodeCmdTopic

end Sadip
