import Sadip.FileTopic.ReplyTable
import Sadip.Machinery.Sql.Sent

/-!
# FileTopic/ReplyTexts — the strings in the statements of `file_data_reply_in`

The statements of `ReplyTable` as texts with the strings of a reply in them, and when these come
back as they went in (`secure_fileReply_iff`).
-/

namespace Sadip

namespace FileTopic

namespace ReplyTable

open Database Printf Sql

/-! ## Statements as they are printed -/

namespace Statement

/-- The text before each of the arguments. -/
def words : Statement → List String
  | .insert .. =>
      ["insert into file_data_reply (`reply_uuid`,`file_name`,`to_node_id`,`src_node_id`,`sub_dir`," ++
          "`current_block_num`,`total_block_num`,`status_description`,`file_data_status_id`) values('",
        "','", "','", "','", "','", "',", ",", ",'", "',"]
  | .updateBlock .. =>
      ["update file_data_reply set current_block_num=", ",file_data_status_id=",
        "  where reply_uuid='", "' and src_node_id='"]
  | .updateProgress .. =>
      ["update file_data_reply set progress='", "',comm_status_id=4  where reply_uuid='",
        "' and src_node_id='"]
  | .complete .. =>
      ["update file_data_reply set current_block_num=", ", status_description='",
        "',file_data_status_id=5  where reply_uuid='", "' and src_node_id='"]

def args : Statement → List (Arg String)
  | .insert replyUuid fileName toNodeId srcNodeId subDir curBlockSeq totalBlockNum statusDescription
      commStatusId =>
      [.str replyUuid, .str fileName, .str toNodeId, .str srcNodeId, .str subDir,
        .ulong (.ofNat curBlockSeq), .ulong (.ofNat totalBlockNum), .str statusDescription,
        .ulong (.ofNat commStatusId)]
  | .updateBlock curBlockSeq commStatusId replyUuid srcNodeId =>
      [.ulong (.ofNat curBlockSeq), .ulong (.ofNat commStatusId), .str replyUuid, .str srcNodeId]
  | .updateProgress curBlockSeq replyUuid srcNodeId =>
      [.ulong (.ofNat curBlockSeq), .str replyUuid, .str srcNodeId]
  | .complete curBlockSeq statusDescription replyUuid srcNodeId =>
      [.ulong (.ofNat curBlockSeq), .str statusDescription, .str replyUuid, .str srcNodeId]

/-- The conversions of the format, one for each argument. -/
def convs : Statement → List Conv
  | .insert .. => [.s, .s, .s, .s, .s, .llu, .llu, .s, .llu]
  | .updateBlock .. => [.llu, .llu, .s, .s]
  | .updateProgress .. => [.llu, .s, .s]
  | .complete .. => [.llu, .s, .s, .s]

/-- The text behind the last of them. -/
def tail : Statement → String
  | .insert .. => ")"
  | _ => "'"

/-- What `snprintf` makes of format and arguments. -/
def chunks (st : Statement) : List (Chunk String) := weave st.words st.args st.tail

/-- The numbers that are printed. -/
def numbers : Statement → List ℕ
  | .insert _ _ _ _ _ curBlockSeq totalBlockNum _ commStatusId =>
      [curBlockSeq, totalBlockNum, commStatusId]
  | .updateBlock curBlockSeq commStatusId _ _ => [curBlockSeq, commStatusId]
  | .updateProgress curBlockSeq _ _ => [curBlockSeq]
  | .complete curBlockSeq _ _ _ => [curBlockSeq]

/-- The numbers are those of 64 bits. -/
def Sized (st : Statement) : Prop := ∀ n ∈ st.numbers, n < 2 ^ 64

/-- The statement without its strings. -/
def blank : Statement → Statement
  | .insert _ _ _ _ _ curBlockSeq totalBlockNum _ commStatusId =>
      .insert "" "" "" "" "" curBlockSeq totalBlockNum "" commStatusId
  | .updateBlock curBlockSeq commStatusId _ _ => .updateBlock curBlockSeq commStatusId "" ""
  | .updateProgress curBlockSeq _ _ => .updateProgress curBlockSeq "" ""
  | .complete curBlockSeq _ _ _ => .complete curBlockSeq "" "" ""

/-- The statement as it is sent. -/
def sent (st : Statement) : Sent := ⟨st.text.toList, meantTokens String.toList st.chunks⟩

variable {st st' : Statement}

/-- The arguments suit the conversions. -/
theorem suits (st : Statement) : List.Forall₂ Arg.Suits st.args st.convs := by
  cases st <;> simp [args, convs, Arg.Suits]

set_option maxRecDepth 10000 in
/-- The format ends outside its quotes. -/
theorem holes_woven (st : Statement) :
    ∃ hs, holes .start (woven st.words st.convs st.tail) = some (.start, hs) := by
  have h : ((holes .start (woven st.words st.convs st.tail)).map Prod.fst) = some .start := by
    cases st <;> (simp only [words, convs, tail]; decide +kernel)
  obtain ⟨⟨m, hs⟩, hholes, rfl⟩ := Option.map_eq_some_iff.mp h
  exact ⟨hs, hholes⟩

theorem length_words (st : Statement) : st.words.length = st.args.length := by cases st <;> rfl

theorem strings_chunks (st : Statement) : Printf.strings st.chunks = st.strings := by
  rw [← strings_args, chunks, args_weave _ st.length_words]
  cases st <;> rfl

theorem toList_natural {n : ℕ} (h : n < 2 ^ 64) :
    (toString n).toList = decimal ((UInt64.ofNat n).toNat : ℤ) := by
  have hn : (UInt64.ofNat n).toNat = n := by
    rw [UInt64.toNat_ofNat', Nat.mod_eq_of_lt h]
  rw [hn, decimal, if_neg (by omega), Int.natAbs_natCast]
  simp [toString, Nat.repr]

/-- The text up to its first null character. -/
theorem toList_cStr (s : String) : (cStr s).toList = cut s.toList := by
  rw [cStr, String.toList_ofList, cut]

theorem chars_weave_cons (w : String) (ws : List String) (a : Arg String) (as : List (Arg String))
    (tail : String) (print : String → List Char) : chars print (weave (w :: ws) (a :: as) tail) =
      w.toList ++ (a.chars print ++ chars print (weave ws as tail)) := by
  rw [weave, chars_append, chars_literal]
  rfl

theorem chars_weave_nil (tail : String) (print : String → List Char) :
    chars print (weave [] [] tail) = tail.toList := chars_literal _

theorem toList_quoted (s : String) :
    (quoted s).toList = "'".toList ++ (cut s.toList ++ "'".toList) := by
  rw [quoted, String.toList_append, String.toList_append, toList_cStr, List.append_assoc]

theorem toList_whereKey (replyUuid srcNodeId : String) : (whereKey replyUuid srcNodeId).toList =
    "  where reply_uuid='".toList ++ (cut replyUuid.toList ++ ("' and src_node_id='".toList ++
      (cut srcNodeId.toList ++ "'".toList))) := by
  have hopen : "  where reply_uuid='" = "  where reply_uuid=" ++ "'" := rfl
  have hbetween : "' and src_node_id='" = "'" ++ (" and src_node_id=" ++ "'") := rfl
  unfold whereKey
  simp only [String.toList_append, toList_quoted, hopen, hbetween, List.append_assoc]

theorem cut_decimal (v : ℤ) : cut (decimal v) = decimal v :=
  cut_of_not_mem fun h => (mark_of_mem_decimal h).2 rfl

/-- **The text is what is printed** of its words and its strings. -/
theorem toList_text (h : st.Sized) :
    st.text.toList = chars (fun s => cut s.toList) st.chunks := by
  cases st with
  | insert replyUuid fileName toNodeId srcNodeId subDir curBlockSeq totalBlockNum statusDescription
      commStatusId =>
    obtain ⟨hcur, h⟩ := List.forall_mem_cons.mp h
    obtain ⟨htotal, h⟩ := List.forall_mem_cons.mp h
    obtain ⟨hstatus, -⟩ := List.forall_mem_cons.mp h
    have hopen :
        "`current_block_num`,`total_block_num`,`status_description`,`file_data_status_id`) values('" =
          "`current_block_num`,`total_block_num`,`status_description`,`file_data_status_id`) values(" ++
            "'" := rfl
    have hcomma : "','" = "'" ++ ("," ++ "'") := rfl
    have hbefore : "'," = "'" ++ "," := rfl
    have hbehind : ",'" = "," ++ "'" := rfl
    unfold text
    simp only [String.toList_append, String.toList_intercalate, List.map_cons, List.map_nil,
      List.intercalate_cons_cons, List.intercalate_singleton, toList_quoted, toList_natural hcur,
      toList_natural htotal, toList_natural hstatus, chunks, words, args, tail, chars_weave_cons,
      chars_weave_nil, Arg.chars, Arg.number, Option.elim_some, List.append_assoc, hopen, hcomma,
      hbefore, hbehind]
  | updateBlock curBlockSeq commStatusId replyUuid srcNodeId =>
    obtain ⟨hcur, h⟩ := List.forall_mem_cons.mp h
    obtain ⟨hstatus, -⟩ := List.forall_mem_cons.mp h
    unfold text
    simp only [String.toList_append, toList_whereKey, toList_natural hcur, toList_natural hstatus,
      chunks, words, args, tail, chars_weave_cons, chars_weave_nil, Arg.chars, Arg.number,
      Option.elim_some, List.append_assoc]
  | updateProgress curBlockSeq replyUuid srcNodeId =>
    obtain ⟨hcur, -⟩ := List.forall_mem_cons.mp h
    have hopen : "update file_data_reply set progress='" =
      "update file_data_reply set progress=" ++ "'" := rfl
    have hbetween : "',comm_status_id=4  where reply_uuid='" =
      "'" ++ (",comm_status_id=4" ++ "  where reply_uuid='") := rfl
    unfold text
    simp only [String.toList_append, toList_whereKey, toList_natural hcur, toList_quoted,
      cut_decimal, chunks, words, args, tail, chars_weave_cons, chars_weave_nil, Arg.chars,
      Arg.number, Option.elim_some, List.append_assoc, hopen, hbetween]
  | complete curBlockSeq statusDescription replyUuid srcNodeId =>
    obtain ⟨hcur, -⟩ := List.forall_mem_cons.mp h
    have hopen : ", status_description='" = ", status_description=" ++ "'" := rfl
    have hbetween : "',file_data_status_id=5  where reply_uuid='" =
      "'" ++ (",file_data_status_id=5" ++ "  where reply_uuid='") := rfl
    unfold text
    simp only [String.toList_append, toList_whereKey, toList_natural hcur, toList_quoted,
      chunks, words, args, tail, chars_weave_cons, chars_weave_nil, Arg.chars, Arg.number,
      Option.elim_some, List.append_assoc, hopen, hbetween]

/-- The format prints the chunks. -/
theorem prints_chunks (st : Statement) :
    List.Forall₂ Prints (woven st.words st.convs st.tail) st.chunks :=
  prints_weave st.suits st.tail st.words

/-- **What is sent is what the format prints**, if the numbers have 64 bits. -/
theorem sent_eq_send (h : st.Sized) :
    st.sent = send (fun s => cut s.toList) String.toList st.chunks := by
  rw [sent, toList_text h, send]

/-- **A statement is faithful** exactly if its strings are literal. -/
theorem faithful_sent_iff (h : st.Sized) :
    st.sent.Faithful ↔ ∀ s ∈ st.strings, isLiteral s.toList = true := by
  obtain ⟨hs, hholes⟩ := st.holes_woven
  rw [sent_eq_send h, faithful_send_iff (fun _ => rfl) hholes st.prints_chunks, strings_chunks]

/-- The size of the text: that of the words and numbers, and that of the strings. -/
theorem utf8ByteSize_text (h : st.Sized) : st.text.utf8ByteSize =
    Printf.size (fun _ => []) (weave st.words (st.args.map blankArg) st.tail) +
      (st.strings.map fun s => bytes (cut s.toList)).sum := by
  rw [utf8ByteSize_eq_bytes, toList_text h, ← strings_chunks, ← map_blank_weave]
  exact size_eq_blank _ _

/-! ### Statements that differ in their strings -/

theorem words_blank (st : Statement) : st.blank.words = st.words := by cases st <;> rfl

theorem convs_blank (st : Statement) : st.blank.convs = st.convs := by cases st <;> rfl

theorem tail_blank (st : Statement) : st.blank.tail = st.tail := by cases st <;> rfl

theorem map_blank_args (st : Statement) :
    st.args.map blankArg = st.blank.args.map fun a => blankArg a := by cases st <;> rfl

/-- Statements that differ in their strings are as long, if their strings are. -/
theorem fits_congr (hblank : st.blank = st'.blank) (h : st.Sized) (h' : st'.Sized)
    (hbytes : st.strings.map (fun s => bytes (cut s.toList)) =
      st'.strings.map fun s => bytes (cut s.toList)) : st.Fits ↔ st'.Fits := by
  rw [Fits, Fits, utf8ByteSize_text h, utf8ByteSize_text h', hbytes, ← words_blank st,
    ← tail_blank st, map_blank_args st, hblank, words_blank, tail_blank, ← map_blank_args]

/-- The shape of a statement that is read as meant depends on its words and numbers only. -/
theorem shape_sent (hblank : st.blank = st'.blank) (h : st.Sized) (h' : st'.Sized)
    (hf : st.sent.Faithful) (hf' : st'.sent.Faithful) : st.sent.shape = st'.sent.shape := by
  obtain ⟨hs, hholes⟩ := st.holes_woven
  have hwoven : woven st'.words st'.convs st'.tail = woven st.words st.convs st.tail := by
    rw [← words_blank st', ← convs_blank st', ← tail_blank st', ← hblank, words_blank, convs_blank,
      tail_blank]
  have hprints := st'.prints_chunks
  rw [hwoven] at hprints
  rw [sent_eq_send h] at hf ⊢
  rw [sent_eq_send h'] at hf' ⊢
  refine shape_send hholes st.prints_chunks hprints ?_ hf hf'
  rw [chunks, chunks, args_weave _ st.length_words, args_weave _ st'.length_words,
    map_blank_args st, hblank, ← map_blank_args]

end Statement

/-! ## Replies -/

variable {σ : Type}

/-- A reply as it is received; `σ` are its strings. -/
structure FileReply (σ : Type) where
  uuid : σ
  srcNodeId : σ
  toNodeId : σ
  fileName : σ
  replyUuid : σ
  subDir : σ
  isEnd : Bool
  blockSeq : UInt64
  totalBlockNum : UInt64
  fileTotalSize : UInt64
  blockLosts : List UInt64
  state : Int64

namespace FileReply

variable (r : FileReply σ)

/-- Its arrival, when it has these strings and the first statement fares like this. -/
def arrival (first : Answer) (content : σ → List Char) : Arrival where
  reply := {
    uuid := .ofList (content r.uuid)
    srcNodeId := .ofList (content r.srcNodeId)
    toNodeId := .ofList (content r.toNodeId)
    fileName := .ofList (content r.fileName)
    replyUuid := .ofList (content r.replyUuid)
    subDir := .ofList (content r.subDir)
    isEnd := r.isEnd
    blockSeq := r.blockSeq.toNat
    totalBlockNum := r.totalBlockNum.toNat
    fileTotalSize := r.fileTotalSize.toNat
    blockLosts := r.blockLosts.map (·.toNat)
    state := r.state.toInt }
  first

/-- `block_seq() + 1`, with 64 bits. -/
def curBlockSeq : ℕ := (r.blockSeq.toNat + 1) % 2 ^ 64

/-- The state as an unsigned number. -/
def commStatusId : ℕ := (r.state.toInt % 2 ^ 64).toNat

/-- The strings that are printed. -/
def texts : List σ :=
  if (r.commStatusId = 1 ∨ r.commStatusId = 5) ∧ r.curBlockSeq = 1 then
    [r.replyUuid, r.fileName, r.toNodeId, r.srcNodeId, r.subDir]
  else if r.commStatusId = 5 then [r.fileName, r.replyUuid, r.srcNodeId]
  else if r.commStatusId ∈ [1, 3, 4] then [r.replyUuid, r.srcNodeId]
  else []

/-- The statements that are made of it. -/
def statements (first : Answer) (content : σ → List Char) : List Statement :=
  (r.arrival first content).reached.map Prod.fst

/-- What is sent, if it fits. -/
def sent (first : Answer) (content : σ → List Char) : Option (List Sent) :=
  if ∀ st ∈ r.statements first content, st.Fits then
    some ((r.statements first content).map Statement.sent)
  else none

end FileReply

/-! ### Statements with the strings left open -/

/-- A string of a reply, with some words behind it. -/
structure Part (σ : Type) where
  own : σ
  more : String
  literal : isLiteral more.toList = true
  apart : ∀ c ∈ more.toList.head?, c ≠ '%' ∧ c ≠ '_'

namespace Part

/-- The part as it is spelt, with what the code puts behind it. -/
def value (p : Part σ) (content : σ → List Char) : String := .ofList (content p.own) ++ p.more

/-- A string that stands alone. -/
def whole (s : σ) : Part σ := ⟨s, "", rfl, nofun⟩

variable {p : Part σ} {content harmless : σ → List Char}

theorem value_whole (s : σ) : (whole s).value content = .ofList (content s) := String.append_empty

theorem toList_value : (p.value content).toList = content p.own ++ p.more.toList := by
  rw [value, String.toList_append, String.toList_ofList]

theorem isLiteral_value : isLiteral (p.value content).toList = isLiteral (content p.own) := by
  rw [toList_value, isLiteral_append p.apart, p.literal, Bool.and_true]

/-- What replaces the strings has the same number of bytes. -/
theorem bytes_value (h : Replaces harmless content) (hp : isLiteral (content p.own) = true) :
    bytes (cut (p.value harmless).toList) = bytes (cut (p.value content).toList) := by
  have hcut : ∀ {content : σ → List Char}, isLiteral (content p.own) = true →
      cut (p.value content).toList = cut (content p.own) ++ p.more.toList := by
    intro content hp
    rw [cut_of_not_mem (not_mem_of_isLiteral (isLiteral_value.trans hp)), toList_value,
      cut_of_not_mem (not_mem_of_isLiteral hp)]
  rw [hcut hp, hcut (h.isLiteral _), bytes_append, bytes_append, h.bytes_cut]

end Part

/-- A statement for whatever the strings are. -/
structure Form (σ : Type) where
  parts : List (Part σ)
  statement : (σ → List Char) → Statement
  strings : ∀ content, (statement content).strings = parts.map (·.value content)
  sized : ∀ content, (statement content).Sized
  blank : ∀ content content', (statement content).blank = (statement content').blank

namespace Form

variable {F : Form σ} {content harmless : σ → List Char}

/-- A statement is read as meant exactly if its strings are literal. -/
theorem faithful_iff (F : Form σ) (content : σ → List Char) :
    (F.statement content).sent.Faithful ↔ ∀ p ∈ F.parts, isLiteral (content p.own) = true := by
  rw [Statement.faithful_sent_iff (F.sized content), F.strings, List.forall_mem_map]
  simp only [Part.isLiteral_value]

theorem fits_iff (h : Replaces harmless content)
    (hF : ∀ p ∈ F.parts, isLiteral (content p.own) = true) :
    (F.statement harmless).Fits ↔ (F.statement content).Fits := by
  refine Statement.fits_congr (F.blank _ _) (F.sized _) (F.sized _) ?_
  rw [F.strings, F.strings, List.map_map, List.map_map]
  exact List.map_congr_left fun p hp => Part.bytes_value h (hF p hp)

theorem shape_eq (h : (F.statement harmless).sent.Faithful)
    (h' : (F.statement content).sent.Faithful) :
    (F.statement harmless).sent.shape = (F.statement content).sent.shape :=
  Statement.shape_sent (F.blank _ _) (F.sized _) (F.sized _) h h'

end Form

namespace FileReply

variable (r : FileReply σ)

theorem curBlockSeq_lt : r.curBlockSeq < 2 ^ 64 := Nat.mod_lt _ (by decide)

theorem commStatusId_lt : r.commStatusId < 2 ^ 64 := by
  rw [commStatusId]
  omega

theorem toList_sending : (" " ++ toString r.curBlockSeq ++ " Send ...").toList =
    ' ' :: decimal ((UInt64.ofNat r.curBlockSeq).toNat : ℤ) ++ " Send ...".toList := by
  rw [String.toList_append, String.toList_append, Statement.toList_natural r.curBlockSeq_lt]
  rfl

/-- The description of a file that is being sent… -/
def sending : Part σ where
  own := r.fileName
  more := " " ++ toString r.curBlockSeq ++ " Send ..."
  literal := by
    rw [toList_sending]
    refine isLiteral_of_forall (List.forall_mem_append.mpr ⟨List.forall_mem_cons.mpr
      ⟨⟨rfl, by decide⟩, fun c hc => mark_of_mem_decimal hc⟩, ?_⟩)
    exact List.all_iff_forall_prop.mp (by decide)
  apart := by
    rw [toList_sending]
    rintro c ⟨⟩
    decide

/-- …and of one that has been sent. -/
def confirmed : Part σ where
  own := r.fileName
  more := " Send sucess!"
  literal := by decide
  apart := by
    rintro c ⟨⟩
    decide

/-- The row for the first block. -/
def insertion (description : Part σ) : Form σ where
  parts := [.whole r.replyUuid, .whole r.fileName, .whole r.toNodeId, .whole r.srcNodeId,
    .whole r.subDir, description]
  statement content := (r.arrival .executed content).insertion (description.value content)
  strings content := by
    simp only [List.map_cons, List.map_nil, Part.value_whole]
    rfl
  sized content := by
    have htotal := r.totalBlockNum.toNat_lt
    exact List.forall_mem_cons.mpr ⟨r.curBlockSeq_lt, List.forall_mem_cons.mpr
      ⟨htotal, List.forall_mem_singleton.mpr r.commStatusId_lt⟩⟩
  blank _ _ := rfl

def blockUpdate : Form σ where
  parts := [.whole r.replyUuid, .whole r.srcNodeId]
  statement content := (r.arrival .executed content).blockUpdate
  strings content := by
    simp only [List.map_cons, List.map_nil, Part.value_whole]
    rfl
  sized content := List.forall_mem_cons.mpr
    ⟨r.curBlockSeq_lt, List.forall_mem_singleton.mpr r.commStatusId_lt⟩
  blank _ _ := rfl

def progressUpdate : Form σ where
  parts := [.whole r.replyUuid, .whole r.srcNodeId]
  statement content := .updateProgress r.curBlockSeq (.ofList (content r.replyUuid))
    (.ofList (content r.srcNodeId))
  strings content := by
    simp only [List.map_cons, List.map_nil, Part.value_whole]
    rfl
  sized content := List.forall_mem_singleton.mpr r.curBlockSeq_lt
  blank _ _ := rfl

/-- The last update, with the state of the transfer. -/
def completion : Form σ where
  parts := [r.confirmed, .whole r.replyUuid, .whole r.srcNodeId]
  statement content := (r.arrival .executed content).completion
  strings content := by
    simp only [List.map_cons, List.map_nil, Part.value_whole]
    rfl
  sized content := List.forall_mem_singleton.mpr r.curBlockSeq_lt
  blank _ _ := rfl

/-- The statements the code comes to. -/
def forms (first : Answer) : List (Form σ) :=
  if r.commStatusId = 1 then
    [if r.curBlockSeq = 1 then r.insertion r.sending else r.blockUpdate]
  else if r.commStatusId = 3 then [r.blockUpdate]
  else if r.commStatusId = 4 then [r.progressUpdate]
  else if r.commStatusId = 5 then
    if r.curBlockSeq = 1 then
      if first = .executed then [r.insertion r.confirmed, r.completion]
        else [r.insertion r.confirmed]
    else [r.completion]
  else []

variable {r} {first : Answer} {content harmless : σ → List Char}

/-- **What the code makes of a reply are these forms**, spelt out. -/
theorem statements_eq : r.statements first content = (r.forms first).map (·.statement content) := by
  have hstatus : (r.arrival first content).commStatusId = r.commStatusId := rfl
  have hcur : (r.arrival first content).curBlockSeq = r.curBlockSeq := rfl
  have hfirst : (r.arrival first content).first = first := rfl
  have hconnected : (r.arrival first content).connected = true := rfl
  have hdescription : String.ofList (content r.fileName) ++ " " ++ toString r.curBlockSeq ++
      " Send ..." = r.sending.value content := by
    show _ = String.ofList (content r.fileName) ++ (" " ++ toString r.curBlockSeq ++ " Send ...")
    rw [String.append_assoc, String.append_assoc, String.append_assoc]
  rw [statements, Arrival.reached, forms]
  simp only [hstatus, hcur, hfirst, hconnected, Bool.not_true, Bool.false_eq_true, false_or,
    Arrival.sending]
  split_ifs
  · exact congrArg (fun d => [(r.arrival .executed content).insertion d]) hdescription
  all_goals rfl

/-! ### The strings of each of them -/

variable {D : σ → Prop}

theorem forall_insertion {p : Part σ} (hp : p.own = r.fileName) :
    (∀ q ∈ (r.insertion p).parts, D q.own) ↔
      ∀ s ∈ [r.replyUuid, r.fileName, r.toNodeId, r.srcNodeId, r.subDir], D s := by
  simp [insertion, Part.whole, hp]
  tauto

theorem forall_update : (∀ q ∈ [Part.whole r.replyUuid, .whole r.srcNodeId], D q.own) ↔
    ∀ s ∈ [r.replyUuid, r.srcNodeId], D s := by
  simp [Part.whole]

theorem forall_completion : (∀ q ∈ r.completion.parts, D q.own) ↔
    ∀ s ∈ [r.fileName, r.replyUuid, r.srcNodeId], D s := by
  simp [completion, confirmed, Part.whole]

/-- A confirmed transfer: a first block is inserted before it is completed. -/
theorem forms_of_confirmed (h5 : r.commStatusId = 5) : r.forms first =
    if r.curBlockSeq = 1 then
      if first = .executed then [r.insertion r.confirmed, r.completion]
        else [r.insertion r.confirmed]
    else [r.completion] := by
  rw [forms, if_neg (by omega), if_neg (by omega), if_neg (by omega), if_pos h5]

theorem texts_of_update (h : r.commStatusId = 1 ∧ r.curBlockSeq ≠ 1 ∨ r.commStatusId = 3 ∨
    r.commStatusId = 4) : r.texts = [r.replyUuid, r.srcNodeId] := by
  rw [texts, if_neg (by omega), if_neg (by omega), if_pos]
  simp only [List.mem_cons, List.not_mem_nil, or_false]
  omega

theorem forall_forms (first : Answer) :
    (∀ F ∈ r.forms first, ∀ p ∈ F.parts, D p.own) ↔ ∀ s ∈ r.texts, D s := by
  by_cases h1 : r.commStatusId = 1
  · rw [forms, if_pos h1, List.forall_mem_singleton]
    by_cases hcur : r.curBlockSeq = 1
    · rw [if_pos hcur, show r.texts = _ from if_pos ⟨.inl h1, hcur⟩]
      exact forall_insertion rfl
    · rw [if_neg hcur, texts_of_update (.inl ⟨h1, hcur⟩)]
      exact forall_update
  by_cases h5 : r.commStatusId = 5
  · rw [forms_of_confirmed h5]
    by_cases hcur : r.curBlockSeq = 1
    · rw [if_pos hcur, show r.texts = _ from if_pos ⟨.inr h5, hcur⟩]
      split_ifs
      · -- the update has no string that the insertion has not
        rw [List.forall_mem_cons, List.forall_mem_singleton, forall_insertion rfl,
          forall_completion]
        refine and_iff_left_of_imp fun h s hs => h s ?_
        simp only [List.mem_cons, List.not_mem_nil, or_false] at hs ⊢
        tauto
      · rw [List.forall_mem_singleton]
        exact forall_insertion rfl
    · rw [if_neg hcur, texts, if_neg fun h => hcur h.2, if_pos h5, List.forall_mem_singleton]
      exact forall_completion
  rw [forms, if_neg h1]
  by_cases h3 : r.commStatusId = 3
  · rw [if_pos h3, List.forall_mem_singleton, texts_of_update (.inr (.inl h3))]
    exact forall_update
  by_cases h4 : r.commStatusId = 4
  · rw [if_neg h3, if_pos h4, List.forall_mem_singleton, texts_of_update (.inr (.inr h4))]
    exact forall_update
  · rw [if_neg h3, if_neg h4, if_neg h5, texts, if_neg fun h => h.1.elim h1 h5, if_neg h5,
      if_neg (by simp [h1, h3, h4])]
    simp only [List.not_mem_nil, false_imp_iff, implies_true]

end FileReply

end ReplyTable

end FileTopic

end Sadip
