import Sadip.Machinery.Json.Shortest
import Sadip.NodeCmdTopic.ReplyTexts

/-!
# NodeCmdTopic/Stored — the listing in the row of a reply

`handle_reply` pastes its strings between quotes as they are, the two documents among them.  So the
row that the server reads is that of the reply, with the directories and then the files in both
documents, exactly if no string has to be escaped, in JSON or in SQL (`storesListing_iff`).

A document may be read as another text that parses to the same value.  But no text of a value is
shorter than the one that was written, so a document that has lost a character between the quotes is
no document of the listing any more.
-/

namespace Sadip

namespace NodeCmdTopic

namespace HandleReply

open Json Sql
open Printf (Arg Chunk Conv chars)

variable {D : Type} {doubles : Doubles D} {r : NodeCmdReply}

/-! ## The row -/

/-- The row of a reply, when the documents are these. -/
def replyRow (r : NodeCmdReply) (description result : Text) : List (String × Token) :=
  columns.zip [.text (latin1 r.uuid), .text (latin1 r.srcNodeId), .text (latin1 r.srcNodeName),
    .text (latin1 r.toNodeId), .text (latin1 r.toNodeName), .text (latin1 r.cmdReplyUuid),
    .text (latin1 description), .text (latin1 result), .number r.status.toInt,
    .number r.cmdType.toInt, .text (latin1 r.descStr)]

/-- The statement fits into its buffer, and the server reads from it the row of the reply, with the
listing in `description` and in `result`. -/
def StoresListing (doubles : Doubles D) (r : NodeCmdReply) : Prop :=
  (cmdReplySql doubles r).length + 1 ≤ allocated doubles r ∧
    ∃ description result, tokens (latin1 (cmdReplySql doubles r)) =
        some (insertOf id "node_cmd_reply" (replyRow r description result)) ∧
      parse doubles description = some (descriptionObject r (.array (listing r.result))) ∧
      parse doubles result = some (fileInfosObject (listing r.result))

theorem fill_statement (doubles : Doubles D) (r : NodeCmdReply) :
    fill latin1 (insertOf .token "node_cmd_reply" (columns.zip rowHoles))
      (Printf.args (chunks doubles r)) = insertOf id "node_cmd_reply"
        (replyRow r (description doubles r) (resStr doubles r)) := by
  rw [chunks, args_weave _ (by rfl)]
  rfl

theorem letters_replyRow (r : NodeCmdReply) (description result : Text) :
    letters (insertOf id "node_cmd_reply" (replyRow r description result)) =
      [some (latin1 r.uuid), some (latin1 r.srcNodeId), some (latin1 r.srcNodeName),
        some (latin1 r.toNodeId), some (latin1 r.toNodeName), some (latin1 r.cmdReplyUuid),
        some (latin1 description), some (latin1 result), none, none, some (latin1 r.descStr)] := rfl

/-! ## The documents -/

/-- A string that is read as it is, or a document of which nothing is lost. -/
def Kept (s u : List Char) : Prop :=
  s = u ∨ '\x00' ∉ s ∧ (∀ c ∈ s.getLast?, isPlain c = true) ∧ s.length ≤ u.length

theorem recognises_kept : Recognises Kept := by
  rintro s u rest t d m ts hd hd0 (rfl | ⟨hnul, hlast, hle⟩) h
  · exact isLiteral_of_scan hd hd0 h
  · exact isLiteral_of_length_le hd hlast hnul hle h

/-- A document that still has its value. -/
theorem kept_of_parse {ms : List (Text × Value D)} (hexact : Exact (.object ms)) {t : Text}
    (h : parse doubles t = some (.object ms)) :
    Kept (latin1 (write doubles (.object ms))) (latin1 t) := by
  refine .inr ⟨fun hmem => ?_, fun c hc => ?_, ?_⟩
  · obtain ⟨b, hb, heq⟩ := List.mem_map.mp hmem
    have hzero : b = 0 := by
      by_contra hne
      exact char_ne hne heq
    exact hexact.visible b hb (by rw [hzero]; decide)
  · rw [write, latin1_append, List.getLast?_append] at hc
    obtain rfl : '}' = c := Option.some.inj hc
    rfl
  · rw [latin1, latin1, List.length_map, List.length_map]
    exact length_write_le hexact h

theorem bare_listing {result : List File} (hname : ∀ f ∈ result, 0 ∉ f.filePathName) :
    (∀ s ∈ textsOfElements (listing result : List (Value D)), Bare s) ↔
      ∀ f ∈ result, Bare (slashed f.filePathName) := by
  rw [← fileInfos_eq_listing hname, bare_fileInfos]
  refine forall₂_congr fun f hf => ?_
  rw [cStr_of_not_mem (zero_not_mem_slashed (hname f hf))]

theorem quotable_documents (doubles : Doubles D) (hne : r.result ≠ [])
    (hname : ∀ f ∈ r.result, 0 ∉ f.filePathName) :
    Quotable (description doubles r) ∧ Quotable (resStr doubles r) ↔
      Bare (cStr r.uuid) ∧ ∀ f ∈ r.result, Bare (slashed f.filePathName) := by
  have htexts : ∀ s : Text, s ∈ (fileInfosObject (listing r.result) : Value D).texts ↔
      s = utf8 "FileInfos" ∨ s ∈ textsOfElements (listing r.result : List (Value D)) := by
    simp [fileInfosObject, Value.texts, textsOfMembers]
  have hbare : Bare (utf8 "FileInfos") := by decide
  rw [description_eq doubles hne hname, resStr_eq doubles hne hname,
    quotable_write_of_exact (exact_descriptionObject r (exact_listing _)),
    quotable_write_of_exact (exact_fileInfosObject (exact_listing _)), bare_descriptionObject]
  simp only [htexts, forall_eq_or_imp, hbare, true_and]
  show (_ ∧ ∀ s ∈ textsOfElements (listing r.result : List (Value D)), Bare s) ∧ _ ↔ _
  rw [bare_listing hname]
  exact ⟨And.left, fun h => ⟨h, h.2⟩⟩

theorem bare_cStr_of_quotable {t : Text} (h : Quotable t) : Bare (cStr t) ↔ Bare t := by
  rw [cStr_of_not_mem fun hmem => ?_]
  exact not_mem_of_isLiteral h (List.mem_map.mpr ⟨0, hmem, rfl⟩)

theorem quotable_of_bare {t : Text} (h : Bare t) : Quotable t :=
  quotable_of_forall fun c hc => ordinary_of_plain (h c hc).1 (h c hc).2

/-! ## What is stored -/

/-- The texts of which nothing has to be escaped, and those in a document that have no quote and no
control character either. -/
theorem quotable_strings_iff (doubles : Doubles D) (hne : r.result ≠ [])
    (hname : ∀ f ∈ r.result, 0 ∉ f.filePathName) :
    (∀ s ∈ Printf.strings (chunks doubles r), Quotable s) ↔
      (∀ t ∈ [r.srcNodeId, r.srcNodeName, r.toNodeId, r.toNodeName, r.cmdReplyUuid, r.descStr],
        Quotable t) ∧ Bare r.uuid ∧ ∀ f ∈ r.result, Bare (slashed f.filePathName) := by
  have hdocuments := quotable_documents doubles hne hname
  rw [strings_chunks]
  simp only [List.forall_mem_cons, List.not_mem_nil, IsEmpty.forall_iff, implies_true, and_true]
  constructor
  · rintro ⟨huuid, h₁, h₂, h₃, h₄, h₅, hd, hr, h₆⟩
    obtain ⟨hbare, hnames⟩ := hdocuments.mp ⟨hd, hr⟩
    exact ⟨⟨h₁, h₂, h₃, h₄, h₅, h₆⟩, (bare_cStr_of_quotable huuid).mp hbare, hnames⟩
  · rintro ⟨⟨h₁, h₂, h₃, h₄, h₅, h₆⟩, hbare, hnames⟩
    have huuid := quotable_of_bare hbare
    obtain ⟨hd, hr⟩ := hdocuments.mpr ⟨(bare_cStr_of_quotable huuid).mpr hbare, hnames⟩
    exact ⟨huuid, h₁, h₂, h₃, h₄, h₅, hd, hr, h₆⟩

/-- The letters of the row that was meant, and those of a row with the listing. -/
theorem kept_letters {d s : Text} (hne : r.result ≠ []) (hname : ∀ f ∈ r.result, 0 ∉ f.filePathName)
    (hd : parse doubles d = some (descriptionObject r (.array (listing r.result))))
    (hs : parse doubles s = some (fileInfosObject (listing r.result))) :
    List.Forall₂ (Option.Rel Kept) (letters (insertOf id "node_cmd_reply"
        (replyRow r (description doubles r) (resStr doubles r))) ++ [])
      (letters (insertOf id "node_cmd_reply" (replyRow r d s)) ++ []) := by
  have hsame : ∀ cs : List Char, Option.Rel Kept (some cs) (some cs) := fun cs => .some (.inl rfl)
  have hdescription := kept_of_parse (exact_descriptionObject r (exact_listing _)) hd
  have hresult := kept_of_parse (exact_fileInfosObject (exact_listing _)) hs
  rw [letters_replyRow, letters_replyRow, List.append_nil, List.append_nil,
    description_eq doubles hne hname, resStr_eq doubles hne hname]
  exact .cons (hsame _) (.cons (hsame _) (.cons (hsame _) (.cons (hsame _) (.cons (hsame _)
    (.cons (hsame _) (.cons (.some hdescription) (.cons (.some hresult) (.cons .none
      (.cons .none (.cons (hsame _) .nil))))))))))

/-- No other text is read as a row with the listing. -/
theorem quotable_of_storesListing (hne : r.result ≠ [])
    (hname : ∀ f ∈ r.result, 0 ∉ f.filePathName) (h : StoresListing doubles r) :
    ∀ s ∈ Printf.strings (chunks doubles r), Quotable s := by
  obtain ⟨-, d, s, htokens, hd, hs⟩ := h
  rw [latin1_cmdReplySql, tokens] at htokens
  split at htokens
  · next ts hscan =>
      obtain rfl := Option.some.inj htokens
      have hletters := kept_letters hne hname hd hs
      rw [← fill_statement] at hletters
      exact (printing_of_holes holes_statement prints_chunks).literal recognises_kept
        (fun _ => rfl) hscan hletters
  · cases htokens

/-- A file in a directory, with a backslash, and the directory. -/
def mixedReply : NodeCmdReply where
  uuid := utf8 "u"
  cmdType := 3
  srcNodeId := utf8 "n1"
  srcNodeName := []
  toNodeId := utf8 "n2"
  toNodeName := []
  cmdReplyUuid := utf8 "r"
  desc := []
  descStr := []
  status := 2
  result := [⟨utf8 "d\\f", false, 3, 7⟩, ⟨utf8 "d", true, 0, 5⟩]

/-- A file with a quote in its name. -/
def quoteReply : NodeCmdReply := { mixedReply with result := [⟨utf8 "it's", false, 3, 7⟩] }

end HandleReply

end NodeCmdTopic

end Sadip
