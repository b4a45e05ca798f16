import Sadip.Commands.Worker
import Sadip.NodeCmdTopic.Reply

/-!
# Commands/Listing — the lists of applications and plugins as JSON, `node/src/NodeCmdWorker.cpp`

`setLsAppDesc` and `setLsPluginDesc` put the text of an array together by hand: the strings stand
between quotes as they are.  The manager reads the text with a JSON library.  It reads what was
meant if and only if no string has a quote, a backslash or a control character (`lists_iff`).
-/

namespace Sadip

namespace Commands

namespace Listing

open Json NodeCmdTopic.HandleReply
open ProcessManager (ProcessAttribute)
open NodeCmdWorker (appDesc setLsAppDesc)
open Worker (insertBundle bundleDesc pluginDesc)

/-! ## Bytes of texts -/

theorem utf8_append (s t : String) : utf8 (s ++ t) = utf8 s ++ utf8 t := by
  rw [utf8, String.toList_append, List.flatMap_append]
  rfl

theorem utf8Size_of_isDigit {c : Char} (h : c.isDigit = true) : c.utf8Size = 1 := by
  rw [Char.isDigit, Bool.and_eq_true, decide_eq_true_eq, decide_eq_true_eq] at h
  exact Char.utf8Size_eq_one_iff.mpr (UInt32.le_trans h.2 (by decide))

theorem utf8_of_isDigit : ∀ {cs : List Char}, (∀ c ∈ cs, c.isDigit = true) →
    cs.flatMap String.utf8EncodeChar = cs.map Char.toUInt8
  | [], _ => rfl
  | c :: cs, h => by
      obtain ⟨hc, hcs⟩ := List.forall_mem_cons.mp h
      rw [List.flatMap_cons, utf8_of_isDigit hcs,
        String.utf8EncodeChar_eq_singleton (utf8Size_of_isDigit hc)]
      rfl

theorem utf8_repr (n : ℕ) : utf8 n.repr = natural n := by
  rw [utf8, Nat.toList_repr, utf8_of_isDigit
    fun _ => Nat.isDigit_of_mem_toDigits (by decide) (by decide)]
  rfl

/-- A number is one byte a digit. -/
theorem utf8_toString (v : ℤ) : utf8 (toString v) = decimal v := by
  rw [Int.toString_eq_repr, Int.repr_eq_if, decimal, Printf.decimal]
  split_ifs with hnonneg hneg hneg
  · omega
  · rw [utf8_repr, show v.toNat = v.natAbs by omega]
    rfl
  · rw [utf8_append, utf8_repr, show (-v).toNat = v.natAbs by omega]
    rfl
  · omega

/-! ## The lists by hand -/

/-- What the listing says of an application; the second parameter is always a blank. -/
def appMembers (p : ProcessAttribute) : List (Text × Raw) :=
  [(utf8 "id", .int p.child.id), (utf8 "state", .string (utf8 (if p.exceptionFlag then "0" else "1"))),
    (utf8 "uuid", .string (utf8 p.uuid)), (utf8 "launch_cmd", .string (utf8 p.launchCmd)),
    (utf8 "paras1", .string (utf8 p.workPath)), (utf8 "paras2", .string (utf8 " "))]

/-- What the listing says of a bundle; its state stands between quotes. -/
def bundleMembers (b : Bundle) : List (Text × Raw) :=
  [(utf8 "id", .int b.id), (utf8 "SymbolicName", .string (utf8 b.symbolicName)),
    (utf8 "State", .string (decimal b.state))]

section

variable {β : Type} {desc : β → String} {object : β → Text}

/-- The text grows at its end. -/
theorem foldl_append_eq_join : ∀ (bs : List β) (json : String),
    bs.foldl (fun json b => json ++ desc b) json = json ++ String.join (bs.map desc)
  | [], json => (String.append_empty).symm
  | b :: bs, json => by
      rw [List.foldl_cons, foldl_append_eq_join bs, List.map_cons, String.join_cons,
        String.append_assoc]

/-- Each entry has a comma behind it, also the last. -/
theorem utf8_join_map (hdesc : ∀ b, ∃ s, desc b = s ++ "," ∧ utf8 s = object b) :
    ∀ bs : List β,
      utf8 (String.join (bs.map desc)) = (bs.map object).flatMap (· ++ [','.toUInt8])
  | [] => rfl
  | b :: bs => by
      obtain ⟨s, hs, hobject⟩ := hdesc b
      rw [List.map_cons, String.join_cons, utf8_append, utf8_join_map hdesc bs, hs, utf8_append,
        hobject, List.map_cons, List.flatMap_cons]
      rfl

/-- Objects, each with a comma behind it, and the last comma replaced by a bracket.  The test of the
size, against `1` or `2`, asks whether there was an object. -/
theorem utf8_trimmed {least : ℕ} (h : 1 ≤ least) (h' : least ≤ 2)
    (hdesc : ∀ b, ∃ s, desc b = s ++ "," ∧ utf8 s = object b) (hne : ∀ b, object b ≠ [])
    (bs : List β) :
    utf8 (let json := bs.foldl (fun json b => json ++ desc b) "["
      if json.utf8ByteSize > least then String.ofList json.toList.dropLast ++ "]" else json ++ "]") =
      '['.toUInt8 :: commas (bs.map object) ++ [']'.toUInt8] := by
  rcases List.eq_nil_or_concat bs with rfl | ⟨cs, b, rfl⟩
  · have hsize : ¬ "[".utf8ByteSize > least := Nat.not_lt.mpr h
    show utf8 (if "[".utf8ByteSize > least then _ else "[" ++ "]") = _
    rw [if_neg hsize]
    rfl
  · obtain ⟨s, hs, hobject⟩ := hdesc b
    have hjson : (cs.concat b).foldl (fun json b => json ++ desc b) "[" =
        "[" ++ String.join (cs.map desc) ++ s ++ "," := by
      rw [List.concat_eq_append, List.foldl_append, foldl_append_eq_join cs, List.foldl_cons,
        List.foldl_nil, hs, ← String.append_assoc]
    have hsize : ("[" ++ String.join (cs.map desc) ++ s ++ ",").utf8ByteSize > least := by
      have hpos : s.utf8ByteSize ≠ 0 := by
        rw [Ne, String.utf8ByteSize_eq_zero_iff]
        rintro rfl
        exact hne b hobject.symm
      have hbracket : "[".utf8ByteSize = 1 := rfl
      have hcomma : ",".utf8ByteSize = 1 := rfl
      simp only [String.utf8ByteSize_append]
      omega
    simp only [hjson, if_pos hsize]
    rw [String.toList_append, show ",".toList = [','] from rfl, List.dropLast_concat,
      String.ofList_toList, utf8_append, utf8_append, utf8_append, utf8_join_map hdesc, hobject,
      List.concat_eq_append, List.map_append, List.map_singleton, commas_concat]
    simp only [List.cons_append, List.append_assoc]
    rfl

end

theorem append_end (s : String) : s ++ "\x7d," = s ++ "\x7d" ++ "," := by
  rw [String.append_assoc, show "\x7d," = "\x7d" ++ "," by decide]

theorem utf8_open : utf8 "\x7b\"id\":" =
    '{'.toUInt8 :: (writeString (utf8 "id") ++ [':'.toUInt8]) := by decide

theorem utf8_quote : utf8 "\"" = ['"'.toUInt8] := by decide

theorem utf8_close : utf8 "\x7d" = ['}'.toUInt8] := by decide

/-- The text of an application is an object put together by hand, and a comma. -/
theorem exists_appDesc (p : ProcessAttribute) :
    ∃ s, appDesc p = s ++ "," ∧ utf8 s = rawObject (appMembers p) := by
  refine ⟨_, append_end _, ?_⟩
  have hstate : utf8 ",\"state\":\"" =
    ','.toUInt8 :: (writeString (utf8 "state") ++ [':'.toUInt8, '"'.toUInt8]) := by decide
  have huuid : utf8 ",\"uuid\":\"" =
    ','.toUInt8 :: (writeString (utf8 "uuid") ++ [':'.toUInt8, '"'.toUInt8]) := by decide
  have hlaunch : utf8 ",\"launch_cmd\":\"" =
    ','.toUInt8 :: (writeString (utf8 "launch_cmd") ++ [':'.toUInt8, '"'.toUInt8]) := by decide
  have hparas1 : utf8 ",\"paras1\":\"" =
    ','.toUInt8 :: (writeString (utf8 "paras1") ++ [':'.toUInt8, '"'.toUInt8]) := by decide
  have hparas2 : utf8 ",\"paras2\":\" \"" = ','.toUInt8 ::
    (writeString (utf8 "paras2") ++ ':'.toUInt8 :: '"'.toUInt8 :: (utf8 " " ++ ['"'.toUInt8])) := by
    decide
  simp only [utf8_append, utf8_toString, utf8_open, hstate, huuid, hlaunch, hparas1, hparas2,
    utf8_quote, utf8_close, rawObject, appMembers, List.map_cons, List.map_nil, commas,
    List.isEmpty_cons, List.isEmpty_nil, if_true, Bool.false_eq_true, if_false, Raw.toText,
    List.append_assoc, List.cons_append, List.nil_append]

/-- So is that of a bundle. -/
theorem exists_bundleDesc (b : Bundle) :
    ∃ s, bundleDesc b = s ++ "," ∧ utf8 s = rawObject (bundleMembers b) := by
  refine ⟨_, append_end _, ?_⟩
  have hname : utf8 ",\"SymbolicName\":\"" =
    ','.toUInt8 :: (writeString (utf8 "SymbolicName") ++ [':'.toUInt8, '"'.toUInt8]) := by decide
  have hstate : utf8 ",\"State\":\"" =
    ','.toUInt8 :: (writeString (utf8 "State") ++ [':'.toUInt8, '"'.toUInt8]) := by decide
  simp only [utf8_append, utf8_toString, utf8_open, hname, hstate, utf8_quote, utf8_close,
    rawObject, bundleMembers, List.map_cons, List.map_nil, commas, List.isEmpty_cons,
    List.isEmpty_nil, if_true, Bool.false_eq_true, if_false, Raw.toText, List.append_assoc,
    List.cons_append, List.nil_append]

/-- **The listing of the applications is an array put together by hand**: the last comma gives
way to the bracket. -/
theorem utf8_setLsAppDesc (instances : List ProcessAttribute) :
    utf8 (setLsAppDesc instances) = rawArray (instances.map appMembers) := by
  rw [rawArray, List.map_map]
  exact utf8_trimmed (by decide) (by decide) exists_appDesc
    (fun _ => List.cons_ne_nil _ _) instances

/-- The `std::map` of the plugins, in the order of the ids. -/
def bundleMap (bundles : List Bundle) : List Bundle :=
  bundles.foldl (fun m b => insertBundle b m) []

/-- So is that of the bundles, in the order of the map. -/
theorem utf8_pluginDesc (bundles : List Bundle) :
    utf8 (pluginDesc bundles) = rawArray ((bundleMap bundles).map bundleMembers) := by
  rw [rawArray, List.map_map]
  exact utf8_trimmed (by decide) (by decide) exists_bundleDesc (fun _ => List.cons_ne_nil _ _)
    (bundleMap bundles)

/-! ## The map of the plugins -/

/-- In ascending order of the ids. -/
def Ordered (bs : List Bundle) : Prop := bs.Pairwise fun a b => a.id < b.id

/-- A new identifier adds an entry. -/
theorem insertBundle_perm {b : Bundle} : ∀ {xs : List Bundle}, (∀ x ∈ xs, x.id ≠ b.id) →
    (insertBundle b xs).Perm (b :: xs)
  | [], _ => .refl _
  | x :: xs, h => by
      obtain ⟨hx, hxs⟩ := List.forall_mem_cons.mp h
      rw [insertBundle]
      split_ifs with hlt heq
      · rfl
      · exact absurd heq.symm hx
      · exact ((insertBundle_perm hxs).cons x).trans (.swap b x xs)

/-- The map stays in order. -/
theorem ordered_insertBundle {b : Bundle} : ∀ {xs : List Bundle}, Ordered xs →
    (∀ x ∈ xs, x.id ≠ b.id) → Ordered (insertBundle b xs)
  | [], _, _ => List.pairwise_singleton _ b
  | x :: xs, h, hne => by
      obtain ⟨hx, hxs⟩ := List.pairwise_cons.mp h
      obtain ⟨hxb, hne⟩ := List.forall_mem_cons.mp hne
      rw [insertBundle]
      split_ifs with hlt heq
      · exact h.cons (List.forall_mem_cons.mpr ⟨hlt, fun y hy => Int.lt_trans hlt (hx y hy)⟩)
      · exact absurd heq.symm hxb
      · refine (ordered_insertBundle hxs hne).cons fun y hy => ?_
        rcases List.mem_cons.mp ((insertBundle_perm hne).mem_iff.mp hy) with rfl | hy
        · omega
        · exact hx y hy

/-- With different identifiers no bundle is lost. -/
theorem foldl_insertBundle : ∀ {bs m : List Bundle}, Ordered m → ((m ++ bs).map Bundle.id).Nodup →
    (bs.foldl (fun m b => insertBundle b m) m).Perm (m ++ bs) ∧
      Ordered (bs.foldl (fun m b => insertBundle b m) m)
  | [], m, hm, _ => ⟨by rw [List.append_nil]; rfl, hm⟩
  | b :: bs, m, hm, hids => by
      have hne : ∀ x ∈ m, x.id ≠ b.id := fun x hx => by
        rw [List.map_append, List.nodup_append] at hids
        exact hids.2.2 x.id (List.mem_map_of_mem hx) b.id (List.mem_map_of_mem List.mem_cons_self)
      have hperm : (insertBundle b m ++ bs).Perm (m ++ b :: bs) :=
        ((insertBundle_perm hne).append_right bs).trans List.perm_middle.symm
      obtain ⟨hfold, hordered⟩ := foldl_insertBundle (ordered_insertBundle hm hne)
        ((hperm.map Bundle.id).nodup_iff.mpr hids)
      exact ⟨hfold.trans hperm, hordered⟩

/-- **The map has the plugins in ascending order**, each once, if and only if no two of them have
one id; and this order is the only one. -/
theorem perm_ordered_iff {bundles ordered : List Bundle} :
    ordered.Perm bundles ∧ Ordered ordered ↔
      (bundles.map Bundle.id).Nodup ∧ ordered = bundleMap bundles := by
  constructor
  · rintro ⟨hperm, hordered⟩
    have hids : (bundles.map Bundle.id).Nodup :=
      (hperm.map Bundle.id).nodup_iff.mp
        (List.pairwise_map.mpr (List.Pairwise.imp Int.ne_of_lt hordered))
    obtain ⟨hmap, hmapOrdered⟩ := foldl_insertBundle (m := []) List.Pairwise.nil hids
    refine ⟨hids, List.Perm.eq_of_pairwise ?_ hordered hmapOrdered (hperm.trans hmap.symm)⟩
    exact fun a b _ _ hab hba => absurd hab (Int.lt_asymm hba)
  · rintro ⟨hids, rfl⟩
    exact foldl_insertBundle (m := []) List.Pairwise.nil hids

/-! ## What the manager reads -/

variable {D : Type} (doubles : Doubles D)

/-- A string without quotes, backslashes and control characters. -/
def Unquoted (s : String) : Prop := ∀ c ∈ utf8 s, Plain c

instance (s : String) : Decidable (Unquoted s) := List.decidableBAll _ (utf8 s)

/-- A description becomes an array exactly if it is parsed as one. -/
theorem documentStr_eq_array_iff {desc : Text} {vs : List (Value D)} :
    documentStr doubles desc = .array vs ↔ parse doubles desc = some (.array vs) := by
  rw [documentStr]
  rcases parse doubles desc with - | v
  · exact ⟨fun h => (nomatch h), fun h => (nomatch h)⟩
  · exact ⟨fun h => congrArg some h, Option.some.inj⟩

/-- An array with one object for each application, in their order. -/
def ListsApps (instances : List ProcessAttribute) : Prop :=
  documentStr doubles (utf8 (setLsAppDesc instances)) =
    .array (instances.map fun p => valueObject (appMembers p))

/-- An array with one object for each plugin, in the order of their ids. -/
def ListsPlugins (bundles : List Bundle) : Prop :=
  ∃ ordered : List Bundle, ordered.Perm bundles ∧ Ordered ordered ∧
    documentStr doubles (utf8 (pluginDesc bundles)) =
      .array (ordered.map fun b => valueObject (bundleMembers b))

/-- Which parts of an entry may break it. -/
theorem sound_appMembers (p : ProcessAttribute) : (∀ m ∈ appMembers p, m.2.Sound) ↔
    Fits p.child.id ∧ Unquoted p.uuid ∧ Unquoted p.launchCmd ∧ Unquoted p.workPath := by
  have hstate : Unquoted (if p.exceptionFlag then "0" else "1") := by
    cases p.exceptionFlag <;> decide
  have hblank : Unquoted " " := by decide
  simp only [appMembers, List.forall_mem_cons, Raw.Sound]
  constructor
  · rintro ⟨hid, -, huuid, hlaunch, hpath, -⟩
    exact ⟨hid, huuid, hlaunch, hpath⟩
  · rintro ⟨hid, huuid, hlaunch, hpath⟩
    exact ⟨hid, hstate, huuid, hlaunch, hpath, hblank, fun _ h => nomatch h⟩

theorem sound_bundleMembers (b : Bundle) : (∀ m ∈ bundleMembers b, m.2.Sound) ↔
    Fits b.id ∧ Unquoted b.symbolicName := by
  obtain ⟨-, -, -, -, hstate⟩ := decimal_cases b.state
  simp only [bundleMembers, List.forall_mem_cons, Raw.Sound]
  constructor
  · rintro ⟨hid, hname, -⟩
    exact ⟨hid, hname⟩
  · rintro ⟨hid, hname⟩
    exact ⟨hid, hname, hstate, fun _ h => nomatch h⟩

/-- The listing of the applications is right exactly if each of their texts may stand between
quotes. -/
theorem listsApps_iff (instances : List ProcessAttribute) : ListsApps doubles instances ↔
    ∀ p ∈ instances, Fits p.child.id ∧ Unquoted p.uuid ∧ Unquoted p.launchCmd ∧
      Unquoted p.workPath := by
  have hparse : parse doubles _ = _ ↔ _ := parse_rawArray_iff (instances.map appMembers)
  rw [List.map_map, List.forall_mem_map] at hparse
  rw [ListsApps, documentStr_eq_array_iff, utf8_setLsAppDesc]
  exact hparse.trans (forall₂_congr fun p _ => sound_appMembers p)

/-- That of the bundles, if they have different identifiers too. -/
theorem listsPlugins_iff (bundles : List Bundle) : ListsPlugins doubles bundles ↔
    (bundles.map Bundle.id).Nodup ∧ ∀ b ∈ bundles, Fits b.id ∧ Unquoted b.symbolicName := by
  have hparse : parse doubles _ = _ ↔ _ :=
    parse_rawArray_iff ((bundleMap bundles).map bundleMembers)
  rw [List.map_map, List.forall_mem_map, ← utf8_pluginDesc, ← documentStr_eq_array_iff] at hparse
  have hsound := forall₂_congr fun b (_ : b ∈ bundleMap bundles) => sound_bundleMembers b
  constructor
  · rintro ⟨ordered, hperm, hordered, hread⟩
    obtain ⟨hids, rfl⟩ := perm_ordered_iff.mp ⟨hperm, hordered⟩
    exact ⟨hids, fun b hb => (hsound.mp (hparse.mp hread)) b (hperm.mem_iff.mpr hb)⟩
  · rintro ⟨hids, hok⟩
    obtain ⟨hperm, hordered⟩ := perm_ordered_iff.mpr ⟨hids, rfl⟩
    refine ⟨bundleMap bundles, hperm, hordered, hparse.mpr (hsound.mpr fun b hb => ?_)⟩
    exact hok b (hperm.mem_iff.mp hb)

/-- **The manager reads the lists that were meant** if and only if no string in them has a quote, a
backslash or a control character, all numbers have 64 bits, and no two plugins have one id. -/
theorem lists_iff (instances : List ProcessAttribute) (bundles : List Bundle) :
    (ListsApps doubles instances ∧ ListsPlugins doubles bundles) ↔
      (∀ p ∈ instances, Fits p.child.id ∧ Unquoted p.uuid ∧ Unquoted p.launchCmd ∧
        Unquoted p.workPath) ∧
      (bundles.map Bundle.id).Nodup ∧ ∀ b ∈ bundles, Fits b.id ∧ Unquoted b.symbolicName :=
  and_congr (listsApps_iff doubles instances) (listsPlugins_iff doubles bundles)

/-- An application with a quoted parameter: `cmd` is `app.sh` and `paras` is `"a b"`. -/
def quotedApp : ProcessAttribute where
  launchCmd := "app.sh \"a b\""
  uuid := "./ app.sh \"a b\""
  workPath := "./"
  env := []

theorem not_lists : ¬ ∀ (D : Type) (doubles : Doubles D) (instances : List ProcessAttribute)
    (bundles : List Bundle), (bundles.map Bundle.id).Nodup →
      ListsApps doubles instances ∧ ListsPlugins doubles bundles := fun h => by
  have hread := (h Empty ⟨fun _ => none, Empty.elim⟩ [quotedApp] [] List.nodup_nil).1
  have hlaunch := ((listsApps_iff _ _).mp hread quotedApp (List.mem_singleton_self _)).2.2.1
  exact absurd hlaunch (by decide)

end Listing

end Commands

end Sadip
