import Mathlib.Data.List.Sigma
import Sadip.INIReader

/-!
# NodeInfo — what a node is told by its file, `node/src/main.cpp`

The file of a node lists the applications it runs and the directories it watches under numbered
keys, with their number beside them.  Where the keys of a section are those of some items, in any
order and each with as many of its keys as it likes, the node has these items, with the defaults for
the keys that are not there (`vec_eq`); an application without a path is left out.
-/

namespace Sadip

namespace NodeInfo

open Ini INIReader

/-! ## What there is in a file -/

/-- `PROCESS`. -/
structure Process where
  state : Int32
  path : Text
  paras : Text
  addParas1 : Text
  addParas2 : Text
  keepLive : Bool
  deriving DecidableEq

/-- `S3WATCH`. -/
structure S3Watch where
  bucket : Text
  directory : Text
  sleep : Int32
  keepFile : Bool
  zipFlag : Bool
  watchSubDir : Bool
  deriving DecidableEq

/-- A key with its number: `"state_" + to_string(i)`. -/
def keyAt (stem : String) (i : ℕ) : Text := ascii stem ++ '_'.toUInt8 :: Json.natural i

section Loading

variable (reader : INIReader)

/-- The bound of the loop over the items of a section. -/
def size (sectionName : Text) : ℕ :=
  (Int32.ofInt (reader.getInteger sectionName (ascii "count") 0)).toInt.toNat

/-- The keys end in the number of the application, from 0 on. -/
def processAt (i : ℕ) : Process where
  state := Int32.ofInt (reader.getInteger (ascii "process") (keyAt "state" i) 0)
  path := reader.getString (ascii "process") (keyAt "path_name" i) []
  paras := reader.getString (ascii "process") (keyAt "paras" i) []
  addParas1 := reader.getString (ascii "process") (keyAt "paras1" i) []
  addParas2 := reader.getString (ascii "process") (keyAt "paras2" i) []
  keepLive := reader.getBoolean (ascii "process") (keyAt "keep_alive" i) true

/-- `processVec_`. -/
def processVec : List Process :=
  ((List.range (size reader (ascii "process"))).map (processAt reader)).filter (·.path ≠ [])

/-- Thirty seconds, if no time is given. -/
def s3WatchAt (i : ℕ) : S3Watch where
  bucket := reader.getString (ascii "s3watch") (keyAt "bucket" i) []
  directory := reader.getString (ascii "s3watch") (keyAt "directory" i) []
  sleep := Int32.ofInt (reader.getInteger (ascii "s3watch") (keyAt "sleep" i) 30)
  keepFile := reader.getBoolean (ascii "s3watch") (keyAt "keep_file" i) true
  zipFlag := reader.getBoolean (ascii "s3watch") (keyAt "zip_flag" i) true
  watchSubDir := reader.getBoolean (ascii "s3watch") (keyAt "watch_sub_dir" i) true

/-- `s3WatchVec_`. -/
def s3WatchVec : List S3Watch :=
  (List.range (size reader (ascii "s3watch"))).map (s3WatchAt reader)

end Loading

/-! ## Keys -/

/-- A text that is a key as it stands. -/
def Word (t : Text) : Prop := ∀ c ∈ t, tolower c = c ∧ c ≠ '='.toUInt8

/-- The reader folds names to lower case; these are so already. -/
theorem Word.map_tolower {t : Text} (h : Word t) : t.map tolower = t :=
  (List.map_congr_left fun c hc => (h c hc).1).trans (List.map_id t)

theorem Word.not_mem {t : Text} (h : Word t) : '='.toUInt8 ∉ t := fun hmem => (h _ hmem).2 rfl

theorem word_ascii {s : String} (h : s.toList.all fun c =>
    tolower c.toUInt8 == c.toUInt8 && c.toUInt8 != '='.toUInt8) : Word (ascii s) := by
  intro c hc
  obtain ⟨d, hd, rfl⟩ := List.mem_map.mp hc
  simpa using List.all_eq_true.mp h d hd

theorem not_mem_natural {c : UInt8} (h : Json.isDigit c = false) (n : ℕ) : c ∉ Json.natural n :=
  fun hmem => Bool.false_ne_true (h.symm.trans (Json.isDigit_of_mem_natural hmem))

/-- A number may stand in a name. -/
theorem word_natural (n : ℕ) : Word (Json.natural n) := by
  intro c hc
  refine ⟨?_, fun h => not_mem_natural (by decide) n (h ▸ hc)⟩
  have hdigit : Json.isDigit c = true := Json.isDigit_of_mem_natural hc
  rw [Json.isDigit, Bool.and_eq_true, decide_eq_true_eq, decide_eq_true_eq] at hdigit
  have hle : c.toNat ≤ 57 := UInt8.le_iff_toNat_le.mp hdigit.2
  refine if_neg fun hupper => ?_
  have hge : 65 ≤ c.toNat := UInt8.le_iff_toNat_le.mp hupper.1
  omega

theorem word_keyAt {stem : String} (h : Word (ascii stem)) (i : ℕ) : Word (keyAt stem i) :=
  List.forall_mem_append.mpr ⟨h, List.forall_mem_cons.mpr ⟨by decide, word_natural i⟩⟩

theorem natural_injective : Function.Injective Json.natural :=
  Function.LeftInverse.injective Json.ofDigits_natural

/-- Two keys are the same only if stem and number are. -/
theorem keyAt_inj {stem stem' : String} {i i' : ℕ} :
    keyAt stem i = keyAt stem' i' ↔ ascii stem = ascii stem' ∧ i = i' := by
  constructor
  · intro h
    have hparts := eq_of_append_cons (not_mem_natural (by decide) i)
      (not_mem_natural (by decide) i') h
    exact ⟨hparts.1, natural_injective hparts.2⟩
  · rintro ⟨h, rfl⟩
    rw [keyAt, h, ← keyAt]

/-! ## Items -/

section Items

variable {κ : Type}

/-- The keys of an item. -/
structure Keys (κ : Type) where
  stem : κ → String
  all : List κ
  complete : ∀ k, k ∈ all
  words : ∀ k, Word (ascii (stem k))
  nodup : (all.map fun k => ascii (stem k)).Nodup

/-- The texts of an item, as far as there are any. -/
abbrev Item (κ : Type) := κ → Option Text

variable (K : Keys κ)

/-- The keys that are given for one item. -/
def Keys.settingsAt (x : Item κ × ℕ) : List (Text × Text) :=
  K.all.filterMap fun k => (x.1 k).map fun v => (keyAt (K.stem k) x.2, v)

/-- What a section with these items says. -/
def Keys.settings (count : Text) (items : List (Item κ)) : List (Text × Text) :=
  (ascii "count", count) :: items.zipIdx.flatMap K.settingsAt

variable {K} {x : Item κ × ℕ} {items : List (Item κ)} {k : κ} {i : ℕ} {t count : Text}

theorem mem_settingsAt {y : Text × Text} :
    y ∈ K.settingsAt x ↔ ∃ k, x.1 k = some y.2 ∧ keyAt (K.stem k) x.2 = y.1 := by
  rw [Keys.settingsAt, List.mem_filterMap]
  refine exists_congr fun k => ?_
  rw [Option.map_eq_some_iff]
  constructor
  · rintro ⟨-, v, hv, rfl⟩
    exact ⟨hv, rfl⟩
  · rintro ⟨hv, hk⟩
    exact ⟨K.complete k, y.2, hv, by rw [hk]⟩

/-- The number of items has a key that no item has. -/
theorem count_ne_keyAt (stem : String) (i : ℕ) : ascii "count" ≠ keyAt stem i := by
  intro h
  have hmem : '_'.toUInt8 ∈ ascii "count" := by
    rw [h, keyAt]
    exact List.mem_append_right _ List.mem_cons_self
  exact absurd hmem (by decide)

theorem fst_settingsAt_sublist (x : Item κ × ℕ) : ((K.settingsAt x).map Prod.fst).Sublist
    (K.all.map fun k => keyAt (K.stem k) x.2) := by
  rw [Keys.settingsAt]
  induction K.all with
  | nil => exact List.Sublist.refl []
  | cons k ks ih =>
    rw [List.map_cons]
    cases hx : x.1 k with
    | none =>
      rw [List.filterMap_cons_none (by rw [hx]; rfl)]
      exact ih.cons _
    | some v =>
      rw [List.filterMap_cons_some (by rw [hx]; rfl), List.map_cons]
      exact ih.cons_cons _

/-- **No key is given twice.** -/
theorem nodup_settings (count : Text) (items : List (Item κ)) :
    ((K.settings count items).map Prod.fst).Nodup := by
  rw [Keys.settings, List.map_cons, List.map_flatMap, List.nodup_cons, List.nodup_flatMap]
  refine ⟨?_, fun x _ => ?_, ?_⟩
  · intro hmem
    obtain ⟨x, -, hx⟩ := List.mem_flatMap.mp hmem
    obtain ⟨y, hy, hcount⟩ := List.mem_map.mp hx
    obtain ⟨k, -, hk⟩ := mem_settingsAt.mp hy
    exact count_ne_keyAt _ _ (hcount.symm.trans hk.symm)
  · have hkeys : (K.all.map fun k => keyAt (K.stem k) x.2) =
      (K.all.map fun k => ascii (K.stem k)).map
        (· ++ '_'.toUInt8 :: Json.natural x.2) := by
      rw [List.map_map]
      rfl
    refine List.Nodup.sublist (fst_settingsAt_sublist x) (hkeys ▸ ?_)
    exact K.nodup.map (List.append_left_injective _)
  · have hindex := List.pairwise_map.mp (List.nodup_zipIdx_map_snd items)
    refine hindex.imp fun {x y} hne => ?_
    intro t hx hy
    obtain ⟨a, ha, hat⟩ := List.mem_map.mp hx
    obtain ⟨b, hb, hbt⟩ := List.mem_map.mp hy
    obtain ⟨k, -, hk⟩ := mem_settingsAt.mp ha
    obtain ⟨k', -, hk'⟩ := mem_settingsAt.mp hb
    exact hne (keyAt_inj.mp ((hk.trans hat).trans (hk'.trans hbt).symm)).2

/-! ## What is loaded -/

variable {content : Text} {s : Text}
  (hsettings : (settingsOf s (callsOf content)).Perm (K.settings count items))
include hsettings

/-- The number is read if it is there as a number. -/
theorem size_eq (hcount : strtol count = some (items.length : ℤ)) (hlen : items.length < 2 ^ 31) :
    size (ofFile (some content)) s = items.length := by
  have hget := get_of_mem hsettings (nodup_settings count items) (n := ascii "count")
    (by decide) List.mem_cons_self []
  rw [size, getInteger, hget, hcount, Option.getD_some,
    Int32.toInt_ofInt_of_le (by omega) (by omega), Int.toNat_natCast]

/-- A key gives what stands there for the item, whatever the order of the lines. -/
theorem get_keyAt {x : Item κ} (hx : items[i]? = some x) (k : κ) (default_value : Text) :
    (ofFile (some content)).get s (keyAt (K.stem k) i) default_value =
    (x k).getD default_value := by
  have hword := word_keyAt (K.words k) i
  cases hv : x k with
  | some v =>
    refine get_of_mem hsettings (nodup_settings count items) hword.not_mem ?_ default_value
    rw [hword.map_tolower]
    refine List.mem_cons_of_mem _ (List.mem_flatMap.mpr
      ⟨(x, i), ?_, mem_settingsAt.mpr ⟨k, hv, rfl⟩⟩)
    exact List.mem_zipIdx_iff_getElem?.mpr hx
  | none =>
    refine get_of_not_mem hsettings hword.not_mem ?_ default_value
    rw [hword.map_tolower]
    intro hmem
    obtain ⟨y, hy, hkey⟩ := List.mem_map.mp hmem
    rcases List.mem_cons.mp hy with rfl | hy
    · exact count_ne_keyAt _ _ hkey
    · obtain ⟨⟨x', i'⟩, hx', hy⟩ := List.mem_flatMap.mp hy
      obtain ⟨k', hk', hy⟩ := mem_settingsAt.mp hy
      obtain ⟨hstem, rfl⟩ := keyAt_inj.mp (hy.trans hkey)
      have hx : some x' = some x := (List.mem_zipIdx_iff_getElem?.mp hx').symm.trans hx
      obtain rfl := List.inj_on_of_nodup_map K.nodup (K.complete k') (K.complete k) hstem
      obtain rfl := Option.some.inj hx
      exact Option.some_ne_none _ (hk'.symm.trans hv)

/-- **The items of a section are loaded**, each with the defaults for what it leaves out. -/
theorem vec_eq {α : Type} {load : INIReader → ℕ → α} {made : Item κ → α}
    (hload : ∀ reader i x, (∀ k default_value,
      reader.get s (keyAt (K.stem k) i) default_value = (x k).getD default_value) →
        load reader i = made x)
    (hcount : strtol count = some (items.length : ℤ)) (hlen : items.length < 2 ^ 31) :
    (List.range (size (ofFile (some content)) s)).map (load (ofFile (some content))) =
      items.map made := by
  rw [size_eq hsettings hcount hlen]
  refine List.ext_getElem (by simp) fun i hi hi' => ?_
  rw [List.getElem_map, List.getElem_map, List.getElem_range]
  rw [List.length_map] at hi'
  exact hload _ i _ fun k => get_keyAt hsettings (List.getElem?_eq_getElem hi') k

end Items

/-! ## Applications and directories -/

/-- The keys of an application. -/
inductive ProcessKey
  | state
  | pathName
  | paras
  | paras1
  | paras2
  | keepAlive
  deriving DecidableEq

/-- The keys of an application. -/
def processKeys : Keys ProcessKey where
  stem
    | .state => "state"
    | .pathName => "path_name"
    | .paras => "paras"
    | .paras1 => "paras1"
    | .paras2 => "paras2"
    | .keepAlive => "keep_alive"
  all := [.state, .pathName, .paras, .paras1, .paras2, .keepAlive]
  complete k := by cases k <;> decide
  words k := by cases k <;> exact word_ascii (by decide)
  nodup := by decide

/-- The application that some texts stand for. -/
def Process.made (x : Item ProcessKey) : Process where
  state := Int32.ofInt ((strtol ((x .state).getD [])).getD 0)
  path := (x .pathName).getD []
  paras := (x .paras).getD []
  addParas1 := (x .paras1).getD []
  addParas2 := (x .paras2).getD []
  keepLive := (boolean ((x .keepAlive).getD [])).getD true

/-- The keys of a directory that is watched. -/
inductive S3WatchKey
  | bucket
  | directory
  | sleep
  | keepFile
  | zipFlag
  | watchSubDir
  deriving DecidableEq

/-- The keys of a directory. -/
def s3WatchKeys : Keys S3WatchKey where
  stem
    | .bucket => "bucket"
    | .directory => "directory"
    | .sleep => "sleep"
    | .keepFile => "keep_file"
    | .zipFlag => "zip_flag"
    | .watchSubDir => "watch_sub_dir"
  all := [.bucket, .directory, .sleep, .keepFile, .zipFlag, .watchSubDir]
  complete k := by cases k <;> decide
  words k := by cases k <;> exact word_ascii (by decide)
  nodup := by decide

/-- What the reader makes of an item; a key that is left out gives its default. -/
def S3Watch.made (x : Item S3WatchKey) : S3Watch where
  bucket := (x .bucket).getD []
  directory := (x .directory).getD []
  sleep := Int32.ofInt ((strtol ((x .sleep).getD [])).getD 30)
  keepFile := (boolean ((x .keepFile).getD [])).getD true
  zipFlag := (boolean ((x .zipFlag).getD [])).getD true
  watchSubDir := (boolean ((x .watchSubDir).getD [])).getD true

section Loaded

variable {content count : Text}

theorem getString_nil (reader : INIReader) (s n : Text) :
    reader.getString s n [] = reader.get s n [] := by
  rw [getString]
  split
  · next h => exact h.symm
  · rfl

variable {c : Text}

theorem processVec_eq {items : List (Item ProcessKey)}
    (hsettings : (settingsOf (ascii "process") (callsOf content)).Perm
      (processKeys.settings count items))
    (hcount : strtol count = some (items.length : ℤ)) (hlen : items.length < 2 ^ 31) :
    processVec (ofFile (some content)) = (items.map Process.made).filter (·.path ≠ []) := by
  rw [processVec, vec_eq hsettings ?_ hcount hlen]
  intro reader i x hget
  have hat : ∀ k default_value, reader.get (ascii "process") (keyAt (processKeys.stem k) i)
    default_value = _ := hget
  rw [processAt, Process.made, getString_nil, getString_nil, getString_nil, getString_nil,
    getInteger, getBoolean]
  rw [← hat .state, ← hat .pathName, ← hat .paras, ← hat .paras1, ← hat .paras2, ← hat .keepAlive]
  rfl

theorem s3WatchVec_eq {items : List (Item S3WatchKey)}
    (hsettings : (settingsOf (ascii "s3watch") (callsOf content)).Perm
      (s3WatchKeys.settings count items))
    (hcount : strtol count = some (items.length : ℤ)) (hlen : items.length < 2 ^ 31) :
    s3WatchVec (ofFile (some content)) = items.map S3Watch.made := by
  rw [s3WatchVec, vec_eq hsettings ?_ hcount hlen]
  intro reader i x hget
  have hat : ∀ k default_value, reader.get (ascii "s3watch") (keyAt (s3WatchKeys.stem k) i)
    default_value = _ := hget
  rw [s3WatchAt, S3Watch.made, getString_nil, getString_nil, getInteger, getBoolean, getBoolean,
    getBoolean]
  rw [← hat .bucket, ← hat .directory, ← hat .sleep, ← hat .keepFile, ← hat .zipFlag,
    ← hat .watchSubDir]
  rfl

end Loaded

/-! ## What is written -/

/-- A truth value as it is written. -/
def flag (b : Bool) : Text := ascii (if b then "true" else "false")

/-- An application with all its keys. -/
def Process.item (p : Process) : Item ProcessKey
  | .state => some (Json.decimal p.state.toInt)
  | .pathName => some p.path
  | .paras => some p.paras
  | .paras1 => some p.addParas1
  | .paras2 => some p.addParas2
  | .keepAlive => some (flag p.keepLive)

def S3Watch.item (w : S3Watch) : Item S3WatchKey
  | .bucket => some w.bucket
  | .directory => some w.directory
  | .sleep => some (Json.decimal w.sleep.toInt)
  | .keepFile => some (flag w.keepFile)
  | .zipFlag => some (flag w.zipFlag)
  | .watchSubDir => some (flag w.watchSubDir)

theorem boolean_flag (b : Bool) : boolean (flag b) = some b := by
  cases b <;> decide

theorem ofInt_strtol (v : Int32) (d : ℤ) :
    Int32.ofInt ((strtol (Json.decimal v.toInt)).getD d) = v := by
  have hlow := v.le_toInt
  have hhigh := v.toInt_lt
  rw [strtol_decimal (by omega) (by omega), Option.getD_some, Int32.ofInt_toInt]

/-- An application with all its keys is read as it was. -/
theorem Process.made_item (p : Process) : Process.made p.item = p := by
  have hstate := ofInt_strtol p.state 0
  have hkeep := congrArg (·.getD true) (boolean_flag p.keepLive)
  exact congrArg₂ (fun state keepLive => Process.mk state p.path p.paras p.addParas1 p.addParas2
    keepLive) hstate hkeep

theorem S3Watch.made_item (w : S3Watch) : S3Watch.made w.item = w := by
  rw [S3Watch.made]
  simp only [S3Watch.item, Option.getD_some, ofInt_strtol, boolean_flag]

/-- The section of some applications. -/
def processSettings (ps : List Process) : List (Text × Text) :=
  processKeys.settings (Json.decimal ps.length) (ps.map Process.item)

def s3WatchSettings (ws : List S3Watch) : List (Text × Text) :=
  s3WatchKeys.settings (Json.decimal ws.length) (ws.map S3Watch.item)

theorem strtol_length {α : Type} {l : List α} (h : l.length < 2 ^ 31) :
    strtol (Json.decimal l.length) = some (l.length : ℤ) :=
  strtol_decimal (by omega) (by omega)

section Documents

variable {d : Doc} {marked : Bool} {ps : List Process} {ws : List S3Watch}

/-- **The applications are read as they were written**, but for those without a path. -/
theorem processVec_text (hfits : d.Fits marked) (hps : ps.length < 2 ^ 31)
    (hprocess : (settingsOf (ascii "process") d.calls).Perm (processSettings ps)) :
    processVec (ofFile (some (d.text marked))) = ps.filter (·.path ≠ []) := by
  have hcalls : callsOf (d.text marked) = d.calls := (callsOf_text hfits).1
  have hmade : Process.made ∘ Process.item = id := funext Process.made_item
  rw [processVec_eq (hcalls ▸ hprocess) (by rw [List.length_map]; exact strtol_length hps)
    (by rwa [List.length_map]), List.map_map, hmade, List.map_id]

theorem s3WatchVec_text (hfits : d.Fits marked) (hws : ws.length < 2 ^ 31)
    (hs3watch : (settingsOf (ascii "s3watch") d.calls).Perm (s3WatchSettings ws)) :
    s3WatchVec (ofFile (some (d.text marked))) = ws := by
  have hcalls : callsOf (d.text marked) = d.calls := (callsOf_text hfits).1
  have hmade : S3Watch.made ∘ S3Watch.item = id := funext S3Watch.made_item
  rw [s3WatchVec_eq (hcalls ▸ hs3watch) (by rw [List.length_map]; exact strtol_length hws)
    (by rwa [List.length_map]), List.map_map, hmade, List.map_id]

/-- **What a node's file lists is what the node has**: in a document that says these applications
and these directories, in any order and among whatever else, with any comments and blanks. -/
theorem loaded_text (hfits : d.Fits marked) (hps : ps.length < 2 ^ 31) (hws : ws.length < 2 ^ 31)
    (hprocess : (settingsOf (ascii "process") d.calls).Perm (processSettings ps))
    (hs3watch : (settingsOf (ascii "s3watch") d.calls).Perm (s3WatchSettings ws)) :
    processVec (ofFile (some (d.text marked))) = ps.filter (·.path ≠ []) ∧
      s3WatchVec (ofFile (some (d.text marked))) = ws :=
  ⟨processVec_text hfits hps hprocess, s3WatchVec_text hfits hws hs3watch⟩

end Documents

/-- A node with four applications, of which one has no path, and a directory. -/
def edgeNode : Doc where
  entries := []
  sections := [
    (.of (ascii "process") (by decide), [
      .of (ascii "state_0") (ascii "2") (by decide) (by decide),
      .of (ascii "path_name_0") (ascii "cam-app") (by decide) (by decide),
      .of (ascii "count") (ascii "4") (by decide) (by decide),
      .of (ascii "paras_0") (ascii "") (by decide) (by decide),
      .of (ascii "paras1_0") (ascii "/opt") (by decide) (by decide),
      .of (ascii "paras2_0") (ascii "") (by decide) (by decide),
      .of (ascii "keep_alive_0") (ascii "false") (by decide) (by decide),
      .of (ascii "state_1") (ascii "0") (by decide) (by decide),
      .of (ascii "path_name_1") (ascii "") (by decide) (by decide),
      .of (ascii "paras_1") (ascii "-v") (by decide) (by decide),
      .of (ascii "paras1_1") (ascii "") (by decide) (by decide),
      .of (ascii "paras2_1") (ascii "") (by decide) (by decide),
      .of (ascii "keep_alive_1") (ascii "true") (by decide) (by decide),
      .of (ascii "state_3") (ascii "2") (by decide) (by decide),
      .of (ascii "path_name_3") (ascii "rd") (by decide) (by decide),
      .of (ascii "paras_3") (ascii "-p 9") (by decide) (by decide),
      .of (ascii "paras1_3") (ascii "/opt") (by decide) (by decide),
      .of (ascii "paras2_3") (ascii "") (by decide) (by decide),
      .of (ascii "keep_alive_3") (ascii "true") (by decide) (by decide),
      .of (ascii "state_2") (ascii "0") (by decide) (by decide),
      .of (ascii "path_name_2") (ascii "log-app") (by decide) (by decide),
      .of (ascii "paras_2") (ascii "") (by decide) (by decide),
      .of (ascii "paras1_2") (ascii "/opt") (by decide) (by decide),
      .of (ascii "paras2_2") (ascii "") (by decide) (by decide),
      .of (ascii "keep_alive_2") (ascii "false") (by decide) (by decide)]),
    (.of (ascii "s3watch") (by decide), [
      .of (ascii "count") (ascii "1") (by decide) (by decide),
      .of (ascii "bucket_0") (ascii "logs") (by decide) (by decide),
      .of (ascii "directory_0") (ascii "/var/log") (by decide) (by decide),
      .of (ascii "sleep_0") (ascii "30") (by decide) (by decide),
      .of (ascii "keep_file_0") (ascii "true") (by decide) (by decide),
      .of (ascii "zip_flag_0") (ascii "false") (by decide) (by decide),
      .of (ascii "watch_sub_dir_0") (ascii "true") (by decide) (by decide)])]
  below := []

theorem fits_edgeNode : edgeNode.Fits true := by
  refine ⟨?_, fun _ => ?_, fun h => Bool.noConfusion h⟩
  · decide
  · decide

/-- Its applications. -/
def edgeProcesses : List Process :=
  [⟨2, ascii "cam-app", [], ascii "/opt", [], false⟩, ⟨0, [], ascii "-v", [], [], true⟩,
    ⟨0, ascii "log-app", [], ascii "/opt", [], false⟩,
    ⟨2, ascii "rd", ascii "-p 9", ascii "/opt", [], true⟩]

theorem process_edgeNode :
    (settingsOf (ascii "process") edgeNode.calls).Perm (processSettings edgeProcesses) := by
  decide

/-- Four applications, one of them without a path, and a directory. -/
theorem loaded_edgeNode :
    processVec (ofFile (some (edgeNode.text true))) =
        [⟨2, ascii "cam-app", [], ascii "/opt", [], false⟩,
          ⟨0, ascii "log-app", [], ascii "/opt", [], false⟩,
          ⟨2, ascii "rd", ascii "-p 9", ascii "/opt", [], true⟩] ∧
      s3WatchVec (ofFile (some (edgeNode.text true))) =
        [⟨ascii "logs", ascii "/var/log", 30, true, false, true⟩] := by
  have hs3watch : (settingsOf (ascii "s3watch") edgeNode.calls).Perm
      (s3WatchSettings [⟨ascii "logs", ascii "/var/log", 30, true, false, true⟩]) := by
    decide
  exact loaded_text fits_edgeNode (by decide) (by decide) process_edgeNode hs3watch

end NodeInfo

end Sadip
