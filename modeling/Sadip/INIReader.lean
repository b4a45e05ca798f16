import Mathlib.Logic.Function.Basic
import Sadip.Ini.Accepted
import Sadip.Machinery.Json.Literal

/-!
# INIReader — the settings in a file, `utils/ini/INIReader.cpp`

The reader keeps a value for each key, a section and a name in lower case with an equals sign
between them, and a value that comes again is added behind a newline.  No name that is read has an
equals sign, so a key tells the section and the name it was made of (`makeKey_inj`), and what `Get`
finds is what the file says under these two, put together (`get_eq`).
-/

namespace Sadip

open Ini

/-- `_values` and `_error`. -/
structure INIReader where
  values : Text → Option Text
  error : ℤ

namespace INIReader

/-! ## What the reader keeps -/

def tolower (c : UInt8) : UInt8 := if 'A'.toUInt8 ≤ c ∧ c ≤ 'Z'.toUInt8 then c + 32 else c

def makeKey (sectionName name : Text) : Text := (sectionName ++ '='.toUInt8 :: name).map tolower

/-- A value that is added to what there is. -/
def added (old value : Text) : Text :=
  (if old.length > 0 then old ++ [newline] else old) ++ value

/-- `ValueHandler`, of the values alone. -/
def valueHandler : Handler (Text → Option Text) := fun values sectionName name value =>
  let key := makeKey sectionName name
  (true, Function.update values key (some (added ((values key).getD []) value)))

/-- The constructor, of the content of a file if there is one. -/
def ofFile (file : Option Text) : INIReader :=
  let result := iniParse valueHandler (fun _ => none) file
  ⟨result.2, result.1⟩

/-! ## Queries -/

/-- The value of a digit in a base up to 16. -/
def digitValue (base : ℕ) (c : UInt8) : Option ℕ :=
  let value :=
    if '0'.toUInt8 ≤ c ∧ c ≤ '9'.toUInt8 then c.toNat - '0'.toNat
    else if 'a'.toUInt8 ≤ tolower c ∧ tolower c ≤
      'f'.toUInt8 then (tolower c).toNat - 'a'.toNat + 10
    else base
  if value < base then some value else none

/-- The value of the digits in front. -/
def digitsValue (base : ℕ) (value : ℕ) : Text → ℕ
  | [] => value
  | c :: s => match digitValue base c with
    | some d => digitsValue base (value * base + d) s
    | none => value

/-- The base that a number is written in, and its digits. -/
def basePrefix (s : Text) : ℕ × Text :=
  match s with
  | z :: x :: d :: t =>
      if z ≠ '0'.toUInt8 then (10, s)
      else if tolower x = 'x'.toUInt8 ∧ (digitValue 16 d).isSome then (16, d :: t) else (8, s)
  | z :: _ => if z ≠ '0'.toUInt8 then (10, s) else (8, s)
  | [] => (10, s)

/-- `strtol` in base 0: nothing if there is no number. -/
def strtol (s : Text) : Option ℤ :=
  let s := lskip s
  let negative := s.head? = some '-'.toUInt8
  let s := if s.head? = some '-'.toUInt8 ∨ s.head? = some '+'.toUInt8 then s.tail else s
  let (base, digits) := basePrefix s
  if (digits.head?.bind (digitValue base)).isNone then none
  else
    let value : ℤ := digitsValue base 0 digits
    some (max (-2 ^ 63) (min (2 ^ 63 - 1) (if negative then -value else value)))

def boolean (valstr : Text) : Option Bool :=
  let valstr := valstr.map tolower
  if valstr ∈ ["true", "yes", "on", "1"].map ascii then some true
  else if valstr ∈ ["false", "no", "off", "0"].map ascii then some false
  else none

section Queries

variable (reader : INIReader) (sectionName name : Text)

def get (default_value : Text) : Text :=
  (reader.values (makeKey sectionName name)).getD default_value

def getString (default_value : Text) : Text :=
  let str := reader.get sectionName name []
  if str = [] then default_value else str

def getInteger (default_value : ℤ) : ℤ :=
    (strtol (reader.get sectionName name [])).getD default_value

def getBoolean (default_value : Bool) : Bool :=
  (boolean (reader.get sectionName name [])).getD default_value

end Queries

/-- A value as a string of the program, whose characters are its bytes. -/
def str (t : Text) : String := String.ofList (Json.latin1 t)

/-! ## Keys -/

variable {s n s' n' key : Text} {content : Text} {cs : List Call}

/-- The same but for case. -/
def SameText (s t : Text) : Prop := s.map tolower = t.map tolower

instance (s t : Text) : Decidable (SameText s t) := inferInstanceAs (Decidable (_ = _))

theorem tolower_eq_equals {c : UInt8} : tolower c = '='.toUInt8 ↔ c = '='.toUInt8 := by
  rw [tolower]
  split
  · next h =>
    refine iff_of_false (fun heq => ?_) (fun heq => ?_)
    · have hc : c = '='.toUInt8 - 32 := by rw [← heq, UInt8.add_sub_cancel]
      rw [hc] at h
      exact absurd h (by decide)
    · rw [heq] at h
      exact absurd h (by decide)
  · exact Iff.rfl

theorem equals_not_mem_map (h : '='.toUInt8 ∉ n) : '='.toUInt8 ∉ n.map tolower := by
  intro hmem
  obtain ⟨c, hc, heq⟩ := List.mem_map.mp hmem
  exact h (tolower_eq_equals.mp heq ▸ hc)

/-- The last place of a separator splits a text in one way only. -/
theorem eq_of_append_cons {a : UInt8} {l l' r r' : Text} (hr : a ∉ r) (hr' : a ∉ r')
    (h : l ++ a :: r = l' ++ a :: r') : l = l' ∧ r = r' := by
  rcases List.append_eq_append_iff.mp h with ⟨m, rfl, hm⟩ | ⟨m, rfl, hm⟩
  · rcases m with - | ⟨b, m⟩
    · exact ⟨(List.append_nil l).symm, (List.cons.inj hm).2⟩
    · exact absurd ((List.cons.inj hm).2 ▸ List.mem_append_right m List.mem_cons_self) hr
  · rcases m with - | ⟨b, m⟩
    · exact ⟨List.append_nil l', ((List.cons.inj hm).2).symm⟩
    · exact absurd ((List.cons.inj hm).2 ▸ List.mem_append_right m List.mem_cons_self) hr'

/-- **A key tells the section and the name**, if the name has no equals sign. -/
theorem makeKey_inj (h : '='.toUInt8 ∉ n) (h' : '='.toUInt8 ∉ n') :
    makeKey s n = makeKey s' n' ↔ SameText s s' ∧ SameText n n' := by
  have hequals : tolower '='.toUInt8 = '='.toUInt8 := rfl
  rw [makeKey, makeKey, List.map_append, List.map_append, List.map_cons, List.map_cons, hequals]
  constructor
  · exact eq_of_append_cons (equals_not_mem_map h) (equals_not_mem_map h')
  · rintro ⟨hs, hn⟩
    rw [hs, hn]

/-! ## Values -/

/-- The values that some calls give to a name in a section. -/
def valuesOf (sectionName name : Text) (cs : List Call) : List Text :=
  (cs.filter fun c => SameText c.sectionName sectionName ∧ SameText c.name name).map (·.value)

/-- Values put together: a line each, and no empty lines in front. -/
def joined (vs : List Text) : Text := [newline].intercalate (vs.dropWhile List.isEmpty)

theorem foldl_added_of_ne {old : Text} (h : old ≠ []) (vs : List Text) :
    vs.foldl added old = [newline].intercalate (old :: vs) := by
  induction vs generalizing old with
  | nil => simp
  | cons v vs ih =>
    have hadded : added old v = old ++ [newline] ++ v := by
      rw [added, if_pos (List.length_pos_iff.mpr h)]
    rw [List.foldl_cons, hadded, ih (by simp), List.intercalate_cons_cons]
    cases vs with
    | nil => rw [List.intercalate_singleton, List.intercalate_singleton]
    | cons v' vs =>
      rw [List.intercalate_cons_cons, List.intercalate_cons_cons, List.append_assoc,
        List.append_assoc, List.append_assoc, List.append_assoc, List.append_assoc]

theorem foldl_added (vs : List Text) : vs.foldl added [] = joined vs := by
  induction vs with
  | nil => rfl
  | cons v vs ih =>
    have hadded : added [] v = v := rfl
    rw [List.foldl_cons, hadded, joined]
    by_cases hv : v = []
    · rw [hv, ih, joined]
      exact congrArg _ (List.dropWhile_cons_of_pos rfl).symm
    · rw [foldl_added_of_ne hv]
      exact congrArg _ (List.dropWhile_cons_of_neg (by rwa [List.isEmpty_iff])).symm

/-- What there is under a key after some calls. -/
theorem feed_valueHandler (hname : '='.toUInt8 ∉ n) (hcs : ∀ c ∈ cs, '='.toUInt8 ∉ c.name)
    (values : Text → Option Text) : feed valueHandler values cs (makeKey s n) =
      if valuesOf s n cs = [] then values (makeKey s n)
      else some ((valuesOf s n cs).foldl added ((values (makeKey s n)).getD [])) := by
  induction cs generalizing values with
  | nil => rfl
  | cons c cs ih =>
    obtain ⟨hc, hcs⟩ := List.forall_mem_cons.mp hcs
    have hfeed : feed valueHandler values (c :: cs) = feed valueHandler (Function.update values
        (makeKey c.sectionName c.name)
        (some (added ((values (makeKey c.sectionName c.name)).getD []) c.value))) cs := rfl
    rw [hfeed, ih hcs]
    by_cases hmatch : SameText c.sectionName s ∧ SameText c.name n
    · have hvalues : valuesOf s n (c :: cs) = c.value :: valuesOf s n cs := by
        simp [valuesOf, hmatch]
      rw [hvalues, if_neg (List.cons_ne_nil _ _), (makeKey_inj hc hname).mpr hmatch,
        Function.update_self, List.foldl_cons, Option.getD_some]
      split
      · next hnil => rw [hnil, List.foldl_nil]
      · rfl
    · have hvalues : valuesOf s n (c :: cs) = valuesOf s n cs := by
        simp [valuesOf, hmatch]
      have hkey : makeKey s n ≠ makeKey c.sectionName c.name :=
        fun heq => hmatch ((makeKey_inj hc hname).mp heq.symm)
      rw [hvalues, Function.update_of_ne hkey]

theorem total_valueHandler : valueHandler.Total := fun _ _ _ _ => rfl

/-- **What `Get` finds** in a file, whatever is in it. -/
theorem get_eq (content : Text) (sectionName name default_value : Text) (h : '='.toUInt8 ∉ name) :
    (ofFile (some content)).get sectionName name default_value =
      if valuesOf sectionName name (callsOf content) = [] then default_value
      else joined (valuesOf sectionName name (callsOf content)) := by
  have hnames : ∀ c ∈ callsOf content, '='.toUInt8 ∉ c.name := fun c hc hmem =>
    (formed_callsOf content c hc).isName.free.not_mem _ hmem List.mem_cons_self
  have hvalues : (ofFile (some content)).values =
      feed valueHandler (fun _ => none) (callsOf content) := by
    rw [ofFile, iniParse_eq total_valueHandler]
  rw [get, hvalues, feed_valueHandler h hnames]
  split
  · rfl
  · exact foldl_added _

/-! ## Settings -/

/-- What some calls set in a section, with the names in lower case. -/
def settingsOf (sectionName : Text) (cs : List Call) : List (Text × Text) :=
  (cs.filter fun c => SameText c.sectionName sectionName).map fun c => (c.name.map tolower, c.value)

theorem valuesOf_eq (sectionName name : Text) (cs : List Call) : valuesOf sectionName name cs =
    ((settingsOf sectionName cs).filter fun x => x.1 = name.map tolower).map Prod.snd := by
  rw [valuesOf, settingsOf, List.filter_map, List.map_map, List.filter_filter]
  congr 2
  funext c
  rw [Bool.decide_and, Bool.and_comm]
  rfl

/-- Only one of some settings with different names has a given one. -/
theorem filter_eq_singleton {k x : Text} : ∀ {settings : List (Text × Text)},
    (settings.map Prod.fst).Nodup → (k, x) ∈ settings →
    settings.filter (fun y => y.1 = k) = [(k, x)]
  | [], _, hmem => absurd hmem List.not_mem_nil
  | y :: ys, hnodup, hmem => by
      obtain ⟨hy, hys⟩ := List.nodup_cons.mp hnodup
      rcases List.mem_cons.mp hmem with rfl | hmem
      · have hnone : ys.filter (fun y => y.1 = k) = [] := by
          refine List.filter_eq_nil_iff.mpr fun z hz hk => hy ?_
          exact List.mem_map.mpr ⟨z, hz, of_decide_eq_true hk⟩
        rw [List.filter_cons_of_pos (by simp), hnone]
      · have hne : y.1 ≠ k := fun h => hy (h ▸ List.mem_map_of_mem hmem)
        rw [List.filter_cons_of_neg (by simpa using hne), filter_eq_singleton hys hmem]

section Settings

variable {settings : List (Text × Text)}
  (hsettings : (settingsOf s (callsOf content)).Perm settings)
include hsettings

/-- **A setting is found**, wherever its section says it. -/
theorem get_of_mem (hnodup : (settings.map Prod.fst).Nodup) (hname : '='.toUInt8 ∉ n)
    {value : Text} (hmem : (n.map tolower, value) ∈ settings) (default_value : Text) :
    (ofFile (some content)).get s n default_value = value := by
  have hperm := ((hsettings.filter fun x => x.1 = n.map tolower).map Prod.snd)
  rw [← valuesOf_eq, filter_eq_singleton hnodup hmem] at hperm
  have hvalues : valuesOf s n (callsOf content) = [value] := List.perm_singleton.mp hperm
  rw [get_eq content s n default_value hname, hvalues, if_neg (List.cons_ne_nil _ _)]
  cases value with
  | nil => rfl
  | cons c value => exact List.intercalate_singleton

theorem get_of_not_mem (hname : '='.toUInt8 ∉ n) (hmem : n.map tolower ∉ settings.map Prod.fst)
    (default_value : Text) : (ofFile (some content)).get s n default_value = default_value := by
  have hnone : settings.filter (fun x => x.1 = n.map tolower) = [] := by
    refine List.filter_eq_nil_iff.mpr fun x hx hn => hmem ?_
    exact List.mem_map.mpr ⟨x, hx, of_decide_eq_true hn⟩
  have hperm := ((hsettings.filter fun x => x.1 = n.map tolower).map Prod.snd)
  rw [← valuesOf_eq, hnone] at hperm
  rw [get_eq content s n default_value hname, List.perm_nil.mp hperm, if_pos]
  rfl

end Settings

/-! ## Numbers -/

theorem digitValue_of_isDigit {c : UInt8} (h : Json.isDigit c = true) :
    digitValue 10 c = some (c.toNat - '0'.toNat) := by
  rw [Json.isDigit, Bool.and_eq_true, decide_eq_true_eq, decide_eq_true_eq] at h
  have hle : c.toNat ≤ 57 := UInt8.le_iff_toNat_le.mp h.2
  have hlt : c.toNat - '0'.toNat < 10 := by
    have hzero : '0'.toNat = 48 := rfl
    omega
  rw [digitValue, if_pos h, if_pos hlt]

theorem digitsValue_eq : ∀ {ds : Text}, (∀ c ∈ ds, Json.isDigit c = true) → ∀ n : ℕ,
    digitsValue 10 n ds = ds.foldl (fun n c => 10 * n + (c.toNat - '0'.toNat)) n
  | [], _, _ => rfl
  | c :: ds, h, n => by
      obtain ⟨hc, hds⟩ := List.forall_mem_cons.mp h
      rw [digitsValue, digitValue_of_isDigit hc, List.foldl_cons, Nat.mul_comm 10 n]
      exact digitsValue_eq hds _

theorem basePrefix_of_ne {c : UInt8} (h : c ≠ '0'.toUInt8) (ds : Text) :
    basePrefix (c :: ds) = (10, c :: ds) := by
  rcases ds with - | ⟨x, - | ⟨d, t⟩⟩ <;> exact if_pos h

/-- The digits of a number, in base 0. -/
theorem exists_base (n : ℕ) : ∃ base, basePrefix (Json.natural n) = (base, Json.natural n) ∧
    ((Json.natural n).head?.bind (digitValue base)).isNone = false ∧
    digitsValue base 0 (Json.natural n) = n := by
  rcases Json.natural_cases n with ⟨rfl, hn⟩ | ⟨c, ds, hn, hc⟩
  · rw [hn]
    exact ⟨8, rfl, rfl, rfl⟩
  · have hdigit : Json.isDigit c = true := Json.isDigit_of_mem_natural (hn ▸ List.mem_cons_self)
    refine ⟨10, hn ▸ basePrefix_of_ne hc ds, ?_, ?_⟩
    · rw [hn, List.head?_cons, Option.bind_some, digitValue_of_isDigit hdigit]
      rfl
    · rw [digitsValue_eq fun c => Json.isDigit_of_mem_natural]
      exact Json.ofDigits_natural n

theorem not_isspace_of_isDigit {c : UInt8} (h : Json.isDigit c = true) : isspace c = false := by
  rw [Json.isDigit, Bool.and_eq_true, decide_eq_true_eq, decide_eq_true_eq] at h
  have hge : 48 ≤ c.toNat := UInt8.le_iff_toNat_le.mp h.1
  rw [isspace, Bool.or_eq_false_iff, Bool.and_eq_false_iff, decide_eq_false_iff_not,
    decide_eq_false_iff_not, decide_eq_false_iff_not]
  refine ⟨?_, .inr fun hle => ?_⟩
  · rintro rfl
    exact absurd hge (by decide)
  · have hle : c.toNat ≤ 13 := UInt8.le_iff_toNat_le.mp hle
    omega

/-- **A decimal number is read back**, if it fits. -/
theorem strtol_decimal {v : ℤ} (hlow : -2 ^ 63 ≤ v) (hhigh : v < 2 ^ 63) :
    strtol (Json.decimal v) = some v := by
  obtain ⟨base, hbase, hhead, hvalue⟩ := exists_base v.natAbs
  rw [Json.decimal, Printf.decimal]
  split_ifs with hv
  · have hskip : lskip ('-'.toUInt8 :: Json.natural v.natAbs) =
      '-'.toUInt8 :: Json.natural v.natAbs :=
      rfl
    rw [List.map_cons, ← Json.natural, strtol]
    simp only [hskip, List.head?_cons, List.tail_cons, true_or, if_true, hbase, hhead, hvalue]
    refine congrArg some ?_
    omega
  · obtain ⟨c, ds, hn⟩ : ∃ c ds, Json.natural v.natAbs = c :: ds := List.exists_cons_of_ne_nil
      fun h => Nat.toDigits_ne_nil (List.map_eq_nil_iff.mp h)
    have hdigit : Json.isDigit c = true := Json.isDigit_of_mem_natural (hn ▸ List.mem_cons_self)
    have hskip : lskip (c :: ds) = c :: ds :=
      List.dropWhile_cons_of_neg (by rw [not_isspace_of_isDigit hdigit]; exact Bool.false_ne_true)
    have hminus : c ≠ '-'.toUInt8 := by
      rintro rfl
      cases hdigit
    have hplus : c ≠ '+'.toUInt8 := by
      rintro rfl
      cases hdigit
    rw [← Json.natural, strtol]
    rw [hn] at hbase hvalue ⊢
    rw [hn, List.head?_cons] at hhead
    simp only [hskip, List.head?_cons, Option.some.injEq, hminus, hplus, or_self, if_false, hbase,
      hhead, hvalue]
    refine congrArg some ?_
    omega

end INIReader

end Sadip
