import Mathlib.Data.List.Pairwise
import Mathlib.Logic.Function.Basic
import Sadip.Machinery.Wire

/-!
# Machinery/Wire/Message — messages of protocol buffers, as generated code writes and reads them

The fields of a message are written in the order of their numbers, those with a default value not at
all.  The reader sets a string before it looks whether it is UTF-8, and stops there if it is not:
what it leaves of a message is the message up to that field (`parseWithin_write`).  It stops at a
null byte too, and says that it failed, when the whole message has been read.
-/

namespace Wire

/-! ## Messages -/

/-- What a field holds.  `keep` is what the reader keeps of a number of 64 bits. -/
inductive Kind
  | string
  | bytes
  | number (keep : ℕ → ℕ)
  | messages

structure Field where
  number : ℕ
  kind : Kind

/-- What a message holds under one number; `I` are the messages inside it. -/
@[ext]
structure Slot (I : Type*) where
  number : ℕ
  text : List UInt8
  items : List I

/-- What it holds under each. -/
abbrev Content (I : Type*) := ℕ → Slot I

variable {I : Type*}

/-- A field with its default. -/
def Slot.blank : Slot I := ⟨0, [], []⟩

namespace Content

/-- Every field has its default. -/
def blank : Content I := fun _ => .blank

def setNumber (c : Content I) (i n : ℕ) : Content I :=
  Function.update c i { c i with number := n }

def setText (c : Content I) (i : ℕ) (b : List UInt8) : Content I :=
  Function.update c i { c i with text := b }

def addItem (c : Content I) (i : ℕ) (item : I) : Content I :=
  Function.update c i { c i with items := (c i).items ++ [item] }

/-- The fields up to a number, and no more. -/
def upTo (c : Content I) (i : ℕ) : Content I := fun n => if n ≤ i then c n else .blank

end Content

/-- What the library decides: whether a string is UTF-8, and what is behind a field that it does not
know. -/
structure Library where
  verifyUtf8 : List UInt8 → Bool
  unknownField : ℕ → List UInt8 → Option (List UInt8)

/-- The fields of a message in ascending order, and how the messages inside it are written and
read. -/
structure Schema (I : Type*) where
  fields : List Field
  enc : I → List UInt8
  dec : Library → List UInt8 → Option I
  ascending : fields.Pairwise (·.number < ·.number)
  inRange : ∀ f ∈ fields, 0 < f.number ∧ f.number < maxNumber
  decodes : ∀ lib item, (enc item).length ≤ maxSize → dec lib (enc item) = some item

/-! ## Writing -/

/-- A string under a number. -/
def record (i : ℕ) (b : List UInt8) : List UInt8 := tag i wireLength ++ sized b

def writeText (i : ℕ) (b : List UInt8) : List UInt8 := if b = [] then [] else record i b

def writeNumber (i n : ℕ) : List UInt8 := if n = 0 then [] else tag i wireVarint ++ varint n

def writeItems (enc : I → List UInt8) (i : ℕ) (items : List I) : List UInt8 :=
  items.flatMap fun item => record i (enc item)

/-- A field, unless it has its default. -/
def Field.write (enc : I → List UInt8) (c : Content I) (f : Field) : List UInt8 :=
  match f.kind with
  | .string => writeText f.number (c f.number).text
  | .bytes => writeText f.number (c f.number).text
  | .number _ => writeNumber f.number (c f.number).number
  | .messages => writeItems enc f.number (c f.number).items

/-- `_InternalSerialize`. -/
def Schema.serialize (σ : Schema I) (c : Content I) : List UInt8 :=
  σ.fields.flatMap (Field.write σ.enc c)

/-! ## Reading -/

/-- How reading ends: at the end of the text; at a tag that ends a message; at a string that is not
UTF-8; or at something that is no record, after which the message is not looked at here. -/
inductive Parsed (I : Type*)
  | done (c : Content I)
  | stopped (c : Content I)
  | notUtf8 (c : Content I)
  | malformed

/-- What `ParseFromArray` answers. -/
def Parsed.succeeds : Parsed I → Bool
  | .done _ => true
  | .stopped _ => false
  | .notUtf8 _ => false
  | .malformed => false

/-- What it leaves in the message. -/
def Parsed.content? : Parsed I → Option (Content I)
  | .done c => some c
  | .stopped c => some c
  | .notUtf8 c => some c
  | .malformed => none

/-- Reading goes on behind a record, or is over. -/
inductive Step (I : Type*)
  | goes (s : List UInt8) (c : Content I)
  | over (p : Parsed I)

namespace Schema

variable (σ : Schema I) (lib : Library)

/-- A `case` for a field: nothing if it is not written like this. -/
def readField (wire : ℕ) (s : List UInt8) (c : Content I) (f : Field) : Option (Step I) :=
  match f.kind with
  | .string =>
      if wire = wireLength then
        match readBytes s with
        | none => some (.over .malformed)
        | some (b, s') =>
            if lib.verifyUtf8 b then some (.goes s' (c.setText f.number b))
            else some (.over (.notUtf8 (c.setText f.number b)))
      else none
  | .bytes =>
      if wire = wireLength then
        match readBytes s with
        | none => some (.over .malformed)
        | some (b, s') => some (.goes s' (c.setText f.number b))
      else none
  | .number keep =>
      if wire = wireVarint then
        match readVarint 10 s with
        | none => some (.over .malformed)
        | some (n, s') => some (.goes s' (c.setNumber f.number (keep (n % 2 ^ 64))))
      else none
  | .messages =>
      if wire = wireLength then
        match readBytes s with
        | none => some (.over .malformed)
        | some (b, s') =>
            match σ.dec lib b with
            | none => some (.over .malformed)
            | some item => some (.goes s' (c.addItem f.number item))
      else none

/-- One turn of the loop. -/
def readRecord (s : List UInt8) (c : Content I) : Step I :=
  match readTag s with
  | none => .over .malformed
  | some (t, s') =>
      match (σ.fields.find? (·.number = t / 8)).bind (σ.readField lib (t % 8) s' c) with
      | some step => step
      | none =>
          -- `handle_unusual`
          if t = 0 ∨ t % 8 = 4 then .over (.stopped c)
          else
            match lib.unknownField t s' with
            | none => .over .malformed
            | some s'' => .goes s'' c

/-- So many turns, at most: a record has a byte at least. -/
def parseWithin : ℕ → List UInt8 → Content I → Parsed I
  | _, [], c => .done c
  | 0, _ :: _, _ => .malformed
  | k + 1, b :: s, c =>
      match σ.readRecord lib (b :: s) c with
      | .over p => p
      | .goes s' c' => parseWithin k s' c'

/-- `_InternalParse`, into a message that has been cleared. -/
def parse (s : List UInt8) : Parsed I := σ.parseWithin lib s.length s .blank

end Schema

/-! ## What is read of what was written -/

/-- What a field of this kind can hold. -/
def Kind.Holds (x : Slot I) : Kind → Prop
  | .string => x.number = 0 ∧ x.items = []
  | .bytes => x.number = 0 ∧ x.items = []
  | .number keep => x.text = [] ∧ x.items = [] ∧ x.number < 2 ^ 64 ∧ keep x.number = x.number
  | .messages => x.number = 0 ∧ x.text = []

/-- A message of this kind. -/
structure Schema.Carries (σ : Schema I) (c : Content I) : Prop where
  holds : ∀ f ∈ σ.fields, f.kind.Holds (c f.number)
  blank : ∀ n, (∀ f ∈ σ.fields, f.number ≠ n) → c n = .blank

def Kind.isString : Kind → Bool
  | .string => true
  | .bytes => false
  | .number _ => false
  | .messages => false

/-- The field is a string that is not UTF-8. -/
def Library.Refuses (lib : Library) (c : Content I) (f : Field) : Bool :=
  f.kind.isString && !(c f.number).text.isEmpty && !lib.verifyUtf8 (c f.number).text

/-- The first of these fields that is a string and not UTF-8. -/
def Library.broken? (lib : Library) (c : Content I) (fields : List Field) : Option ℕ :=
  (fields.find? (lib.Refuses c)).map Field.number

namespace Content

variable {c : Content I} {i j : ℕ}

theorem upTo_of_blank (h : ∀ n, i < n → c n = .blank) : c.upTo i = c := by
  funext n
  rw [upTo]
  split
  · rfl
  · exact (h n (by omega)).symm

/-- Fields up to two numbers, if there is nothing from one to the other. -/
theorem upTo_congr (hij : i ≤ j) (h : ∀ n, i < n → n ≤ j → c n = .blank) : c.upTo i = c.upTo j := by
  funext n
  rw [upTo, upTo]
  by_cases hi : n ≤ i
  · rw [if_pos hi, if_pos (hi.trans hij)]
  by_cases hj : n ≤ j
  · rw [if_neg hi, if_pos hj, h n (by omega) hj]
  · rw [if_neg hi, if_neg hj]

theorem upTo_self (h : i < j) : c.upTo i j = .blank := if_neg (by omega)

/-- One more field. -/
theorem update_upTo (hij : i < j) (h : ∀ n, i < n → n < j → c n = .blank) :
    Function.update (c.upTo i) j (c j) = c.upTo j := by
  funext n
  obtain rfl | hne := eq_or_ne n j
  · rw [Function.update_self, upTo, if_pos (le_refl n)]
  rw [Function.update_of_ne hne, upTo, upTo]
  by_cases hi : n ≤ i
  · rw [if_pos hi, if_pos (by omega)]
  by_cases hj : n ≤ j
  · rw [if_neg hi, if_pos hj, h n (by omega) (by omega)]
  · rw [if_neg hi, if_neg hj]

/-- The messages under a number, all at once. -/
def setItems (c : Content I) (i : ℕ) (items : List I) : Content I :=
  Function.update c i { c i with items := items }

theorem addItem_setItems (c : Content I) (i : ℕ) (items : List I) (item : I) :
    (c.setItems i items).addItem i item = c.setItems i (items ++ [item]) := by
  rw [addItem, setItems, Function.update_self, Function.update_idem]
  rfl

section Field

variable (hij : i < j) (h : ∀ n, i < n → n < j → c n = .blank)
include hij h

theorem setText_upTo (hnumber : (c j).number = 0) (hitems : (c j).items = []) :
    (c.upTo i).setText j (c j).text = c.upTo j := by
  rw [setText, upTo_self hij, ← update_upTo hij h]
  exact congrArg _ (Slot.ext hnumber.symm rfl hitems.symm)

theorem setNumber_upTo (htext : (c j).text = []) (hitems : (c j).items = []) :
    (c.upTo i).setNumber j (c j).number = c.upTo j := by
  rw [setNumber, upTo_self hij, ← update_upTo hij h]
  exact congrArg _ (Slot.ext rfl htext.symm hitems.symm)

theorem setItems_upTo (hnumber : (c j).number = 0) (htext : (c j).text = []) :
    (c.upTo i).setItems j (c j).items = c.upTo j := by
  rw [setItems, upTo_self hij, ← update_upTo hij h]
  exact congrArg _ (Slot.ext hnumber.symm htext.symm rfl)

omit h in
theorem setItems_nil : (c.upTo i).setItems j [] = c.upTo i := by
  rw [setItems, upTo_self hij]
  exact Function.update_eq_self_iff.mpr (upTo_self hij).symm

/-- A field that has its default adds nothing. -/
theorem upTo_of_default (hj : c j = .blank) : c.upTo i = c.upTo j :=
  upTo_congr hij.le fun n hin hnj => (eq_or_lt_of_le hnj).elim (fun heq => heq ▸ hj) (h n hin)

end Field

end Content

/-- In an ascending list, an element is found by its key. -/
theorem find?_key {α : Type*} (key : α → ℕ) {l : List α} (hl : l.Pairwise (key · < key ·)) {a : α}
    (ha : a ∈ l) : l.find? (fun x => key x = key a) = some a := by
  have hsome : (l.find? fun x => key x = key a).isSome :=
    List.find?_isSome.mpr ⟨a, ha, decide_eq_true rfl⟩
  obtain ⟨x, hx⟩ := Option.isSome_iff_exists.mp hsome
  have hkey : key x = key a := by
    have h := List.find?_some hx
    exact of_decide_eq_true h
  by_contra hne
  have hxa : x ≠ a := fun h => hne (by rw [hx, h])
  have hapart : l.Pairwise fun x y => key x ≠ key y := hl.imp Nat.ne_of_lt
  have : Std.Symm fun x y : α => key x ≠ key y := ⟨fun _ _ => Ne.symm⟩
  exact hapart.forall (List.mem_of_find?_eq_some hx) ha hxa hkey

namespace Schema

variable {σ : Schema I} {lib : Library} {c c' : Content I} {f : Field} {p : Parsed I}
  {s r : List UInt8}

/-- A field is found by its number. -/
theorem find?_number (hf : f ∈ σ.fields) : σ.fields.find? (·.number = f.number) = some f :=
  find?_key Field.number σ.ascending hf

/-- Reading from here on ends like this, in as many turns as there are bytes. -/
def Ends (σ : Schema I) (lib : Library) (s : List UInt8) (c : Content I) (p : Parsed I) : Prop :=
  ∀ k, s.length ≤ k → σ.parseWithin lib k s c = p

theorem ends_nil (c : Content I) : σ.Ends lib [] c (.done c) := fun k _ => by cases k <;> rfl

theorem Ends.record (hrecord : σ.readRecord lib (r ++ s) c = .goes s c') (hr : r ≠ [])
    (h : σ.Ends lib s c' p) : σ.Ends lib (r ++ s) c p := by
  obtain ⟨b, r, rfl⟩ := List.exists_cons_of_ne_nil hr
  intro k hk
  rw [List.length_append, List.length_cons] at hk
  obtain ⟨k, rfl⟩ : ∃ m, k = m + 1 := ⟨k - 1, by omega⟩
  rw [List.cons_append] at hrecord ⊢
  rw [parseWithin, hrecord]
  exact h k (by omega)

theorem ends_of_over (hrecord : σ.readRecord lib (r ++ s) c = .over p) (hr : r ≠ []) :
    σ.Ends lib (r ++ s) c p := by
  obtain ⟨b, r, rfl⟩ := List.exists_cons_of_ne_nil hr
  intro k hk
  rw [List.length_append, List.length_cons] at hk
  obtain ⟨k, rfl⟩ : ∃ m, k = m + 1 := ⟨k - 1, by omega⟩
  rw [List.cons_append] at hrecord ⊢
  rw [parseWithin, hrecord]

/-- **A null byte ends a message.** -/
theorem ends_zero (s : List UInt8) (c : Content I) : σ.Ends lib (0 :: s) c (.stopped c) := by
  have hfind : σ.fields.find? (·.number = 0) = none :=
    List.find?_eq_none.mpr fun f hf h => absurd (of_decide_eq_true h) (σ.inRange f hf).1.ne'
  have hrecord : σ.readRecord lib ([0] ++ s) c = .over (.stopped c) := by
    rw [List.singleton_append, readRecord, readTag_zero]
    dsimp only
    rw [Nat.zero_div, hfind, Option.bind_none]
    exact if_pos (Or.inl rfl)
  exact ends_of_over hrecord (List.cons_ne_nil _ _)

/-- A tag leads to its field. -/
theorem readRecord_tag {wire : ℕ} {step : Step I} (hf : f ∈ σ.fields) (hwire : wire < 8)
    (h : σ.readField lib wire s c f = some step) :
    σ.readRecord lib (tag f.number wire ++ s) c = step := by
  rw [readRecord, readTag_tag (σ.inRange f hf).2 hwire]
  dsimp only
  rw [show (8 * f.number + wire) / 8 = f.number by omega,
    show (8 * f.number + wire) % 8 = wire by omega, find?_number hf, Option.bind_some, h]

theorem record_append (i : ℕ) (b s : List UInt8) :
    record i b ++ s = tag i wireLength ++ (sized b ++ s) := List.append_assoc _ _ _

theorem tag_ne_nil (i wire : ℕ) : tag i wire ≠ [] := varint_ne_nil _

theorem record_ne_nil (i : ℕ) (b : List UInt8) : record i b ≠ [] :=
  List.append_ne_nil_of_left_ne_nil (tag_ne_nil i wireLength) _

theorem length_le_record (i : ℕ) (b : List UInt8) : b.length ≤ (record i b).length := by
  rw [record, sized, List.length_append, List.length_append]
  omega

/-! ### One field -/

variable {b : List UInt8} {i : ℕ}

theorem readRecord_bytes (hf : f ∈ σ.fields) (hkind : f.kind = .bytes) (hb : b.length ≤ maxSize) :
    σ.readRecord lib (record f.number b ++ s) c = .goes s (c.setText f.number b) := by
  rw [record_append]
  refine readRecord_tag hf (by decide) ?_
  rw [readField, hkind]
  dsimp only
  rw [if_pos rfl, readBytes_sized hb]

theorem readRecord_string (lib : Library) (s : List UInt8) (c : Content I) (hf : f ∈ σ.fields)
    (hkind : f.kind = .string) (hb : b.length ≤ maxSize) :
    σ.readRecord lib (record f.number b ++ s) c
      = if lib.verifyUtf8 b then .goes s (c.setText f.number b)
        else .over (.notUtf8 (c.setText f.number b)) := by
  rw [record_append]
  refine readRecord_tag hf (by decide) ?_
  rw [readField, hkind]
  dsimp only
  rw [if_pos rfl, readBytes_sized hb]
  dsimp only
  split <;> rfl

theorem readRecord_number {keep : ℕ → ℕ} {n : ℕ} (hf : f ∈ σ.fields)
    (hkind : f.kind = .number keep) (hn : n < 2 ^ 64) :
    σ.readRecord lib (tag f.number wireVarint ++ varint n ++ s) c
      = .goes s (c.setNumber f.number (keep n)) := by
  rw [List.append_assoc]
  refine readRecord_tag hf (by decide) ?_
  rw [readField, hkind]
  dsimp only
  rw [if_pos rfl, readVarint_varint hn (hn.trans (by norm_num))]
  dsimp only
  rw [Nat.mod_eq_of_lt hn]

theorem readRecord_item {item : I} (hf : f ∈ σ.fields) (hkind : f.kind = .messages)
    (hdec : σ.dec lib b = some item) (hb : b.length ≤ maxSize) :
    σ.readRecord lib (record f.number b ++ s) c = .goes s (c.addItem f.number item) := by
  rw [record_append]
  refine readRecord_tag hf (by decide) ?_
  rw [readField, hkind]
  dsimp only
  rw [if_pos rfl, readBytes_sized hb]
  dsimp only
  rw [hdec]

theorem writeText_of_ne (hb : b ≠ []) : writeText i b = record i b := if_neg hb

theorem Ends.items {items : List I} (hf : f ∈ σ.fields) (hkind : f.kind = .messages)
    (hfits : (writeItems σ.enc f.number items).length ≤ maxSize) (done : List I)
    (h : σ.Ends lib s (c.setItems f.number (done ++ items)) p) :
    σ.Ends lib (writeItems σ.enc f.number items ++ s) (c.setItems f.number done) p := by
  induction items generalizing done with
  | nil => rwa [List.append_nil] at h
  | cons item items ih =>
      rw [writeItems, List.flatMap_cons, ← writeItems, List.length_append] at hfits
      rw [writeItems, List.flatMap_cons, ← writeItems, List.append_assoc]
      have hrest := ih (by omega) (done ++ [item])
        (by rwa [List.append_assoc, List.singleton_append])
      refine Ends.record ?_ (record_ne_nil _ _) hrest
      rw [← Content.addItem_setItems]
      have hlen : (σ.enc item).length ≤ maxSize := by
        have := length_le_record f.number (σ.enc item)
        omega
      exact readRecord_item hf hkind (σ.decodes lib item hlen) hlen

/-- **One field is read as it was written**, unless it is refused. -/
theorem Ends.field (hf : f ∈ σ.fields) (hij : i < f.number)
    (hbetween : ∀ n, i < n → n < f.number → c n = .blank) (hholds : f.kind.Holds (c f.number))
    (hfits : (f.write σ.enc c).length ≤ maxSize)
    (h : σ.Ends lib s (c.upTo f.number) p) :
    σ.Ends lib (f.write σ.enc c ++ s) (c.upTo i)
      (if lib.Refuses c f then .notUtf8 (c.upTo f.number) else p) := by
  rcases hkind : f.kind with - | - | keep | -
  case string =>
    rw [hkind] at hholds
    obtain ⟨hnumber, hitems⟩ := hholds
    rw [Field.write, hkind] at hfits ⊢
    dsimp only at hfits ⊢
    have hrefuses : lib.Refuses c f
        = (!(c f.number).text.isEmpty && !lib.verifyUtf8 (c f.number).text) := by
      rw [Library.Refuses, hkind, Kind.isString, Bool.true_and]
    rw [hrefuses]
    by_cases htext : (c f.number).text = []
    · rw [writeText, if_pos htext, List.nil_append, htext]
      rw [Content.upTo_of_default hij hbetween (Slot.ext hnumber htext hitems)]
      exact h
    rw [writeText_of_ne htext] at hfits ⊢
    have hrecord := readRecord_string lib s (c.upTo i) hf hkind
      ((length_le_record _ _).trans hfits)
    rw [Content.setText_upTo hij hbetween hnumber hitems] at hrecord
    rw [List.isEmpty_eq_false_iff.mpr htext, Bool.not_false, Bool.true_and]
    rcases hutf8 : lib.verifyUtf8 (c f.number).text with - | -
    · rw [hutf8] at hrecord
      exact ends_of_over hrecord (record_ne_nil _ _)
    · rw [hutf8] at hrecord
      exact h.record hrecord (record_ne_nil _ _)
  case bytes =>
    rw [hkind] at hholds
    obtain ⟨hnumber, hitems⟩ := hholds
    rw [Field.write, hkind] at hfits ⊢
    dsimp only at hfits ⊢
    rw [Library.Refuses, hkind, Kind.isString, Bool.false_and, Bool.false_and]
    by_cases htext : (c f.number).text = []
    · rw [writeText, if_pos htext, List.nil_append,
        Content.upTo_of_default hij hbetween (Slot.ext hnumber htext hitems)]
      exact h
    rw [writeText_of_ne htext] at hfits ⊢
    refine Ends.record ?_ (record_ne_nil _ _) h
    rw [readRecord_bytes hf hkind ((length_le_record _ _).trans hfits),
      Content.setText_upTo hij hbetween hnumber hitems]
  case number =>
    rw [hkind] at hholds
    obtain ⟨htext, hitems, hlt, hkeep⟩ := hholds
    rw [Field.write, hkind]
    dsimp only
    rw [Library.Refuses, hkind, Kind.isString, Bool.false_and, Bool.false_and, writeNumber]
    by_cases hnumber : (c f.number).number = 0
    · rw [if_pos hnumber, List.nil_append,
        Content.upTo_of_default hij hbetween (Slot.ext hnumber htext hitems)]
      exact h
    rw [if_neg hnumber]
    refine Ends.record ?_ (List.append_ne_nil_of_left_ne_nil (tag_ne_nil _ _) _) h
    rw [readRecord_number hf hkind hlt, hkeep, Content.setNumber_upTo hij hbetween htext hitems]
  case messages =>
    rw [hkind] at hholds
    obtain ⟨hnumber, htext⟩ := hholds
    rw [Field.write, hkind] at hfits ⊢
    dsimp only at hfits ⊢
    rw [Library.Refuses, hkind, Kind.isString, Bool.false_and, Bool.false_and]
    rw [← Content.setItems_nil hij]
    refine Ends.items hf hkind hfits [] ?_
    rw [List.nil_append, Content.setItems_upTo hij hbetween hnumber htext]
    exact h

/-! ### All fields -/

theorem broken?_cons (lib : Library) (c : Content I) (f : Field) (fs : List Field) :
    lib.broken? c (f :: fs) = if lib.Refuses c f then some f.number else lib.broken? c fs := by
  rw [Library.broken?, List.find?_cons]
  cases lib.Refuses c f <;> rfl

/-- What is left to be read of these fields, and then of what is behind them. -/
theorem Ends.fields : ∀ {fs : List Field} {i : ℕ}, (∀ f ∈ fs, f ∈ σ.fields) →
    fs.Pairwise (·.number < ·.number) → (∀ f ∈ fs, i < f.number) →
    (∀ f ∈ fs, f.kind.Holds (c f.number)) →
    (∀ n, i < n → (∀ f ∈ fs, f.number ≠ n) → c n = .blank) →
    (fs.flatMap (Field.write σ.enc c)).length ≤ maxSize → σ.Ends lib s c p →
    σ.Ends lib (fs.flatMap (Field.write σ.enc c) ++ s) (c.upTo i)
      ((lib.broken? c fs).elim p fun j => .notUtf8 (c.upTo j))
  | [], i, _, _, _, _, hblank, _, h => by
      rw [Content.upTo_of_blank fun n hn => hblank n hn (List.forall_mem_nil _)]
      exact h
  | f :: fs, i, hsub, hasc, hlt, hholds, hblank, hfits, h => by
      rw [List.flatMap_cons, List.length_append] at hfits
      rw [List.pairwise_cons] at hasc
      have hij : i < f.number := hlt f List.mem_cons_self
      have hrest : σ.Ends lib (fs.flatMap (Field.write σ.enc c) ++ s) (c.upTo f.number)
          ((lib.broken? c fs).elim p fun j => .notUtf8 (c.upTo j)) := by
        refine Ends.fields (fun g hg => hsub g (List.mem_cons_of_mem _ hg)) hasc.2 hasc.1
          (fun g hg => hholds g (List.mem_cons_of_mem _ hg)) (fun n hn hne => ?_) (by omega) h
        refine hblank n (hij.trans hn) fun g hg => ?_
        obtain rfl | hg := List.mem_cons.mp hg
        · exact hn.ne
        · exact hne g hg
      have hbetween : ∀ n, i < n → n < f.number → c n = .blank := fun n hin hnf => by
        refine hblank n hin fun g hg => ?_
        obtain rfl | hg := List.mem_cons.mp hg
        · exact hnf.ne'
        · exact (hnf.trans (hasc.1 g hg)).ne'
      have hfield := hrest.field (hsub f List.mem_cons_self) hij hbetween
        (hholds f List.mem_cons_self) (by omega)
      rw [List.flatMap_cons, List.append_assoc, broken?_cons]
      cases hrefuses : lib.Refuses c f with
      | false =>
          rw [hrefuses] at hfield
          exact hfield
      | true =>
          rw [hrefuses] at hfield
          exact hfield

/-- **Messages read back**, up to the first string that is not UTF-8: if there is none, reading goes
on behind the message. -/
theorem parse_serialize (hc : σ.Carries c) (hfits : (σ.serialize c).length ≤ maxSize)
    (hs : σ.Ends lib s c p) :
    σ.parse lib (σ.serialize c ++ s)
      = (lib.broken? c σ.fields).elim p fun i => .notUtf8 (c.upTo i) := by
  have hzero : (c.upTo 0 : Content I) = .blank := by
    funext n
    rw [Content.upTo]
    split
    case isTrue h =>
      exact hc.blank n fun f hf => (Nat.le_zero.mp h ▸ (σ.inRange f hf).1.ne')
    case isFalse => rfl
  have hends := Ends.fields (i := 0) (fun _ hf => hf) σ.ascending (fun f hf => (σ.inRange f hf).1)
    hc.holds (fun n _ hne => hc.blank n hne) hfits hs
  rw [hzero] at hends
  exact hends _ le_rfl

end Schema

end Wire
