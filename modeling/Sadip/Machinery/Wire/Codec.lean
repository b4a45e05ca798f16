import Sadip.Machinery.Wire.Message

/-!
# Machinery/Wire/Codec — types of messages, and what becomes of a message on its way

A type of messages has a column for each of its fields.  What is received of a message that was
sent, with or without null bytes behind it, is its fields up to the first string that is not UTF-8
(`receive_send`); so it is the message itself exactly if nothing has been set behind that string
(`cut_eq_self_iff`).
-/

namespace Wire

variable {M I : Type*}

/-! ## Columns -/

/-- A field of a type of messages: what a message has in it, and what a message can have of some
content. -/
structure Column (M I : Type*) where
  number : ℕ
  kind : Kind
  get : M → Slot I
  taken : Slot I → Slot I
  holds : ∀ m, kind.Holds (get m)
  taken_blank : taken .blank = .blank

/-- What a field of type `bool` keeps of the number. -/
def keepBool (n : ℕ) : ℕ := if n = 0 then 0 else 1

/-- The low 32 bits. -/
def keepUInt32 (n : ℕ) : ℕ := n % 2 ^ 32

/-- A number of 32 bits, its sign kept. -/
def keepInt32 (n : ℕ) : ℕ := (UInt64.ofNat n).toInt64.toInt32.toInt64.toUInt64.toNat

namespace Slot

def toBool (x : Slot I) : Bool := x.number ≠ 0

def toUInt32 (x : Slot I) : UInt32 := UInt32.ofNat x.number

def toUInt64 (x : Slot I) : UInt64 := UInt64.ofNat x.number

def toInt64 (x : Slot I) : Int64 := (UInt64.ofNat x.number).toInt64

def toInt32 (x : Slot I) : Int32 := (UInt64.ofNat x.number).toInt64.toInt32

def ofBool (b : Bool) : Slot I := ⟨b.toNat, [], []⟩

def ofUInt32 (n : UInt32) : Slot I := ⟨n.toNat, [], []⟩

def ofUInt64 (n : UInt64) : Slot I := ⟨n.toNat, [], []⟩

def ofInt64 (n : Int64) : Slot I := ⟨n.toUInt64.toNat, [], []⟩

def ofInt32 (n : Int32) : Slot I := ⟨n.toInt64.toUInt64.toNat, [], []⟩

@[simp] theorem toBool_ofBool (b : Bool) : (ofBool b : Slot I).toBool = b := by cases b <;> rfl

@[simp] theorem toUInt32_ofUInt32 (n : UInt32) : (ofUInt32 n : Slot I).toUInt32 = n :=
  UInt32.ofNat_toNat

@[simp] theorem toUInt64_ofUInt64 (n : UInt64) : (ofUInt64 n : Slot I).toUInt64 = n :=
  UInt64.ofNat_toNat

@[simp] theorem toInt64_ofInt64 (n : Int64) : (ofInt64 n : Slot I).toInt64 = n := by
  rw [toInt64, ofInt64, UInt64.ofNat_toNat, Int64.toInt64_toUInt64]

@[simp] theorem toInt32_ofInt32 (n : Int32) : (ofInt32 n : Slot I).toInt32 = n := by
  rw [toInt32, ofInt32, UInt64.ofNat_toNat, Int64.toInt64_toUInt64, Int32.toInt32_toInt64]

end Slot

theorem Kind.holds_bool (b : Bool) : (Kind.number keepBool).Holds (Slot.ofBool b : Slot I) := by
  cases b
  · exact ⟨rfl, rfl, Nat.two_pow_pos 64, rfl⟩
  · exact ⟨rfl, rfl, Nat.one_lt_two_pow (by decide), rfl⟩

theorem Kind.holds_int32 (n : Int32) :
    (Kind.number keepInt32).Holds (Slot.ofInt32 n : Slot I) := by
  refine ⟨rfl, rfl, n.toInt64.toUInt64.toNat_lt, ?_⟩
  rw [Slot.ofInt32, keepInt32, UInt64.ofNat_toNat, Int64.toInt64_toUInt64, Int32.toInt32_toInt64]

namespace Column

/-- The parser checks that it is UTF-8. -/
def string (number : ℕ) (get : M → List UInt8) : Column M I where
  number
  kind := .string
  get := fun m => ⟨0, get m, []⟩
  taken := fun x => ⟨0, x.text, []⟩
  holds := fun _ => ⟨rfl, rfl⟩
  taken_blank := rfl

/-- Any bytes. -/
def bytes (number : ℕ) (get : M → List UInt8) : Column M I where
  number
  kind := .bytes
  get := fun m => ⟨0, get m, []⟩
  taken := fun x => ⟨0, x.text, []⟩
  holds := fun _ => ⟨rfl, rfl⟩
  taken_blank := rfl

/-- A list of messages. -/
def messages (number : ℕ) (get : M → List I) : Column M I where
  number
  kind := .messages
  get := fun m => ⟨0, [], get m⟩
  taken := fun x => ⟨0, [], x.items⟩
  holds := fun _ => ⟨rfl, rfl⟩
  taken_blank := rfl

def bool (number : ℕ) (get : M → Bool) : Column M I where
  number
  kind := .number keepBool
  get := fun m => .ofBool (get m)
  taken := fun x => .ofBool x.toBool
  holds := fun m => Kind.holds_bool (get m)
  taken_blank := rfl

def uint32 (number : ℕ) (get : M → UInt32) : Column M I where
  number
  kind := .number keepUInt32
  get := fun m => .ofUInt32 (get m)
  taken := fun x => .ofUInt32 x.toUInt32
  holds := fun m =>
    ⟨rfl, rfl, (get m).toNat_lt.trans (by decide), Nat.mod_eq_of_lt (get m).toNat_lt⟩
  taken_blank := rfl

def uint64 (number : ℕ) (get : M → UInt64) : Column M I where
  number
  kind := .number id
  get := fun m => .ofUInt64 (get m)
  taken := fun x => .ofUInt64 x.toUInt64
  holds := fun m => ⟨rfl, rfl, (get m).toNat_lt, rfl⟩
  taken_blank := rfl

def int64 (number : ℕ) (get : M → Int64) : Column M I where
  number
  kind := .number id
  get := fun m => .ofInt64 (get m)
  taken := fun x => .ofInt64 x.toInt64
  holds := fun m => ⟨rfl, rfl, (get m).toUInt64.toNat_lt, rfl⟩
  taken_blank := rfl

/-- Also an enumeration. -/
def int32 (number : ℕ) (get : M → Int32) : Column M I where
  number
  kind := .number keepInt32
  get := fun m => .ofInt32 (get m)
  taken := fun x => .ofInt32 x.toInt32
  holds := fun m => Kind.holds_int32 (get m)
  taken_blank := rfl

/-- What a message holds in these columns. -/
def content (columns : List (Column M I)) (m : M) : Content I := fun n =>
  ((columns.find? (·.number = n)).map (·.get m)).getD .blank

def field (col : Column M I) : Field := ⟨col.number, col.kind⟩

end Column

/-! ## Types of messages -/

/-- A type of messages.  `make` is the message with these fields. -/
structure Codec (M I : Type*) where
  columns : List (Column M I)
  make : Content I → M
  enc : I → List UInt8
  dec : Library → List UInt8 → Option I
  ascending : columns.Pairwise (·.number < ·.number)
  inRange : ∀ col ∈ columns, 0 < col.number ∧ col.number < maxNumber
  decodes : ∀ lib item, (enc item).length ≤ maxSize → dec lib (enc item) = some item
  make_content : ∀ m, make (Column.content columns m) = m
  get_make : ∀ c, columns.map (fun col => col.get (make c))
    = columns.map fun col => col.taken (c col.number)

namespace Codec

variable (κ : Codec M I) (lib : Library)

/-- The table of the fields that serializer and parser go by. -/
def schema : Schema I where
  fields := κ.columns.map Column.field
  enc := κ.enc
  dec := κ.dec
  ascending := List.pairwise_map.mpr κ.ascending
  inRange := List.forall_mem_map.mpr κ.inRange
  decodes := κ.decodes

abbrev content (m : M) : Content I := Column.content κ.columns m

/-- `SerializeToArray`. -/
def serialize (m : M) : List UInt8 := κ.schema.serialize (κ.content m)

/-- What is put for a message: its bytes, and so many null bytes more. -/
def send (padding : ℕ) (m : M) : List UInt8 := κ.serialize m ++ List.replicate padding 0

/-- What `ParseFromArray` answers. -/
def accepts (s : List UInt8) : Bool := (κ.schema.parse lib s).succeeds

/-- The message that it leaves, when the bytes are records as far as it has read them. -/
def receive (s : List UInt8) : Option M := (κ.schema.parse lib s).content?.map κ.make

/-- The number of the first string that is not UTF-8. -/
def broken? (m : M) : Option ℕ := lib.broken? (κ.content m) κ.schema.fields

/-- A message up to that string. -/
def cut (m : M) : M := (κ.broken? lib m).elim m fun i => κ.make ((κ.content m).upTo i)

/-! ### On the way -/

variable {κ lib} {m : M} {col : Column M I}

/-- Its own column sets a field. -/
theorem content_of_mem (hcol : col ∈ κ.columns) : κ.content m col.number = col.get m := by
  rw [content, Column.content, find?_key Column.number κ.ascending hcol, Option.map_some,
    Option.getD_some]

theorem content_of_ne {n : ℕ} (h : ∀ col ∈ κ.columns, col.number ≠ n) :
    κ.content m n = .blank := by
  rw [content, Column.content, List.find?_eq_none.mpr fun col hcol hn =>
    h col hcol (of_decide_eq_true hn)]
  rfl

/-- What a message does not say is not in it. -/
theorem get_make_of_blank (hcol : col ∈ κ.columns) {c : Content I} (h : c col.number = .blank) :
    col.get (κ.make c) = .blank := by
  rw [List.map_inj_left.mp (κ.get_make c) col hcol, h, col.taken_blank]

/-- What a message holds is a message of the schema. -/
theorem carries (m : M) : κ.schema.Carries (κ.content m) where
  holds := List.forall_mem_map.mpr fun col hcol => by
    rw [Column.field, content_of_mem hcol]
    exact col.holds m
  blank := fun _ hn => content_of_ne fun col hcol => hn col.field (List.mem_map_of_mem hcol)

theorem parse_send (hfits : (κ.serialize m).length ≤ maxSize) (padding : ℕ) :
    κ.schema.parse lib (κ.send padding m)
      = (κ.broken? lib m).elim
          (if padding = 0 then .done (κ.content m) else .stopped (κ.content m))
          fun i => .notUtf8 ((κ.content m).upTo i) := by
  refine Schema.parse_serialize (carries m) hfits ?_
  obtain rfl | ⟨k, rfl⟩ : padding = 0 ∨ ∃ k, padding = k + 1 := by
    rcases padding with - | k
    · exact .inl rfl
    · exact .inr ⟨k, rfl⟩
  · exact Schema.ends_nil _
  · rw [if_neg (Nat.succ_ne_zero k), List.replicate_succ]
    exact Schema.ends_zero _ _

/-- **A message arrives**, up to the first string that is not UTF-8. -/
theorem receive_send (hfits : (κ.serialize m).length ≤ maxSize) (padding : ℕ) :
    κ.receive lib (κ.send padding m) = some (κ.cut lib m) := by
  rw [receive, parse_send hfits, cut]
  rcases κ.broken? lib m with - | i
  · by_cases hp : padding = 0
    · rw [Option.elim_none, if_pos hp]
      exact congrArg some (κ.make_content m)
    · rw [Option.elim_none, if_neg hp]
      exact congrArg some (κ.make_content m)
  · rfl

/-- The parser says so if there is no such string, and nothing behind the message. -/
theorem accepts_send_iff (hfits : (κ.serialize m).length ≤ maxSize) (padding : ℕ) :
    κ.accepts lib (κ.send padding m) = true ↔ padding = 0 ∧ κ.broken? lib m = none := by
  rw [accepts, parse_send hfits]
  rcases hbroken : κ.broken? lib m with - | i
  · by_cases hp : padding = 0
    · rw [Option.elim_none, if_pos hp]
      exact ⟨fun _ => ⟨hp, rfl⟩, fun _ => rfl⟩
    · rw [Option.elim_none, if_neg hp]
      exact ⟨fun h => absurd h Bool.false_ne_true, fun h => absurd h.1 hp⟩
  · exact ⟨fun h => absurd h Bool.false_ne_true, fun h => absurd h.2 (Option.some_ne_none i)⟩

/-- **It arrives as it is** exactly if nothing is set behind that string. -/
theorem cut_eq_self_iff : κ.cut lib m = m ↔
    ∀ i ∈ κ.broken? lib m, ∀ col ∈ κ.columns, i < col.number → col.get m = .blank := by
  rw [cut]
  rcases hbroken : κ.broken? lib m with - | i
  · exact ⟨fun _ => by rintro _ ⟨⟩, fun _ => rfl⟩
  constructor
  · intro heq j hj col hcol hlt
    obtain rfl := Option.mem_some.mp hj
    rw [Option.elim_some] at heq
    have hget := get_make_of_blank hcol (Content.upTo_self (c := κ.content m) hlt)
    rwa [heq] at hget
  · intro h
    have hupTo : (κ.content m).upTo i = κ.content m := by
      refine Content.upTo_of_blank fun n hn => ?_
      by_cases hcol : ∃ col ∈ κ.columns, col.number = n
      · obtain ⟨col, hmem, rfl⟩ := hcol
        rw [content_of_mem hmem]
        exact h i rfl col hmem hn
      · exact content_of_ne fun col hmem hnumber => hcol ⟨col, hmem, hnumber⟩
    rw [Option.elim_some, hupTo]
    exact κ.make_content m

end Codec

end Wire
