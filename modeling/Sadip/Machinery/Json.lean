import Mathlib.Data.List.Basic
import Sadip.Machinery.Printf

/-!
# Machinery/Json — JSON values, and a library that writes and reads them

Texts are bytes, and strings may be any bytes: the writer escapes quotes, backslashes and control
characters and copies the rest, and the reader takes what stands between two quotes as it is.
Numbers without a fraction and an exponent are integers if they fit in 64 bits.  The others are
`double`s; how these are read and written is a parameter (`Doubles`).

The reader goes down into arrays and objects as long as its fuel lasts.  As much fuel as the text is
long is enough, and more of it makes no difference (`readValue_of_le`), so that `value` has none.
-/

namespace Json

abbrev Text := List UInt8

/-- The bytes of a text. -/
def utf8 (s : String) : Text := s.toList.flatMap String.utf8EncodeChar

inductive Value (D : Type)
  | null
  | bool (b : Bool)
  | int (v : ℤ)
  | double (d : D)
  | string (s : Text)
  | array (elements : List (Value D))
  | object (members : List (Text × Value D))

/-- How numbers of the type `double` are read, if they are not too big, and written. -/
structure Doubles (D : Type) where
  strtod : Text → Option D
  dtoa : D → Text

variable {D α : Type} (doubles : Doubles D)

/-! ## Writing -/

/-- An upper-case hexadecimal digit. -/
def hexDigit (n : UInt8) : UInt8 := if n < 10 then '0'.toUInt8 + n else 'A'.toUInt8 + (n - 10)

/-- The letter of the short escape of a byte. -/
def shortEscape (c : UInt8) : Option UInt8 :=
  if c = '"'.toUInt8 then some '"'.toUInt8
  else if c = '\\'.toUInt8 then some '\\'.toUInt8
  else if c = 8 then some 'b'.toUInt8
  else if c = 9 then some 't'.toUInt8
  else if c = 10 then some 'n'.toUInt8
  else if c = 12 then some 'f'.toUInt8
  else if c = 13 then some 'r'.toUInt8
  else none

def escape (c : UInt8) : Text :=
  match shortEscape c with
  | some e => ['\\'.toUInt8, e]
  | none =>
    if c < 0x20 then
      ['\\'.toUInt8, 'u'.toUInt8, '0'.toUInt8, '0'.toUInt8, hexDigit (c / 16), hexDigit (c % 16)]
    else [c]

def writeString (s : Text) : Text := '"'.toUInt8 :: s.flatMap escape ++ ['"'.toUInt8]

/-- The decimal digits of a number, after a sign. -/
def decimal (v : ℤ) : Text := (Printf.decimal v).map Char.toUInt8

mutual

def write : Value D → Text
  | .null => utf8 "null"
  | .bool true => utf8 "true"
  | .bool false => utf8 "false"
  | .int v => decimal v
  | .double d => doubles.dtoa d
  | .string s => writeString s
  | .array vs => '['.toUInt8 :: writeElements vs ++ [']'.toUInt8]
  | .object ms => '{'.toUInt8 :: writeMembers ms ++ ['}'.toUInt8]

def writeElements : List (Value D) → Text
  | [] => []
  | v :: vs => write v ++ if vs.isEmpty then [] else ','.toUInt8 :: writeElements vs

def writeMembers : List (Text × Value D) → Text
  | [] => []
  | (k, v) :: ms =>
      writeString k ++ ':'.toUInt8 :: write v ++
        if ms.isEmpty then [] else ','.toUInt8 :: writeMembers ms

end

/-! ## Reading -/

def isSpace (c : UInt8) : Bool := c = ' '.toUInt8 || c = 10 || c = 13 || c = 9

def skipWhitespace (cs : Text) : Text := cs.dropWhile isSpace

/-- The rest of the text, if it begins with these bytes. -/
def literal (word : Text) (a : α) (cs : Text) : Option (α × Text) :=
  if word.isPrefixOf cs then some (a, cs.drop word.length) else none

/-! ### Strings -/

def hexValue (c : UInt8) : Option ℕ :=
  if '0'.toUInt8 ≤ c ∧ c ≤ '9'.toUInt8 then some (c.toNat - '0'.toNat)
  else if 'A'.toUInt8 ≤ c ∧ c ≤ 'F'.toUInt8 then some (c.toNat - 'A'.toNat + 10)
  else if 'a'.toUInt8 ≤ c ∧ c ≤ 'f'.toUInt8 then some (c.toNat - 'a'.toNat + 10)
  else none

def hex4 (a b c d : UInt8) : Option ℕ := do
  some ((((← hexValue a) * 16 + (← hexValue b)) * 16 + (← hexValue c)) * 16 + (← hexValue d))

/-- What a short escape stands for. -/
def unescape (e : UInt8) : Option UInt8 :=
  if e = '"'.toUInt8 then some '"'.toUInt8
  else if e = '/'.toUInt8 then some '/'.toUInt8
  else if e = '\\'.toUInt8 then some '\\'.toUInt8
  else if e = 'b'.toUInt8 then some 8
  else if e = 'f'.toUInt8 then some 12
  else if e = 'n'.toUInt8 then some 10
  else if e = 'r'.toUInt8 then some 13
  else if e = 't'.toUInt8 then some 9
  else none

def encode (codepoint : ℕ) : Text := String.utf8EncodeChar (Char.ofNat codepoint)

/-- The string that ends at the next quote that is not escaped. -/
def readString : Text → Option (Text × Text)
  | [] => none
  | c :: cs =>
    if c = '"'.toUInt8 then some ([], cs)
    else if c = '\\'.toUInt8 then
      match cs with
      | [] => none
      | e :: cs =>
        if e = 'u'.toUInt8 then
          match cs with
          | a :: b :: c :: d :: cs =>
            match hex4 a b c d with
            | none => none
            | some n =>
              if n < 0xD800 ∨ 0xDFFF < n then (readString cs).map (Prod.map (encode n ++ ·) id)
              else if n ≤ 0xDBFF then
                match cs with
                | e :: u :: a :: b :: c :: d :: cs =>
                  match hex4 a b c d with
                  | none => none
                  | some l =>
                    if e = '\\'.toUInt8 ∧ u = 'u'.toUInt8 ∧ 0xDC00 ≤ l ∧ l ≤ 0xDFFF then
                      (readString cs).map (Prod.map
                        (encode ((n - 0xD800) * 0x400 + (l - 0xDC00) + 0x10000) ++ ·) id)
                    else none
                | _ => none
              else none
          | _ => none
        else
          match unescape e with
          | none => none
          | some c => (readString cs).map (Prod.map (c :: ·) id)
    else if c < 0x20 then none
    else (readString cs).map (Prod.map (c :: ·) id)

/-! ### Numbers -/

def isDigit (c : UInt8) : Bool := '0'.toUInt8 ≤ c && c ≤ '9'.toUInt8

def ofDigits (ds : Text) : ℕ := ds.foldl (fun n c => 10 * n + (c.toNat - '0'.toNat)) 0

/-- Digits, at least one. -/
def digits (cs : Text) : Option (Text × Text) :=
  if (cs.takeWhile isDigit).isEmpty then none else some (cs.takeWhile isDigit, cs.dropWhile isDigit)

/-- A zero, or digits that do not begin with one. -/
def integral : Text → Option (Text × Text)
  | [] => none
  | c :: cs => if c = '0'.toUInt8 then some ([c], cs) else digits (c :: cs)

def fraction : Text → Option (Text × Text)
  | [] => some ([], [])
  | c :: cs =>
    if c = '.'.toUInt8 then (digits cs).map (Prod.map (c :: ·) id) else some ([], c :: cs)

def sign : Text → Text × Text
  | [] => ([], [])
  | c :: cs => if c = '+'.toUInt8 ∨ c = '-'.toUInt8 then ([c], cs) else ([], c :: cs)

def exponent : Text → Option (Text × Text)
  | [] => some ([], [])
  | c :: cs =>
    if c = 'e'.toUInt8 ∨ c = 'E'.toUInt8 then
      (digits (sign cs).2).map (Prod.map (c :: (sign cs).1 ++ ·) id)
    else some ([], c :: cs)

def minus : Text → Bool × Text
  | [] => (false, [])
  | c :: cs => if c = '-'.toUInt8 then (true, cs) else (false, c :: cs)

/-- An integer that `int64_t` or `uint64_t` holds. -/
def Fits (v : ℤ) : Prop := -2 ^ 63 ≤ v ∧ v < 2 ^ 64

instance (v : ℤ) : Decidable (Fits v) := inferInstanceAs (Decidable (_ ∧ _))

/-- The value of a number, from its text and its parts. -/
def numeral (text : Text) (negative : Bool) (ds frac exp : Text) : Option (Value D) :=
  let v : ℤ := if negative then -ofDigits ds else ofDigits ds
  if frac.isEmpty ∧ exp.isEmpty ∧ Fits v then some (.int v) else (doubles.strtod text).map .double

def readNumber (cs : Text) : Option (Value D × Text) := do
  let (ds, rest) ← integral (minus cs).2
  let (frac, rest) ← fraction rest
  let (exp, rest) ← exponent rest
  let v ← numeral doubles (cs.take (cs.length - rest.length)) (minus cs).1 ds frac exp
  some (v, rest)

/-! ### Arrays and objects -/

/-- One or more items with commas between them, up to `close`. -/
def items (item : Text → Option (α × Text)) (close : UInt8) : ℕ → Text → Option (List α × Text)
  | 0, _ => none
  | n + 1, cs => do
    let (a, cs) ← item cs
    match skipWhitespace cs with
    | [] => none
    | c :: cs =>
      if c = ','.toUInt8 then (items item close n (skipWhitespace cs)).map (Prod.map (a :: ·) id)
      else if c = close then some ([a], cs)
      else none

/-- What follows an opening bracket. -/
def bracketed (item : Text → Option (α × Text)) (close : UInt8) (n : ℕ) (cs : Text) :
    Option (List α × Text) :=
  match skipWhitespace cs with
  | [] => none
  | c :: cs => if c = close then some ([], cs) else items item close n (c :: cs)

/-- A name and its value. -/
def member (item : Text → Option (α × Text)) : Text → Option ((Text × α) × Text)
  | [] => none
  | c :: cs =>
    if c = '"'.toUInt8 then do
      let (k, cs) ← readString cs
      match skipWhitespace cs with
      | [] => none
      | c :: cs =>
        if c = ':'.toUInt8 then (item (skipWhitespace cs)).map (Prod.map (k, ·) id) else none
    else none

def readValue : ℕ → Text → Option (Value D × Text)
  | 0, _ => none
  | _ + 1, [] => none
  | n + 1, c :: cs =>
    if c = 'n'.toUInt8 then literal (utf8 "null") .null (c :: cs)
    else if c = 't'.toUInt8 then literal (utf8 "true") (.bool true) (c :: cs)
    else if c = 'f'.toUInt8 then literal (utf8 "false") (.bool false) (c :: cs)
    else if c = '"'.toUInt8 then (readString cs).map (Prod.map .string id)
    else if c = '['.toUInt8 then
      (bracketed (readValue n) ']'.toUInt8 n cs).map (Prod.map .array id)
    else if c = '{'.toUInt8 then
      (bracketed (member (readValue n)) '}'.toUInt8 n cs).map (Prod.map .object id)
    else readNumber doubles (c :: cs)

/-- The value a text begins with. -/
def value (cs : Text) : Option (Value D × Text) := readValue doubles cs.length cs

/-- The value of a text that is read up to a NUL, if there is one in it. -/
def parse (cs : Text) : Option (Value D) := do
  let (v, rest) ← value doubles (skipWhitespace cs)
  if (skipWhitespace rest).head?.all (· = 0) then some v else none

end Json
