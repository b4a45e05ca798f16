import Mathlib.Data.List.DropRight
import Sadip.Machinery.Fgets
import Sadip.Machinery.FileSystem

/-!
# Ini — reading a file of settings, `utils/ini/ini.cpp`

The file is read through a buffer of 200 bytes, one piece of a line at a time.  What a piece is
depends on the pieces before it only in two ways: whether there is a name whose value it may go on
with, and whether it is the first.  So the reader is a scan that tells what the pieces are
(`classify`) and a handler that is called for some of them; the error is the first bad piece.
-/

namespace Sadip

namespace Ini

open Fgets

/-- Bytes without a NUL, mostly. -/
abbrev Text := Bytes

/-! ## Strings -/

/-- The bytes of a plain text. -/
def ascii (s : String) : Text := s.toList.map Char.toUInt8

/-- The string that starts where these bytes do. -/
def cString (s : Text) : Text := s.takeWhile (· ≠ 0)

def isspace (c : UInt8) : Bool := c = ' '.toUInt8 || (9 ≤ c && c ≤ 13)

def rstrip (s : Text) : Text := s.rdropWhile isspace

def lskip (s : Text) : Text := s.dropWhile isspace

/-- `find_chars_or_comment`: what is before the place it points to, and what is from there on. -/
def findCharsOrComment (chars : Text) (wasSpace : Bool) : Text → Text × Text
  | [] => ([], [])
  | c :: s =>
      if c ∈ chars ∨ wasSpace = true ∧ c = ';'.toUInt8 then ([], c :: s)
      else (c :: (findCharsOrComment chars (isspace c) s).1,
        (findCharsOrComment chars (isspace c) s).2)

/-- `strncpy0`, into a buffer of this size. -/
def strncpy0 (s : Text) (size : ℕ) : Text := s.take (size - 1)

/-! ## Lines -/

def maxSection : ℕ := 50

def maxName : ℕ := 50

/-- `INI_MAX_LINE`. -/
def maxLine : ℕ := 200

/-- A byte order mark. -/
def bom : Text := [0xEF, 0xBB, 0xBF]

/-- What a line is to the reader. -/
inductive Line
  /-- nothing, or a comment -/
  | blank
  /-- more of the value before it -/
  | continuation (value : Text)
  | heading (name : Text)
  | pair (name value : Text)
  | bad
  deriving DecidableEq

/-- A value, less the comment behind it. -/
def uncommented (s : Text) : Text := rstrip (lskip (findCharsOrComment [] false s).1)

/-- What a line is, on which a name goes on or not; `start` is the string, less its blanks, and
`moved` whether the string starts before it. -/
def classifyStart (named moved : Bool) (start : Text) : Line :=
  match start with
  | [] => .blank
  | c :: rest =>
      if c = ';'.toUInt8 ∨ c = '#'.toUInt8 then .blank
      else if named = true ∧ moved = true then
        .continuation (rstrip (findCharsOrComment [] false start).1)
      else if c = '['.toUInt8 then
        match findCharsOrComment [']'.toUInt8] false rest with
        | (name, e :: _) => if e = ']'.toUInt8 then .heading name else .bad
        | (_, []) => .bad
      else
        match findCharsOrComment ['='.toUInt8, ':'.toUInt8] false start with
        | (name, e :: value) =>
            if e = '='.toUInt8 ∨ e = ':'.toUInt8 then .pair (rstrip name) (uncommented value)
            else .bad
        | (_, []) => .bad

def classify (first named : Bool) (line : Text) : Line :=
  let line := cString line
  let marked := first && bom.isPrefixOf line
  let text := rstrip (if marked then line.drop bom.length else line)
  classifyStart named (marked || decide (lskip text ≠ text)) (lskip text)

/-! ## The reader -/

variable {σ : Type}

/-- `ini_handler`: whether it succeeds, and what becomes of the user's data. -/
abbrev Handler (σ : Type) := σ → Text → Text → Text → Bool × σ

structure State (σ : Type) where
  sectionName : Text := []
  prevName : Text := []
  lineno : ℕ := 0
  error : ℕ := 0
  user : σ

namespace State

variable (handler : Handler σ) (st : State σ)

/-- `if (!error) error = lineno`. -/
def fail : State σ := if st.error = 0 then { st with error := st.lineno } else st

def call (name value : Text) : State σ :=
  let result := handler st.user st.sectionName name value
  let st := { st with user := result.2 }
  if result.1 then st else st.fail

/-- What the reader does for a line. -/
def act : Line → State σ
  | .blank => st
  | .continuation value => st.call handler st.prevName value
  | .heading name => { st with sectionName := strncpy0 name maxSection, prevName := [] }
  | .pair name value => ({ st with prevName := strncpy0 name maxName } :
    State σ).call handler name value
  | .bad => st.fail

/-- One turn of the loop. -/
def readLine (line : Text) : State σ :=
  act handler { st with lineno := st.lineno + 1 }
    (classify (st.lineno = 0) (st.prevName ≠ []) line)

end State

/-- `ini_parse_stream`, of a stream that holds these bytes. -/
def iniParseStream (handler : Handler σ) (user : σ) (content : Text) : State σ :=
  (lines '\n'.toUInt8 (maxLine - 1) content).foldl (State.readLine handler) { user }

/-- `ini_parse`: its result, and the user's data.  There is no content when the file is not opened.
-/
def iniParse (handler : Handler σ) (user : σ) : Option Text → ℤ × σ
  | none => (-1, user)
  | some content =>
      ((iniParseStream handler user content).error, (iniParseStream handler user content).user)

end Ini

end Sadip
