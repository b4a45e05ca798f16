import Mathlib.Data.List.Basic

/-!
# Database — what becomes of a statement, `db/rd/rd.cpp`

A statement goes to the server as a text, and whether it is carried out and what the caller hears of
it are two things: a connection can be lost after the server has done its work.
-/

namespace Sadip

namespace Database

/-- What becomes of a statement. -/
inductive Answer
  /-- it is carried out, and the count of rows comes back -/
  | executed
  /-- it is carried out, and an error comes back -/
  | lost
  /-- it is not carried out, and an error comes back -/
  | failed
  /-- an exception, before it is carried out or after -/
  | threw (applied : Bool)
  deriving DecidableEq

def Answer.applies : Answer → Bool
  | .executed => true
  | .lost => true
  | .failed => false
  | .threw applied => applied

/-- A string that the server reads between quotes as it was printed there. -/
def Plain (s : String) : Prop := '\'' ∉ s.toList ∧ '\\' ∉ s.toList

instance (s : String) : Decidable (Plain s) := by
  unfold Plain
  infer_instance

end Database

end Sadip
