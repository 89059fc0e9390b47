import DeckTools.Json.Value
import DeckTools.Text.Ascii

/-!
# Jobs

A job is one run of a tool.  It knows who asked for it and when, and it brings
what a run cannot make up itself: a fresh run of digits for the object it may
create, and how many pages of a listing it may read after the first.
-/

namespace DeckTools

/-! ## Timestamps -/

namespace Timestamp

def padded (width n : Nat) : String :=
  let digits := Nat.toDigits 10 n
  String.ofList (List.replicate (width - digits.length) '0' ++ digits)

/-- Year, month and day of a day counted from 1970-01-01. -/
def date (day : Nat) : Nat × Nat × Nat :=
  let shifted := day + 719468
  let era := shifted / 146097
  let dayOfEra := shifted % 146097
  let yearOfEra := (dayOfEra - dayOfEra / 1460 + dayOfEra / 36524 - dayOfEra / 146096) / 365
  let dayOfYear := dayOfEra - (365 * yearOfEra + yearOfEra / 4 - yearOfEra / 100)
  let marchMonth := (5 * dayOfYear + 2) / 153
  let month := if marchMonth < 10 then marchMonth + 3 else marchMonth - 9
  let year := yearOfEra + era * 400 + (if month ≤ 2 then 1 else 0)
  (year, month, dayOfYear - (153 * marchMonth + 2) / 5 + 1)

def text (milliseconds : Nat) : String :=
  let seconds := milliseconds / 1000
  let (year, month, day) := date (seconds / 86400)
  padded 4 year ++ "-" ++ padded 2 month ++ "-" ++ padded 2 day ++ "T" ++
    padded 2 (seconds / 3600 % 24) ++ ":" ++ padded 2 (seconds / 60 % 60) ++ ":" ++
    padded 2 (seconds % 60) ++ "." ++ padded 3 (milliseconds % 1000) ++ "Z"

end Timestamp

/-! ## Jobs -/

/-- One run of a tool.  IDs are 32 hexadecimal digits, the time is in milliseconds. -/
structure Job where
  id : String
  user : Option String
  createdAt : Nat
  freshDigits : String
  pageBudget : Nat

namespace Job

def hyphenatedId (job : Job) : String :=
  let digits := job.id.toList
  let group (start length : Nat) : String := String.ofList ((digits.drop start).take length)
  String.intercalate "-" [group 0 8, group 8 4, group 12 4, group 16 4, group 20 12]

def newObjectId (job : Job) (word : String) : String :=
  word ++ "_" ++ job.freshDigits

def elapsed (job : Job) (now : Nat) : Int :=
  Int.ofNat now - Int.ofNat job.createdAt

def toJson (job : Job) : Json :=
  Json.object
    [("job_id", .str job.hyphenatedId),
      ("user_id", Json.ofOption .str job.user),
      ("created_at", .str (Timestamp.text job.createdAt))]

end Job

end DeckTools
