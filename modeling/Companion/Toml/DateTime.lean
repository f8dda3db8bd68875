import Companion.Toml.Flaw

set_option autoImplicit false

namespace Companion.Toml.DateTime

/-- The parts of a text that matter for dates and times. -/
inductive Piece where
  | digits (text : List Char)
  | sign (char : Char)
  deriving DecidableEq, Repr

def pieces : List Char → List Piece
  | [] => []
  | c :: rest =>
      if c.isDigit then
        match pieces rest with
        | .digits text :: others => .digits (c :: text) :: others
        | others => .digits [c] :: others
      else .sign c :: pieces rest

/-- What is wrong: the part in question and what was expected of it. -/
structure Complaint where
  part : Option DatePart
  expected : Option String
  deriving DecidableEq, Repr

def complain {α : Type} (part : DatePart) (expected : String) : Except Complaint α :=
  .error ⟨some part, some expected⟩

def require (condition : Bool) (part : DatePart) (expected : String) : Except Complaint Unit :=
  if condition then .ok () else complain part expected

def digits (part : DatePart) (expected : String) : List Piece → Except Complaint (List Char × List Piece)
  | .digits text :: rest => .ok (text, rest)
  | _ => complain part expected

def behind (c : Char) (part : DatePart) (expected : String) : List Piece → Except Complaint (List Piece)
  | .sign d :: rest => if c == d then .ok rest else complain part expected
  | _ => complain part expected

def valueOf (text : List Char) : Nat :=
  text.foldl (fun value c => value * 10 + (c.toNat - '0'.toNat)) 0

def daysOf (year month : Nat) : Nat :=
  let isLeap := year % 4 == 0 && (year % 100 != 0 || year % 400 == 0)
  if month == 2 then (if isLeap then 29 else 28)
  else if [4, 6, 9, 11].contains month then 30
  else 31

/-- Checks a date whose year has been read, and gives what is behind it. -/
def date (year : List Char) (rest : List Piece) : Except Complaint (List Piece) := do
  let (month, rest) ← digits .date "month" rest
  let rest ← behind '-' .date "`-` (MM-DD)" rest
  let (day, rest) ← digits .date "day" rest
  require (year.length == 4) .date "a four-digit year (YYYY)"
  require (month.length == 2) .date "a two-digit month (MM)"
  require (day.length == 2) .date "a two-digit day (DD)"
  let days := daysOf (valueOf year) (valueOf month)
  require (1 ≤ valueOf month && valueOf month ≤ 12) .date "month between 01 and 12"
  require (1 ≤ valueOf day && valueOf day ≤ days) .date ("day between 01 and " ++ toString days)
  return rest

def optionalDigits (c : Char) (expected : String) (rest : List Piece) :
    Except Complaint (Option (List Char) × List Piece) :=
  match rest with
  | .sign d :: more =>
      if c == d then (digits .time expected more).map fun (text, rest) => (some text, rest)
      else .ok (none, rest)
  | _ => .ok (none, rest)

def time (rest : List Piece) : Except Complaint (List Piece) := do
  let (hour, rest) ← digits .time "hour" rest
  let rest ← behind ':' .time "`:` (HH:MM)" rest
  let (minute, rest) ← digits .time "minute" rest
  let (second, rest) ← optionalDigits ':' "second" rest
  let (_, rest) ← if second.isSome then optionalDigits '.' "nanosecond" rest else pure (none, rest)
  require (hour.length == 2) .time "a two-digit hour (HH)"
  require (minute.length == 2) .time "a two-digit minute (MM)"
  require (second.all (·.length == 2)) .time "a two-digit second (SS)"
  require (valueOf hour ≤ 23) .time "hour between 00 and 23"
  require (valueOf minute ≤ 59) .time "minute between 00 and 59"
  require (second.all (valueOf · ≤ 60)) .time "second between 00 and 60"
  return rest

/-- Checks the hours and minutes of an offset, and gives what is behind them. -/
def offset (rest : List Piece) : Except Complaint (List Piece) := do
  let (hour, rest) ← digits .offset "hour" rest
  let rest ← behind ':' .offset "`:` (HH:MM)" rest
  let (minute, rest) ← digits .offset "minute" rest
  require (hour.length == 2) .offset "a two-digit hour (HH)"
  require (minute.length == 2) .offset "a two-digit minute (MM)"
  require (valueOf hour ≤ 23) .offset "hours between 00 and 23"
  require (valueOf minute ≤ 59) .offset "minutes between 00 and 59"
  return rest

def afterTime : List Piece → Except Complaint (List Piece)
  | [] => .ok []
  | .sign c :: rest =>
      if c == 'Z' || c == 'z' then .ok rest
      else if c == '+' || c == '-' then offset rest
      else complain .offset "`Z`, +OFFSET, -OFFSET"
  | .digits _ :: _ => complain .offset "`Z`, +OFFSET, -OFFSET"

def afterDate : List Piece → Except Complaint (List Piece)
  | [] => .ok []
  | .sign c :: rest =>
      if c == 'T' || c == 't' || c == ' ' then do afterTime (← time rest)
      else complain .dateTime "`T` between date and time"
  | .digits _ :: _ => complain .dateTime "`T` between date and time"

def parse (all : List Piece) : Except Complaint (List Piece) :=
  match all with
  | .digits year :: .sign c :: rest =>
      if c == '-' then do afterDate (← date year rest)
      else if c == ':' then time all
      else .error ⟨none, some "`-` (YYYY-MM) or `:` (HH:MM)"⟩
  | .digits _ :: _ => .error ⟨none, some "`-` (YYYY-MM) or `:` (HH:MM)"⟩
  | _ => .error ⟨none, some "year or hour"⟩

def check (span : Span) (text : List Char) : Except Flaw Unit :=
  match parse (pieces text) with
  | .ok [] => .ok ()
  | .ok (_ :: _) => .error (.malformed span (.dateTime none none))
  | .error complaint => .error (.malformed span (.dateTime complaint.part complaint.expected))

end Companion.Toml.DateTime
