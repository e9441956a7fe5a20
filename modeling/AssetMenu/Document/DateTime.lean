/-!
# Dates and times

A document can hold a calendar date, a time of day, both together, and both
together with an offset from universal time.  Such a value is never what a
manifest asks for, so all that is kept of it is what a message shows: the parts
and the way they are written back.
-/

namespace AssetMenu.Document

/-- A day of the calendar. -/
structure Date where
  year : Nat
  month : Nat
  day : Nat
  deriving DecidableEq, Repr

/-- A time of day.  A fraction of a second is kept in nanoseconds. -/
structure Time where
  hour : Nat
  minute : Nat
  second : Nat
  nanosecond : Nat
  deriving DecidableEq, Repr

/-- Distance from universal time. -/
inductive Offset where
  | universal
  | ahead (minutes : Nat)
  | behind (minutes : Nat)
  deriving DecidableEq, Repr

/-- A date, a time, or both, in the latter case perhaps with an offset. -/
structure DateTime where
  date : Option Date
  time : Option Time
  offset : Option Offset
  deriving DecidableEq, Repr

namespace DateTime

/-- Value of a row of decimal digits. -/
def decimal? (digits : List Char) : Option Nat :=
  if digits.all Char.isDigit && !digits.isEmpty then
    some (digits.foldl (fun value c => 10 * value + (c.toNat - 48)) 0)
  else none

/-- Number of days of a month. -/
def daysIn (year month : Nat) : Nat :=
  if month = 2 then
    if year % 4 = 0 ∧ (year % 100 ≠ 0 ∨ year % 400 = 0) then 29 else 28
  else if month ∈ [4, 6, 9, 11] then 30
  else 31

/-- Read `YYYY-MM-DD`. -/
def date? (cs : List Char) : Option (Date × List Char) := do
  let y1 :: y2 :: y3 :: y4 :: '-' :: m1 :: m2 :: '-' :: d1 :: d2 :: rest := cs | none
  let year ← decimal? [y1, y2, y3, y4]
  let month ← decimal? [m1, m2]
  let day ← decimal? [d1, d2]
  guard (1 ≤ month ∧ month ≤ 12)
  guard (1 ≤ day ∧ day ≤ daysIn year month)
  some (⟨year, month, day⟩, rest)

/-- Nanoseconds of a fraction of a second: its first nine digits count. -/
def nanoseconds? (digits : List Char) : Option Nat :=
  if digits.all Char.isDigit && !digits.isEmpty then
    decimal? ((digits ++ List.replicate 9 '0').take 9)
  else none

/-- Read what follows `HH:MM` in a time: seconds and nanoseconds, which are zero if
they are left out. -/
def seconds? (cs : List Char) : Option ((Nat × Nat) × List Char) := do
  match cs with
  | ':' :: s1 :: s2 :: rest =>
      let second ← decimal? [s1, s2]
      guard (second ≤ 60)
      match rest with
      | '.' :: fraction =>
          let nanosecond ← nanoseconds? (fraction.takeWhile Char.isDigit)
          some ((second, nanosecond), fraction.dropWhile Char.isDigit)
      | _ => some ((second, 0), rest)
  | _ => some ((0, 0), cs)

/-- Read `HH:MM`, `HH:MM:SS` or `HH:MM:SS.fraction`. -/
def time? (cs : List Char) : Option (Time × List Char) := do
  let h1 :: h2 :: ':' :: m1 :: m2 :: rest := cs | none
  let hour ← decimal? [h1, h2]
  let minute ← decimal? [m1, m2]
  guard (hour ≤ 23 ∧ minute ≤ 59)
  let ((second, nanosecond), rest) ← seconds? rest
  some (⟨hour, minute, second, nanosecond⟩, rest)

/-- Read an offset, which must take up all of the text. -/
def offset? (cs : List Char) : Option Offset := do
  match cs with
  | ['Z'] => some .universal
  | ['z'] => some .universal
  | [sign, h1, h2, ':', m1, m2] =>
      let hour ← decimal? [h1, h2]
      let minute ← decimal? [m1, m2]
      guard (hour ≤ 23 ∧ minute ≤ 59)
      if sign = '+' then some (.ahead (60 * hour + minute))
      else if sign = '-' then some (.behind (60 * hour + minute))
      else none
  | _ => none

/-- Read a date, a time or both.  Date and time are parted by `T`, `t` or a
space; only both together admit an offset. -/
def ofText? (cs : List Char) : Option DateTime := do
  match date? cs with
  | none =>
      match ← time? cs with
      | (time, []) => some ⟨none, some time, none⟩
      | _ => none
  | some (date, []) => some ⟨some date, none, none⟩
  | some (date, mark :: rest) =>
      guard (mark = 'T' ∨ mark = 't' ∨ mark = ' ')
      match ← time? rest with
      | (time, []) => some ⟨some date, some time, none⟩
      | (time, rest) => some ⟨some date, some time, some (← offset? rest)⟩

/-- Decimal digits of `n`, filled up with zeros to `width`. -/
def padded (width n : Nat) : String :=
  let digits := toString n
  String.ofList (List.replicate (width - digits.length) '0') ++ digits

/-- A fraction of a second behind its point, without closing zeros. -/
def fractionText (nanosecond : Nat) : String :=
  if nanosecond = 0 then ""
  else "." ++ String.ofList ((padded 9 nanosecond).toList.reverse.dropWhile (· == '0')).reverse

def dateText (date : Date) : String :=
  s!"{padded 4 date.year}-{padded 2 date.month}-{padded 2 date.day}"

def timeText (time : Time) : String :=
  s!"{padded 2 time.hour}:{padded 2 time.minute}:{padded 2 time.second}" ++
    fractionText time.nanosecond

def offsetText : Offset → String
  | .universal => "Z"
  | .ahead minutes => s!"+{padded 2 (minutes / 60)}:{padded 2 (minutes % 60)}"
  | .behind minutes =>
      let sign := if minutes = 0 then "+" else "-"
      s!"{sign}{padded 2 (minutes / 60)}:{padded 2 (minutes % 60)}"

/-- The normal form of a date or time: `T` between date and time, seconds even if
they were left out, `Z` for universal time. -/
def text (value : DateTime) : String :=
  let date := (value.date.map dateText).getD ""
  let mark := if value.date.isSome && value.time.isSome then "T" else ""
  date ++ mark ++ (value.time.map timeText).getD "" ++ (value.offset.map offsetText).getD ""

end DateTime

end AssetMenu.Document
