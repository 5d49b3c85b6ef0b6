import DocPress.Yaml.Error
import DocPress.Yaml.Schema

/-!
# Dates and times

A date of the calendar, and a time with a date, which may tell its distance from universal time.
They are written with dashes and colons, or as the parts that they are made of.
-/

namespace DocPress.Yaml

structure Date where
  year : Nat
  month : Nat
  day : Nat
deriving Repr, DecidableEq

structure Time where
  date : Date
  hour : Nat
  minute : Nat
  second : Nat
  /-- Millionths of a second. -/
  micro : Nat
  /-- The distance from universal time in minutes. -/
  zone : Option Int
deriving Repr, DecidableEq

/-- The number with at least `width` digits. -/
def padded (width n : Nat) : Text :=
  let ds := Text.ofNat n
  List.replicate (width - ds.length) '0' ++ ds

/-- Numbers with commas between them. -/
def listed (ns : List Nat) : Text := Text.join ", ".toList (ns.map Text.ofNat)

namespace Date

def isLeapYear (y : Nat) : Bool := (y % 4 = 0 && y % 100 ≠ 0) || y % 400 = 0

/-- The number of days in a month. -/
def daysIn (year month : Nat) : Nat :=
  if month = 2 then if isLeapYear year then 29 else 28
  else if [4, 6, 9, 11].contains month then 30 else 31

/-- The date is one of the calendar. -/
def check (d : Date) : Except Error Unit :=
  if d.year = 0 then .error (.range (.year d.year))
  else if d.month < 1 || 12 < d.month then .error (.range .month)
  else if d.day < 1 || daysIn d.year d.month < d.day then .error (.range .day)
  else .ok ()

/-- The date with dashes. -/
def text (d : Date) : Text :=
  padded 4 d.year ++ '-' :: padded 2 d.month ++ '-' :: padded 2 d.day

def numbers (d : Date) : List Nat := [d.year, d.month, d.day]

/-- The date as its parts. -/
def parts (d : Date) : Text := "datetime.date(".toList ++ listed d.numbers ++ [')']

end Date

namespace Time

/-- The date and the clock can be so. -/
def check (t : Time) : Except Error Unit :=
  match t.zone with
  | some z =>
    if z.natAbs ≥ 1440 then .error (.range (.offset z)) else clock t
  | none => clock t
where
  clock (t : Time) : Except Error Unit := do
    t.date.check
    if t.hour > 23 then throw (.range .hour)
    if t.minute > 59 then throw (.range .minute)
    if t.second > 59 then throw (.range .second)

/-- The time with dashes and colons. -/
def text (t : Time) : Text :=
  let zone := match t.zone with
    | none => []
    | some z =>
      (if z < 0 then '-' else '+') ::
        padded 2 (z.natAbs / 60) ++ ':' :: padded 2 (z.natAbs % 60)
  let micro := if t.micro = 0 then [] else '.' :: padded 6 t.micro
  t.date.text ++ ' ' :: padded 2 t.hour ++ ':' :: padded 2 t.minute ++ ':' :: padded 2 t.second ++
    micro ++ zone

/-- The time as its parts; seconds and their fractions are left out if they are zero. -/
def parts (t : Time) : Text :=
  let fine := if t.micro ≠ 0 then [t.second, t.micro] else if t.second ≠ 0 then [t.second] else []
  let zone := match t.zone with
    | none => []
    | some z =>
      ", tzinfo=".toList ++
        (if z = 0 then "datetime.timezone.utc".toList
        else s!"datetime.timezone({durationText z})".toList)
  "datetime.datetime(".toList ++ listed (t.date.numbers ++ [t.hour, t.minute] ++ fine) ++ zone ++
    [')']

end Time

/-- The number that digits write. -/
def number (ds : Text) : Nat := Numeral.value 10 ds

/-- Millionths of a second from the digits behind the point. -/
def microOf (ds : Text) : Nat := number ((ds ++ List.replicate 6 '0').take 6)

/-- The distance from universal time in minutes. -/
def zoneOf (zone : Option Char × Text × Text) : Int :=
  let minutes : Int := number zone.2.1 * 60 + number zone.2.2
  if zone.1 = some '-' then -minutes else minutes

/-- The date that parts say, or the time if there is a clock among them. -/
def ofTimeParts (p : Schema.TimeParts) : Except Error (Date ⊕ Time) :=
  let date : Date := ⟨number p.year, number p.month, number p.day⟩
  match p.clock with
  | none => do date.check; return .inl date
  | some (hour, minute, second) => do
    let t : Time :=
      { date, hour := number hour, minute := number minute, second := number second
        micro := microOf p.fraction, zone := p.zone.map zoneOf }
    t.check
    return .inr t

end DocPress.Yaml
