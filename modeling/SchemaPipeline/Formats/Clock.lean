/-!
# Dates and times

The days, times of day and spans of time that a text can write. A day exists in its month, and a
leap second is the last one of a day at the prime meridian.

In numbers of a fixed width any of the sixteen characters from `0` on is a digit, with its distance
from it for a value; what matters is the number that the digits make up.
-/

namespace SchemaPipeline.Clock

def digit? (c : Char) : Option Nat :=
  if 0x30 ≤ c.toNat ∧ c.toNat ≤ 0x3f then some (c.toNat - 0x30) else none

/-- The number that digits make up. -/
def number? (ds : List Char) : Option Nat :=
  ds.foldlM (fun n c => (digit? c).map (n * 10 + ·)) 0

def isLeapYear (y : Nat) : Bool := y % 4 == 0 && (y % 100 != 0 || y % 400 == 0)

def daysIn (year month : Nat) : Nat :=
  if month = 2 then (if isLeapYear year then 29 else 28)
  else if [4, 6, 9, 11].contains month then 30
  else 31

def isDay (year month day : Nat) : Bool :=
  1 ≤ month && month ≤ 12 && 1 ≤ day && day ≤ daysIn year month

def isDate (cs : List Char) : Bool :=
  match cs with
  | [y₁, y₂, y₃, y₄, '-', m₁, m₂, '-', d₁, d₂] =>
    match number? [y₁, y₂, y₃, y₄], number? [m₁, m₂], number? [d₁, d₂] with
    | some year, some month, some day => isDay year month day
    | _, _, _ => false
  | _ => false

/-! ## Times of day -/

/-- The minutes east of the prime meridian that a zone names. -/
def zoneOffset? (cs : List Char) : Option Int :=
  match cs with
  | ['Z'] => some 0
  | ['z'] => some 0
  | [sign, h₁, h₂, ':', m₁, m₂] =>
    match number? [h₁, h₂], number? [m₁, m₂] with
    | some hours, some minutes =>
      if hours ≤ 23 ∧ minutes ≤ 59 then
        let offset : Int := hours * 60 + minutes
        if sign = '+' then some offset else if sign = '-' then some (-offset) else none
      else none
    | _, _ => none
  | _ => none

/-- What follows a fraction of a second, if there is one; it has at least one digit. -/
def dropFraction (cs : List Char) : Option (List Char) :=
  match cs with
  | '.' :: rest =>
    let after := rest.dropWhile Char.isDigit
    if after.length = rest.length then none else some after
  | _ => some cs

/-- Whether a second exists in a minute of the day, in a zone so many minutes east. -/
def isSecond (second minuteOfDay : Nat) (offset : Int) : Bool :=
  second ≤ 59 || (second == 60 && ((minuteOfDay : Int) - offset) % 1440 == 1439)

def isTime (cs : List Char) : Bool :=
  match cs with
  | h₁ :: h₂ :: ':' :: m₁ :: m₂ :: ':' :: s₁ :: s₂ :: rest =>
    match number? [h₁, h₂], number? [m₁, m₂], number? [s₁, s₂],
        (dropFraction rest).bind zoneOffset? with
    | some hour, some minute, some second, some offset =>
      hour ≤ 23 && minute ≤ 59 && isSecond second (hour * 60 + minute) offset
    | _, _, _, _ => false
  | _ => false

/-- A day and a time with a `T` between them. -/
def isDateTime (cs : List Char) : Bool :=
  let isMark := fun c => c == 'T' || c == 't'
  isDate (cs.takeWhile (!isMark ·)) &&
    (match cs.dropWhile (!isMark ·) with
     | _ :: time => isTime time
     | [] => false)

/-! ## Spans of time -/

/-- Drops the leading number before each unit in turn, where it is given. The result is the rest
and whether any unit was. -/
def dropUnits : List Char → List Char → List Char × Bool
  | [], cs => (cs, false)
  | unit :: units, cs =>
    let ds := cs.takeWhile Char.isDigit
    match ds, cs.drop ds.length with
    | _ :: _, c :: rest =>
      if c = unit then ((dropUnits units rest).1, true) else dropUnits units cs
    | _, _ => dropUnits units cs

/-- Drops weeks, or else years, months and days. -/
def dropDays (cs : List Char) : List Char × Bool :=
  match dropUnits ['W'] cs with
  | (rest, true) => (rest, true)
  | (_, false) => dropUnits ['Y', 'M', 'D'] cs

def isDuration (cs : List Char) : Bool :=
  match cs with
  | 'P' :: span =>
    match dropDays span with
    | ([], any) => any
    | ('T' :: time, _) => dropUnits ['H', 'M', 'S'] time == ([], true)
    | _ => false
  | _ => false

end SchemaPipeline.Clock
