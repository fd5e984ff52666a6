import PeerTrust.Asn1.Value

/-!
# Moments

The times that bound a certificate's validity, to the second and in universal time. Moments are
compared field by field from the year down.
-/

namespace PeerTrust.X509

open PeerTrust.Asn1

/-- A moment, spelled as the decimal number YYYYMMDDhhmmss so that order is that of numbers. -/
structure Moment where
  digits : Nat
  deriving DecidableEq, Repr

namespace Moment

/-- The moment with the given fields. -/
def of (year month day hour minute second : Nat) : Moment :=
  ⟨((((year * 100 + month) * 100 + day) * 100 + hour) * 100 + minute) * 100 + second⟩

/-- The year of a moment. -/
def year (m : Moment) : Nat := m.digits / 10000000000

instance : LE Moment := ⟨fun a b => a.digits ≤ b.digits⟩

instance (a b : Moment) : Decidable (a ≤ b) :=
  inferInstanceAs (Decidable (a.digits ≤ b.digits))

instance : LT Moment := ⟨fun a b => a.digits < b.digits⟩

instance (a b : Moment) : Decidable (a < b) :=
  inferInstanceAs (Decidable (a.digits < b.digits))

/-- Whether a year has a 29th of February. -/
def isLeap (year : Nat) : Bool :=
  year % 4 = 0 && (year % 100 ≠ 0 || year % 400 = 0)

/-- How many days a month has. -/
def daysIn (year month : Nat) : Nat :=
  if month = 2 then if isLeap year then 29 else 28
  else if month = 4 ∨ month = 6 ∨ month = 9 ∨ month = 11 then 30
  else 31

/-- The number that two decimal digits spell. -/
def twoDigits? (a b : UInt8) : Option Nat :=
  if 0x30 ≤ a ∧ a ≤ 0x39 ∧ 0x30 ≤ b ∧ b ≤ 0x39 then
    some ((a.toNat - 0x30) * 10 + (b.toNat - 0x30))
  else none

/-- The fields of two digits that an octet string spells. -/
def fields? : Bytes → Option (List Nat)
  | [] => some []
  | a :: b :: rest => do
    let n ← twoDigits? a b
    return n :: (← fields? rest)
  | _ => none

/-- The moment with the given fields, if there is one. -/
def ofFields? (year month day hour minute second : Nat) : Option Moment :=
  if 1 ≤ month ∧ month ≤ 12 ∧ 1 ≤ day ∧ day ≤ daysIn year month ∧ hour < 24 ∧ minute < 60
      ∧ second < 60 then
    some (of year month day hour minute second)
  else none

end Moment

/-- A time as a certificate spells it. -/
structure TimeText where
  /-- Whether the year has four digits. -/
  general : Bool
  text : Bytes
  deriving DecidableEq, Repr

namespace TimeText

/-- Reads a time. -/
def ofElement? (e : Element) : Option TimeText :=
  if e.isUniversal tagUtcTime ∨ e.isUniversal tagGeneralizedTime then
    match e.stringContents? with
    | some contents =>
      if fitsString e.tag.number contents then
        some ⟨e.isUniversal tagGeneralizedTime, contents⟩
      else none
    | none => none
  else none

/-- The moment that a time spells: digits down to the second and a final `Z`. A year of two digits
lies between 1950 and 2049. -/
def moment? (t : TimeText) : Option Moment :=
  match t.text.reverse with
  | 0x5A :: reversed =>
    match t.general, Moment.fields? reversed.reverse with
    | false, some [yy, month, day, hour, minute, second] =>
      Moment.ofFields? (if yy < 50 then 2000 + yy else 1900 + yy) month day hour minute second
    | true, some [century, yy, month, day, hour, minute, second] =>
      Moment.ofFields? (100 * century + yy) month day hour minute second
    | _, _ => none
  | _ => none

end TimeText

end PeerTrust.X509
