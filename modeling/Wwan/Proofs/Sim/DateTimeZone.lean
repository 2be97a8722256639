import Wwan.Lib.Calendar
import Wwan.Sim.Stk
import Wwan.Sms.Pdu

/-! The time that a terminal response tells is the time that a short message's timestamp tells. -/

namespace Wwan.Sim.Stk

open Sms (swappedDigits unmarshalTimestamp)

/-- The clock of a zone at a moment, as the methods `Year` to `Second` and `Zone` of a time tell it. -/
def Time.ofUnix (seconds offset : Int) : Time :=
  let date := Calendar.date ((seconds + offset) / 86400)
  let clock := (seconds + offset) % 86400
  { year := date.year.toNat, month := date.month.toNat, day := date.day.toNat, hour := (clock / 3600).toNat,
    minute := (clock / 60 % 60).toNat, second := (clock % 60).toNat, offset }

/-- The moment of a timestamp. -/
def timestampUnix (t : Sms.Time) : Int :=
  Calendar.unix t.year t.month t.day t.hour t.minute t.second t.zoneOffset

/-- A leap day, in a zone behind the meridian. -/
example : Time.ofUnix 1709258400 (-18000) =
    { year := 2024, month := 2, day := 29, hour := 21, minute := 0, second := 0, offset := -18000 } := by decide

/-! The digits. -/

/-- Two digits read back. -/
theorem swappedDigits_swappedBCD {n : Nat} (small : n < 100) : swappedDigits (swappedBCD n) = n := by
  have all : ∀ n : Fin 100, swappedDigits (swappedBCD (n : Nat)) = n := by decide +kernel
  exact all ⟨n, small⟩

/-- The quarters of a zone byte read back, with its sign. -/
theorem zone_swappedBCD {n : Nat} (small : n < 80) (sign : UInt8) (flag : sign = 0 ∨ sign = 0x08) :
    ((swappedBCD n ||| sign).toNat &&& 0x07) * 10 + (swappedBCD n ||| sign).toNat >>> 4 = n
      ∧ (swappedBCD n ||| sign) &&& 0x08 = sign := by
  have all : ∀ n : Fin 80, ∀ sign ∈ ([0, 0x08] : List UInt8),
      ((swappedBCD (n : Nat) ||| sign).toNat &&& 0x07) * 10 + (swappedBCD (n : Nat) ||| sign).toNat >>> 4 = n
        ∧ (swappedBCD (n : Nat) ||| sign) &&& 0x08 = sign := by decide +kernel
  exact all ⟨n, small⟩ sign (by simpa using flag)

/-- The offset that a zone byte tells. -/
def zoneSeconds (zone : UInt8) : Int :=
  let offset : Int := ((zone.toNat &&& 0x07) * 10 + zone.toNat >>> 4 : Nat) * 15 * 60
  if zone &&& 0x08 ≠ 0 then -offset else offset

/-- Seven octets are a timestamp. -/
theorem unmarshalTimestamp_eq (year month day hour minute second zone : UInt8) :
    unmarshalTimestamp [year, month, day, hour, minute, second, zone] =
      .ok { year := (if swappedDigits year ≥ 90 then 1900 + swappedDigits year else 2000 + swappedDigits year : Nat),
            month := swappedDigits month, day := swappedDigits day, hour := swappedDigits hour,
            minute := swappedDigits minute, second := swappedDigits second, zoneOffset := zoneSeconds zone } := rfl

/-- A zone byte tells its quarters. -/
theorem zoneSeconds_swappedBCD {quarters : Int} (near : quarters.natAbs < 80) :
    zoneSeconds (swappedBCD quarters.natAbs ||| if quarters < 0 then 0x08 else 0) = quarters * 900 := by
  obtain ⟨count, flag⟩ := zone_swappedBCD near (if quarters < 0 then 0x08 else 0) (by split <;> simp)
  rw [zoneSeconds, count, flag]
  by_cases behind : quarters < 0
  · rw [if_pos behind, if_pos (by decide)]
    omega
  · rw [if_neg behind, if_neg (by decide)]
    omega

/-- A time whose fields have two digits, and whose zone has fewer than eighty quarters, reads back with its year in the
window of a hundred years. -/
theorem unmarshalTimestamp_dateTimeZone {t : Time} {quarters : Int} (zone : t.offset = quarters * 900)
    (near : quarters.natAbs < 80) (early : 1990 ≤ t.year) (late : t.year ≤ 2089) (month : t.month < 100)
    (day : t.day < 100) (hour : t.hour < 100) (minute : t.minute < 100) (second : t.second < 100) :
    unmarshalTimestamp (dateTimeZone t) =
      .ok { year := t.year, month := t.month, day := t.day, hour := t.hour, minute := t.minute, second := t.second,
            zoneOffset := t.offset } := by
  have whole : t.offset.tdiv (15 * 60) = quarters := by
    rw [zone]
    exact Int.mul_tdiv_cancel quarters (by decide)
  have year := swappedDigits_swappedBCD (n := t.year % 100) (by omega)
  -- Two digits from ninety on are years of the last century.
  have window : (if t.year % 100 ≥ 90 then 1900 + t.year % 100 else 2000 + t.year % 100) = t.year := by
    split <;> omega
  rw [dateTimeZone, whole, unmarshalTimestamp_eq, year, window, swappedDigits_swappedBCD month,
    swappedDigits_swappedBCD day, swappedDigits_swappedBCD hour, swappedDigits_swappedBCD minute,
    swappedDigits_swappedBCD second, zoneSeconds_swappedBCD near, zone]

/-- The clock at a moment of the common era reads as that moment. -/
theorem unix_ofUnix {seconds offset : Int} (common : 0 < (Time.ofUnix seconds offset).year) :
    Calendar.unix (Time.ofUnix seconds offset).year (Time.ofUnix seconds offset).month (Time.ofUnix seconds offset).day
      (Time.ofUnix seconds offset).hour (Time.ofUnix seconds offset).minute (Time.ofUnix seconds offset).second offset
      = seconds := by
  simp only [Time.ofUnix, Int.lt_toNat] at common ⊢
  have number := Calendar.dayNumber_date ((seconds + offset) / 86400)
  have month := Calendar.date_month ((seconds + offset) / 86400)
  have day := Calendar.date_day ((seconds + offset) / 86400)
  -- No field of the clock is negative.
  rw [Calendar.unix, Int.toNat_of_nonneg (by omega), Int.toNat_of_nonneg (by omega), Int.toNat_of_nonneg (by omega),
    Int.toNat_of_nonneg (by omega), Int.toNat_of_nonneg (by omega), Int.toNat_of_nonneg (by omega), number]
  omega

/-- The date and time that a terminal response tells for a moment, in the years 1990 to 2089 of a zone of fewer than
eighty quarters of an hour, are a timestamp of the same moment and zone. -/
theorem dateTimeZone_timestamp (seconds quarters : Int) (near : quarters.natAbs < 80)
    (early : 1990 ≤ (Time.ofUnix seconds (quarters * 900)).year)
    (late : (Time.ofUnix seconds (quarters * 900)).year ≤ 2089) :
    ∃ t, unmarshalTimestamp (dateTimeZone (Time.ofUnix seconds (quarters * 900))) = .ok t ∧ timestampUnix t = seconds
      ∧ t.zoneOffset = quarters * 900 := by
  have month := Calendar.date_month ((seconds + quarters * 900) / 86400)
  have day := Calendar.date_day ((seconds + quarters * 900) / 86400)
  have read := unmarshalTimestamp_dateTimeZone (t := Time.ofUnix seconds (quarters * 900)) rfl near early late
    (by simp only [Time.ofUnix]; omega) (by simp only [Time.ofUnix]; omega) (by simp only [Time.ofUnix]; omega)
    (by simp only [Time.ofUnix]; omega) (by simp only [Time.ofUnix]; omega)
  exact ⟨_, read, unix_ofUnix (by omega), rfl⟩

/-- The evening of a leap day, in a zone behind the meridian. -/
theorem leapDay_timestamp : (-20 : Int).natAbs < 80 ∧ 1990 ≤ (Time.ofUnix 1709258400 (-20 * 900)).year
    ∧ (Time.ofUnix 1709258400 (-20 * 900)).year ≤ 2089
    ∧ ∃ t, unmarshalTimestamp (dateTimeZone (Time.ofUnix 1709258400 (-20 * 900))) = .ok t
      ∧ timestampUnix t = 1709258400 ∧ t.zoneOffset = -20 * 900 :=
  ⟨by decide, by decide, by decide, dateTimeZone_timestamp 1709258400 (-20) (by decide) (by decide) (by decide)⟩

end Wwan.Sim.Stk
