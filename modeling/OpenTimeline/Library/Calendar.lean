import Mathlib

/-! Dates and times of the proleptic Gregorian calendar, and their ISO text.

The text of a clock's reading has its fields most significant first, each in a fixed number
of digits, so texts are in order as the readings are (`text_lt_iff`). An offset from UTC
comes last: texts under different offsets are in the order of the clocks, not of the
instants (`isoformat_lt_iff`). -/
namespace OpenTimeline.Library

/-! ### Digits -/

def digit (d : Nat) : Char := Char.ofNat (48 + d)

/-- A number in a fixed number of decimal digits. -/
def pad : Nat → Nat → List Char
  | 0, _ => []
  | width + 1, n => digit (n / 10 ^ width) :: pad width (n % 10 ^ width)

theorem digit_order : ∀ d < 10, ∀ e < 10, (digit d < digit e ↔ d < e) ∧ (digit d = digit e ↔ d = e) := by decide

/-- Texts that start with numbers of one width are in order as the numbers are, and then as
what follows them. -/
theorem pad_lt_iff {width n m : Nat} (hn : n < 10 ^ width) (hm : m < 10 ^ width) {rest rest' : List Char} :
    pad width n ++ rest < pad width m ++ rest' ↔ n < m ∨ n = m ∧ rest < rest' := by
  induction width generalizing n m with
  | zero =>
    have hn : n = 0 := by simpa using hn
    have hm : m = 0 := by simpa using hm
    simp [pad, hn, hm]
  | succ width ih =>
    have hpos : 0 < 10 ^ width := Nat.pow_pos (by decide)
    rw [pow_succ] at hn hm
    obtain ⟨hlt, heq⟩ := digit_order (n / 10 ^ width) (Nat.div_lt_of_lt_mul hn) (m / 10 ^ width)
      (Nat.div_lt_of_lt_mul hm)
    rw [pad, pad, List.cons_append, List.cons_append, List.cons_lt_cons_iff, hlt, heq,
      ih (Nat.mod_lt _ hpos) (Nat.mod_lt _ hpos)]
    have hn := Nat.div_add_mod n (10 ^ width)
    have hm := Nat.div_add_mod m (10 ^ width)
    -- the number is its first digit and the rest of it
    constructor
    · rintro (hfirst | ⟨hfirst, hrest | ⟨hrest, htail⟩⟩)
      · exact Or.inl (Nat.lt_of_div_lt_div hfirst)
      · rw [hfirst] at hn
        exact Or.inl (by omega)
      · rw [hfirst] at hn
        exact Or.inr ⟨by omega, htail⟩
    · rintro (hlt | ⟨rfl, htail⟩)
      · rcases (Nat.div_le_div_right hlt.le).lt_or_eq with hfirst | hfirst
        · exact Or.inl hfirst
        · rw [hfirst] at hn
          exact Or.inr ⟨hfirst, Or.inl (by omega)⟩
      · exact Or.inr ⟨rfl, Or.inr ⟨rfl, htail⟩⟩

/-! ### The calendar -/

def isLeap (year : Nat) : Bool := year % 4 = 0 && (year % 100 ≠ 0 || year % 400 = 0)

/-- The days of the months of a year. -/
def monthLengths (leap : Bool) : List Nat := [31, if leap then 29 else 28, 31, 30, 31, 30, 31, 31, 30, 31, 30, 31]

def daysInMonth (year month : Nat) : Nat := (monthLengths (isLeap year)).getD (month - 1) 0

def daysBeforeMonth (year month : Nat) : Nat := ((monthLengths (isLeap year)).take (month - 1)).sum

def daysBeforeYear (year : Nat) : Nat := (year - 1) * 365 + (year - 1) / 4 - (year - 1) / 100 + (year - 1) / 400

/-- A reading of a clock. -/
structure Clock where
  year : Nat
  month : Nat
  day : Nat
  hour : Nat
  minute : Nat
  second : Nat
  microsecond : Nat
  year_bounds : 1 ≤ year ∧ year ≤ 9999
  month_bounds : 1 ≤ month ∧ month ≤ 12
  day_bounds : 1 ≤ day ∧ day ≤ daysInMonth year month
  time_bounds : hour < 24 ∧ minute < 60 ∧ second < 60 ∧ microsecond < 1000000
deriving DecidableEq, Repr

namespace Clock
variable (c c' : Clock)

/-- The day, the first of January of the year 1 being 1. -/
def ordinal : Nat := daysBeforeYear c.year + daysBeforeMonth c.year c.month + c.day

/-- The seconds of the clock. -/
def seconds : Nat := c.ordinal * 86400 + (c.hour * 3600 + c.minute * 60 + c.second)

def micros : Nat := c.seconds * 1000000 + c.microsecond

end Clock

theorem daysBeforeMonth_lt (leap : Bool) : ∀ m' < 13, ∀ m < m', 1 ≤ m →
    ((monthLengths leap).take (m - 1)).sum + (monthLengths leap).getD (m - 1) 0 ≤
      ((monthLengths leap).take (m' - 1)).sum := by
  cases leap <;> decide

/-- The days up to the end of a month, of a year of its length. -/
theorem daysBeforeMonth_le (leap : Bool) : ∀ m < 13, 1 ≤ m →
    ((monthLengths leap).take (m - 1)).sum + (monthLengths leap).getD (m - 1) 0 ≤ 365 + leap.toNat := by
  cases leap <;> decide

theorem toNat_isLeap (year : Nat) : (isLeap year).toNat + (if 100 ∣ year then 1 else 0) =
    (if 4 ∣ year then 1 else 0) + if 400 ∣ year then 1 else 0 := by
  have h100 : 100 ∣ year → 4 ∣ year := Nat.dvd_trans (by decide)
  have h400 : 400 ∣ year → 100 ∣ year := Nat.dvd_trans (by decide)
  simp only [isLeap, ← Nat.dvd_iff_mod_eq_zero, ne_eq]
  by_cases hcentury : 100 ∣ year
  · simp only [h100 hcentury, hcentury]
    by_cases hfour : 400 ∣ year <;> simp [hfour]
  · have hnot : ¬ 400 ∣ year := fun h => hcentury (h400 h)
    by_cases hfour : 4 ∣ year <;> simp [hfour, hcentury, hnot]

theorem daysBeforeYear_succ (n : Nat) :
    daysBeforeYear (n + 2) = daysBeforeYear (n + 1) + 365 + (isLeap (n + 1)).toNat := by
  have hleap := toNat_isLeap (n + 1)
  have hle : n / 100 ≤ n / 4 := Nat.div_le_div_left (by decide) (by decide)
  unfold daysBeforeYear
  rw [Nat.add_sub_cancel, show n + 2 - 1 = n + 1 from rfl, Nat.succ_div, Nat.succ_div, Nat.succ_div]
  generalize n / 4 = a at *
  generalize n / 100 = b at *
  split_ifs at hleap ⊢ <;> omega

theorem daysBeforeYear_lt {y y' : Nat} (hy : 1 ≤ y) (h : y < y') :
    daysBeforeYear y + 365 + (isLeap y).toNat ≤ daysBeforeYear y' := by
  obtain ⟨n, rfl⟩ := Nat.exists_eq_add_of_le' hy
  induction y', h using Nat.le_induction with
  | base => exact (daysBeforeYear_succ n).ge
  | succ m hm ih =>
    obtain ⟨k, rfl⟩ := Nat.exists_eq_add_of_le' (hy.trans (Nat.le_of_lt hm))
    rw [daysBeforeYear_succ k]
    omega

namespace Clock
variable {c c' : Clock}

theorem ordinal_lt (h : c.year < c'.year ∨ c.year = c'.year ∧ (c.month < c'.month ∨
    c.month = c'.month ∧ c.day < c'.day)) : c.ordinal < c'.ordinal := by
  have hday : c.day ≤ daysInMonth c.year c.month := c.day_bounds.2
  have hday' : 1 ≤ c'.day := c'.day_bounds.1
  unfold daysInMonth at hday
  unfold ordinal daysBeforeMonth
  rcases h with hyear | ⟨hyear, hmonth | ⟨hmonth, hday⟩⟩
  · have hmonths := daysBeforeMonth_le (isLeap c.year) c.month (Nat.lt_succ_of_le c.month_bounds.2) c.month_bounds.1
    have hyears := daysBeforeYear_lt c.year_bounds.1 hyear
    omega
  · have hmonths := daysBeforeMonth_lt (isLeap c.year) c'.month (Nat.lt_succ_of_le c'.month_bounds.2) c.month hmonth
      c.month_bounds.1
    rw [← hyear]
    omega
  · rw [← hyear, ← hmonth]
    omega

/-- Two dates on one day are the same, and else the earlier one is smaller in the first field
they differ in. -/
theorem date_trichotomy (c c' : Clock) :
    (c.year < c'.year ∨ c.year = c'.year ∧ (c.month < c'.month ∨ c.month = c'.month ∧ c.day < c'.day)) ∨
      (c.year = c'.year ∧ c.month = c'.month ∧ c.day = c'.day) ∨
      (c'.year < c.year ∨ c'.year = c.year ∧ (c'.month < c.month ∨ c'.month = c.month ∧ c'.day < c.day)) := by
  omega

theorem ordinal_eq (h : c.year = c'.year ∧ c.month = c'.month ∧ c.day = c'.day) : c.ordinal = c'.ordinal := by
  unfold ordinal
  rw [h.1, h.2.1, h.2.2]

/-- The seconds are in order as the fields are. -/
theorem seconds_lt_iff : c.seconds < c'.seconds ↔
    c.year < c'.year ∨ c.year = c'.year ∧ (c.month < c'.month ∨ c.month = c'.month ∧ (c.day < c'.day ∨
      c.day = c'.day ∧ (c.hour < c'.hour ∨ c.hour = c'.hour ∧ (c.minute < c'.minute ∨
        c.minute = c'.minute ∧ c.second < c'.second)))) := by
  obtain ⟨_, _, _, _⟩ := c.time_bounds
  obtain ⟨_, _, _, _⟩ := c'.time_bounds
  unfold seconds
  rcases date_trichotomy c c' with hlt | heq | hgt
  · have := ordinal_lt hlt
    omega
  · have := ordinal_eq heq
    omega
  · have := ordinal_lt hgt
    omega

theorem seconds_eq_iff : c.seconds = c'.seconds ↔
    c.year = c'.year ∧ c.month = c'.month ∧ c.day = c'.day ∧ c.hour = c'.hour ∧ c.minute = c'.minute ∧
      c.second = c'.second := by
  obtain ⟨_, _, _, _⟩ := c.time_bounds
  obtain ⟨_, _, _, _⟩ := c'.time_bounds
  unfold seconds
  rcases date_trichotomy c c' with hlt | heq | hgt
  · have := ordinal_lt hlt
    omega
  · have := ordinal_eq heq
    omega
  · have := ordinal_lt hgt
    omega

/-! ### The text -/

/-- `YYYY-MM-DDTHH:MM:SS`, and what follows it. -/
def secondsText (c : Clock) (rest : List Char) : List Char :=
  pad 4 c.year ++ '-' :: (pad 2 c.month ++ '-' :: (pad 2 c.day ++ 'T' :: (pad 2 c.hour ++ ':' ::
    (pad 2 c.minute ++ ':' :: (pad 2 c.second ++ rest)))))

/-- The microseconds, where there are any. -/
def fraction (c : Clock) (rest : List Char) : List Char :=
  if c.microsecond = 0 then rest else '.' :: (pad 6 c.microsecond ++ rest)

theorem secondsText_lt_iff {rest rest' : List Char} :
    c.secondsText rest < c'.secondsText rest' ↔
      c.seconds < c'.seconds ∨ c.seconds = c'.seconds ∧ rest < rest' := by
  obtain ⟨_, _, _, _⟩ := c.time_bounds
  obtain ⟨_, _, _, _⟩ := c'.time_bounds
  have hlength : ∀ c : Clock, c.day < 10 ^ 2 := by
    intro c
    have hmonth : ∀ leap : Bool, ∀ m < 13, (monthLengths leap).getD (m - 1) 0 ≤ 31 := by decide
    exact Nat.lt_of_le_of_lt
      (c.day_bounds.2.trans (hmonth (isLeap c.year) c.month (Nat.lt_succ_of_le c.month_bounds.2))) (by decide)
  have hyear : ∀ c : Clock, c.year < 10 ^ 4 := fun c => Nat.lt_succ_of_le c.year_bounds.2
  have hmonth : ∀ c : Clock, c.month < 10 ^ 2 := fun c => Nat.lt_of_le_of_lt c.month_bounds.2 (by decide)
  rw [seconds_lt_iff, seconds_eq_iff]
  unfold secondsText
  simp only [pad_lt_iff (hyear c) (hyear c'), pad_lt_iff (hmonth c) (hmonth c'), pad_lt_iff (hlength c) (hlength c'),
    pad_lt_iff (show c.hour < 10 ^ 2 by omega) (show c'.hour < 10 ^ 2 by omega),
    pad_lt_iff (show c.minute < 10 ^ 2 by omega) (show c'.minute < 10 ^ 2 by omega),
    pad_lt_iff (show c.second < 10 ^ 2 by omega) (show c'.second < 10 ^ 2 by omega),
    List.cons_lt_cons_iff, lt_irrefl, false_or, true_and]
  tauto

/-- A text that goes on with a sign comes before one with a fraction. -/
theorem fraction_lt_iff {rest rest' : List Char} (hrest : ∀ more, rest < '.' :: more)
    (hrest' : ∀ more, rest' < '.' :: more) :
    c.fraction rest < c'.fraction rest' ↔
      c.microsecond < c'.microsecond ∨ c.microsecond = c'.microsecond ∧ rest < rest' := by
  have hbound : ∀ c : Clock, c.microsecond < 10 ^ 6 := fun c => c.time_bounds.2.2.2
  unfold fraction
  split_ifs with hnone hnone' hnone'
  · simp [hnone, hnone']
  · exact iff_of_true (hrest _) (Or.inl (by omega))
  · refine iff_of_false (fun h => lt_asymm h (hrest' _)) ?_
    omega
  · rw [List.cons_lt_cons_iff, pad_lt_iff (hbound c) (hbound c')]
    simp

end Clock

/-! ### Offsets -/

/-- A clock's reading and its offset from UTC, in microseconds. -/
structure Zoned where
  clock : Clock
  offset : Int
  offset_bounds : offset.natAbs < 86400000000
deriving DecidableEq, Repr

namespace Zoned

/-- The instant, in microseconds of UTC. -/
def instant (z : Zoned) : Int := z.clock.micros - z.offset

/-- The seconds and the microseconds of an offset, where it has any. -/
def offsetSeconds (n : Nat) : List Char :=
  if n % 60000000 = 0 then []
  else ':' :: (pad 2 (n / 1000000 % 60) ++ if n % 1000000 = 0 then [] else '.' :: pad 6 (n % 1000000))

/-- `±HH:MM` and the seconds -/
def offsetText (z : Zoned) : List Char :=
  let n := z.offset.natAbs
  (if z.offset < 0 then '-' else '+') :: (pad 2 (n / 3600000000) ++ ':' :: (pad 2 (n / 60000000 % 60) ++
    offsetSeconds n))

/-- `isoformat` -/
def isoformat (z : Zoned) : String :=
  String.ofList (z.clock.secondsText (z.clock.fraction z.offsetText))

theorem offsetText_lt (z : Zoned) (more : List Char) : z.offsetText < '.' :: more := by
  unfold offsetText
  rw [List.cons_lt_cons_iff]
  left
  split_ifs <;> decide

theorem nil_lt_offsetSeconds_iff {n : Nat} : [] < offsetSeconds n ↔ n % 60000000 ≠ 0 := by
  unfold offsetSeconds
  split_ifs with hwhole
  · exact iff_of_false (List.not_lt_nil _) (fun h => h hwhole)
  · exact iff_of_true (List.nil_lt_cons _ _) hwhole
  · exact iff_of_true (List.nil_lt_cons _ _) hwhole

/-- Of all offsets, UTC has the first text. -/
theorem offsetText_lt_iff {now z : Zoned} (hutc : now.offset = 0) : now.offsetText < z.offsetText ↔ z.offset ≠ 0 := by
  have hbounds := z.offset_bounds
  have hutcSeconds : offsetSeconds 0 = [] := rfl
  simp only [offsetText, hutc, lt_irrefl, if_false, Int.natAbs_zero, Nat.zero_div, Nat.zero_mod, hutcSeconds]
  rw [List.cons_lt_cons_iff, pad_lt_iff (by decide) (show z.offset.natAbs / 3600000000 < 10 ^ 2 by omega),
    List.cons_lt_cons_iff, pad_lt_iff (by decide) (show z.offset.natAbs / 60000000 % 60 < 10 ^ 2 by omega),
    nil_lt_offsetSeconds_iff]
  simp only [lt_irrefl, false_or, true_and]
  split_ifs with hwest
  · exact iff_of_true (Or.inl (by decide)) hwest.ne
  · simp only [lt_irrefl, false_or, true_and]
    omega

/-- A text is after that of a UTC time where its clock is ahead, or reads the same with
another offset. -/
theorem isoformat_lt_iff {now z : Zoned} (hutc : now.offset = 0) :
    now.isoformat < z.isoformat ↔ now.clock.micros < z.clock.micros ∨
      now.clock.micros = z.clock.micros ∧ z.offset ≠ 0 := by
  obtain ⟨_, _, _, _⟩ := now.clock.time_bounds
  obtain ⟨_, _, _, _⟩ := z.clock.time_bounds
  unfold isoformat Clock.micros
  rw [String.lt_iff, String.toList_ofList, String.toList_ofList, Clock.secondsText_lt_iff,
    Clock.fraction_lt_iff (offsetText_lt now) (offsetText_lt z), offsetText_lt_iff hutc]
  omega

end Zoned

/-- A time in UTC. -/
abbrev Utc := {z : Zoned // z.offset = 0}

example : Zoned.isoformat ⟨⟨2024, 2, 29, 8, 30, 0, 250000, by decide, by decide, by decide, by decide⟩, -19800000000,
    by decide⟩ = "2024-02-29T08:30:00.250000-05:30" := by decide

end OpenTimeline.Library
