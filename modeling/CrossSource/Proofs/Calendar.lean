import CrossSource.Calendar
import Mathlib.Tactic.IntervalCases
/-!
# Every day number has its date

Taking a day number apart gives a year of at most 366 days that begins in March, and the day within
it. The calendar has the date that comes out (`exists_ofDayNumber`), and the number of that date is
the number it was made from (`dayNumber_ofDayNumber`). No other date of the calendar has that number
(`eq_of_dayNumber_eq`), so counting on by one comes to the day after (`ofDayNumber_succ`).
-/

namespace CrossSource.Date

/-! ## What the calendar has -/

theorem exists?_iff {d : Date} : d.exists? = true ↔
    (1 ≤ d.month ∧ d.month ≤ 12) ∧ 1 ≤ d.day ∧ d.day ≤ monthLength d.year d.month := by
  simp only [exists?, Bool.and_eq_true, decide_eq_true_eq, and_assoc]

theorem isLeap_iff {year : Int} :
    isLeap year = true ↔ year % 4 = 0 ∧ (year % 100 ≠ 0 ∨ year % 400 = 0) := by
  simp only [isLeap, Bool.and_eq_true, Bool.or_eq_true, beq_iff_eq, bne_iff_ne, ne_eq]

theorem monthLength_bounds (year : Int) (month : Nat) :
    1 ≤ monthLength year month ∧ monthLength year month ≤ 31 := by
  unfold monthLength
  split_ifs <;> omega

/-! ## Years of an era -/

/-- The year, counted from March, that a day of an era of 400 years falls in. -/
def yearOfEra (day : Int) : Int := (day - day / 1460 + day / 36524 - day / 146096) / 365

/-- The number of the day within that year. -/
def dayOfYear (day : Int) : Int :=
  day - (365 * yearOfEra day + yearOfEra day / 4 - yearOfEra day / 100)

section

variable {day : Int} (h0 : 0 ≤ day) (h1 : day < 146097)

include h0 h1

theorem yearOfEra_bounds : 0 ≤ yearOfEra day ∧ yearOfEra day < 400 := by
  unfold yearOfEra
  omega

/-- All days of an era but its very last one fall in the century that counting by 36524 gives. -/
theorem century_cases : day = 146096 ∨ day / 146096 = 0 ∧ yearOfEra day / 100 = day / 36524 ∧
    (day / 36524 = 0 ∨ day / 36524 = 1 ∨ day / 36524 = 2 ∨ day / 36524 = 3) := by
  -- The very last day alone would count as one of a fifth century.
  by_cases hlast : day = 146096
  · exact .inl hlast
  · have hera : day / 146096 = 0 := by omega
    have hcentury : day / 36524 = 0 ∨ day / 36524 = 1 ∨ day / 36524 = 2 ∨ day / 36524 = 3 := by
      omega
    refine .inr ⟨hera, ?_, hcentury⟩
    unfold yearOfEra
    rcases hcentury with hc | hc | hc | hc <;> rw [hera, hc] <;> omega

theorem dayOfYear_bounds : 0 ≤ dayOfYear day ∧ dayOfYear day ≤ 365 := by
  rcases century_cases h0 h1 with rfl | ⟨hera, hyear, hcentury⟩
  · decide
  · unfold dayOfYear
    generalize hy : yearOfEra day = y at *
    unfold yearOfEra at hy
    rcases hcentury with hc | hc | hc | hc <;> rw [hc] at hyear hy <;> rw [hera] at hy <;> omega

/-- Only a year that ends with a leap day has a day more. -/
theorem leap_of_dayOfYear (hd : dayOfYear day = 365) :
    (yearOfEra day + 1) % 4 = 0 ∧ ((yearOfEra day + 1) % 100 = 0 → yearOfEra day = 399) := by
  rcases century_cases h0 h1 with rfl | ⟨hera, hyear, hcentury⟩
  · decide
  · unfold dayOfYear at hd
    generalize hy : yearOfEra day = y at *
    unfold yearOfEra at hy
    have hmod : y % 4 = 3 := by
      rcases hcentury with hc | hc | hc | hc <;> rw [hc] at hyear hy <;> rw [hera] at hy <;> omega
    refine ⟨by omega, fun hfull => ?_⟩
    rcases hcentury with hc | hc | hc | hc <;> rw [hc] at hyear hy <;> omega

end

/-! ## Years from March -/

/-- The days of all years that begin with a March before that of `year`. -/
def daysBefore (year : Int) : Int :=
  year / 400 * 146097 + (year % 400 * 365 + year % 400 / 4 - year % 400 / 100)

/-- The year that a date falls in, if years begin in March. -/
def marchYear (d : Date) : Int := if d.month ≤ 2 then d.year - 1 else d.year

/-- The number of the month in that year, 0 for March. -/
def marchMonth (d : Date) : Int := if d.month ≤ 2 then d.month + 9 else d.month - 3

/-- The number of the day in that year. -/
def marchDay (d : Date) : Int := (153 * d.marchMonth + 2) / 5 + d.day - 1

theorem dayNumber_eq (d : Date) :
    d.dayNumber = daysBefore d.marchYear + d.marchDay - 719468 := by
  simp only [dayNumber, daysBefore, marchYear, marchDay, marchMonth]
  omega

/-- A year from March ends with February. -/
theorem end_of_february {d : Date} (h : d.month = 2) : d.marchMonth = 11 ∧
    monthLength d.year d.month = if isLeap (d.marchYear + 1) then 29 else 28 := by
  simp [marchMonth, marchYear, monthLength, h]

/-- A month but February ends where the next one begins. -/
theorem end_of_month {d : Date} (h1 : 1 ≤ d.month) (h2 : d.month ≤ 12) (h : d.month ≠ 2) :
    0 ≤ d.marchMonth ∧ d.marchMonth ≤ 10 ∧
      (153 * d.marchMonth + 2) / 5 + monthLength d.year d.month =
        (153 * (d.marchMonth + 1) + 2) / 5 := by
  obtain ⟨year, month, day⟩ := d
  unfold marchMonth
  dsimp only at *
  interval_cases month
  case «2» => exact absurd rfl h
  all_goals simp [monthLength]

/-! ## Dates -/

/-- The date of a day of the year that begins with the March of `year`. -/
def ofMarch (year day : Int) : Date :=
  let fromMarch := (5 * day + 2) / 153
  let month := if fromMarch < 10 then fromMarch + 3 else fromMarch - 9
  ⟨if month ≤ 2 then year + 1 else year, month.toNat,
    (day - (153 * fromMarch + 2) / 5 + 1).toNat⟩

theorem ofDayNumber_eq (n : Int) : ofDayNumber n =
    ofMarch (yearOfEra ((n + 719468) % 146097) + (n + 719468) / 146097 * 400)
      (dayOfYear ((n + 719468) % 146097)) := rfl

section

variable {year day : Int} (h0 : 0 ≤ day) (h1 : day ≤ 365)

include h0 h1

theorem month_bounds : 0 ≤ (5 * day + 2) / 153 ∧ (5 * day + 2) / 153 ≤ 11 := by omega

theorem marchYear_ofMarch : (ofMarch year day).marchYear = year := by
  have hmonth := month_bounds h0 h1
  simp only [ofMarch, marchYear]
  split_ifs <;> omega

theorem marchMonth_ofMarch : (ofMarch year day).marchMonth = (5 * day + 2) / 153 := by
  have hmonth := month_bounds h0 h1
  simp only [ofMarch, marchMonth]
  split_ifs <;> omega

theorem marchDay_ofMarch : (ofMarch year day).marchDay = day := by
  rw [marchDay, marchMonth_ofMarch h0 h1]
  simp only [ofMarch]
  omega

theorem exists_ofMarch (hleap : day = 365 → isLeap (year + 1) = true) :
    (ofMarch year day).exists? = true := by
  have hbounds := month_bounds h0 h1
  have hmonth : 1 ≤ (ofMarch year day).month ∧ (ofMarch year day).month ≤ 12 := by
    simp only [ofMarch]
    split_ifs <;> omega
  have hmarch : (ofMarch year day).marchMonth = (5 * day + 2) / 153 := marchMonth_ofMarch h0 h1
  have hday : (ofMarch year day).marchDay = day := marchDay_ofMarch h0 h1
  rw [marchDay, hmarch] at hday
  rw [exists?_iff]
  refine ⟨hmonth, by omega, ?_⟩
  -- Only the end of February depends on the year.
  by_cases hfebruary : (ofMarch year day).month = 2
  · obtain ⟨hlast, hlength⟩ := end_of_february hfebruary
    rw [marchYear_ofMarch h0 h1] at hlength
    rw [hlength]
    split_ifs with hyear
    · omega
    · have hne : day ≠ 365 := fun heq => hyear (hleap heq)
      omega
  · obtain ⟨-, -, hend⟩ := end_of_month hmonth.1 hmonth.2 hfebruary
    rw [hmarch] at hend
    omega

theorem dayNumber_ofMarch :
    (ofMarch year day).dayNumber = daysBefore year + day - 719468 := by
  rw [dayNumber_eq, marchYear_ofMarch h0 h1, marchDay_ofMarch h0 h1]

end

theorem exists_ofDayNumber (n : Int) : (ofDayNumber n).exists? = true := by
  have hday : 0 ≤ (n + 719468) % 146097 ∧ (n + 719468) % 146097 < 146097 := by omega
  rw [ofDayNumber_eq]
  generalize (n + 719468) % 146097 = day at *
  obtain ⟨hd0, hd1⟩ := dayOfYear_bounds hday.1 hday.2
  refine exists_ofMarch hd0 hd1 fun hlast => ?_
  obtain ⟨hfourth, hcentury⟩ := leap_of_dayOfYear hday.1 hday.2 hlast
  rw [isLeap_iff]
  omega

/-- The number of the date of a day is that of the day. -/
theorem dayNumber_ofDayNumber (n : Int) : (ofDayNumber n).dayNumber = n := by
  have hday : 0 ≤ (n + 719468) % 146097 ∧ (n + 719468) % 146097 < 146097 := by omega
  have hsplit := Int.mul_ediv_add_emod (n + 719468) 146097
  rw [ofDayNumber_eq]
  generalize (n + 719468) % 146097 = day at *
  obtain ⟨hd0, hd1⟩ := dayOfYear_bounds hday.1 hday.2
  obtain ⟨hy0, hy1⟩ := yearOfEra_bounds hday.1 hday.2
  rw [dayNumber_ofMarch hd0 hd1, daysBefore, dayOfYear]
  omega

/-! ## Numbers tell dates apart -/

theorem daysBefore_succ (year : Int) :
    daysBefore (year + 1) = daysBefore year + if isLeap (year + 1) then 366 else 365 := by
  unfold daysBefore
  split_ifs with hleap
  · have hyear := isLeap_iff.1 hleap
    omega
  · have hyear := isLeap_iff.not.1 hleap
    omega

theorem daysBefore_le {y z : Int} (h : y ≤ z) : daysBefore y ≤ daysBefore z := by
  unfold daysBefore
  omega

section

variable {d e : Date} (hd : d.exists? = true)

include hd

theorem marchDay_bounds : 0 ≤ d.marchDay ∧
    d.marchDay < if isLeap (d.marchYear + 1) then 366 else 365 := by
  obtain ⟨⟨hm1, hm2⟩, hday1, hday2⟩ := exists?_iff.1 hd
  unfold marchDay
  by_cases hmonth : d.month = 2
  · obtain ⟨hmarch, hlength⟩ := end_of_february hmonth
    rw [hlength] at hday2
    split_ifs at hday2 ⊢ <;> omega
  · obtain ⟨hmarch1, hmarch2, hend⟩ := end_of_month hm1 hm2 hmonth
    split_ifs <;> omega

/-- The number of the day tells the month. -/
theorem marchMonth_eq : d.marchMonth = (5 * d.marchDay + 2) / 153 := by
  obtain ⟨⟨hm1, hm2⟩, hday1, hday2⟩ := exists?_iff.1 hd
  unfold marchDay
  by_cases hmonth : d.month = 2
  · obtain ⟨hmarch, hlength⟩ := end_of_february hmonth
    rw [hlength] at hday2
    split_ifs at hday2 <;> omega
  · obtain ⟨hmarch1, hmarch2, hend⟩ := end_of_month hm1 hm2 hmonth
    omega

theorem dayNumber_lt_of_marchYear_lt (he : e.exists? = true) (h : d.marchYear < e.marchYear) :
    d.dayNumber < e.dayNumber := by
  have hlast := (marchDay_bounds hd).2
  have hfirst := (marchDay_bounds he).1
  have hnext := daysBefore_succ d.marchYear
  have hyears := daysBefore_le h
  rw [dayNumber_eq, dayNumber_eq]
  omega

/-- Dates that the calendar has differ in their numbers. -/
theorem eq_of_dayNumber_eq (he : e.exists? = true) (h : d.dayNumber = e.dayNumber) : d = e := by
  have hyear : d.marchYear = e.marchYear := by
    rcases lt_trichotomy d.marchYear e.marchYear with hlt | heq | hgt
    · have := dayNumber_lt_of_marchYear_lt hd he hlt
      omega
    · exact heq
    · have := dayNumber_lt_of_marchYear_lt he hd hgt
      omega
  -- Within a year the day tells the month, and so the day of the month.
  have hday : d.marchDay = e.marchDay := by
    rw [dayNumber_eq, dayNumber_eq, hyear] at h
    omega
  have hmonth : d.marchMonth = e.marchMonth := by
    rw [marchMonth_eq hd, marchMonth_eq he, hday]
  have hparts : d.year = e.year ∧ d.month = e.month ∧ d.day = e.day := by
    have hd' := (exists?_iff.1 hd).1
    have he' := (exists?_iff.1 he).1
    unfold marchDay at hday
    rw [hmonth] at hday
    unfold marchMonth at hmonth
    unfold marchYear at hyear
    refine ⟨?_, ?_, by omega⟩
    · split_ifs at hmonth hyear <;> omega
    · split_ifs at hmonth <;> omega
  obtain ⟨year, month, day⟩ := d
  obtain ⟨year', month', day'⟩ := e
  rw [Date.mk.injEq]
  exact hparts

end

/-! ## The day after -/

theorem exists_next {d : Date} (h : d.exists? = true) : d.next.exists? = true := by
  obtain ⟨hmonth, hday⟩ := exists?_iff.1 h
  have hpos : ∀ y m, 1 ≤ monthLength y m := fun y m => (monthLength_bounds y m).1
  rw [exists?_iff]
  unfold next
  split_ifs
  · exact ⟨hmonth, by dsimp only; omega⟩
  · exact ⟨by dsimp only; omega, le_rfl, hpos _ _⟩
  · exact ⟨by simp, le_rfl, hpos _ _⟩

/-- The day after has the number after. -/
theorem dayNumber_next {d : Date} (h : d.exists? = true) :
    d.next.dayNumber = d.dayNumber + 1 := by
  obtain ⟨⟨hm1, hm2⟩, hday1, hday2⟩ := exists?_iff.1 h
  rw [dayNumber_eq, dayNumber_eq]
  unfold next marchDay
  split_ifs with hin hyear
  · simp only [marchYear, marchMonth]
    omega
  · have hlast : d.day = monthLength d.year d.month := by omega
    by_cases hmonth : d.month = 2
    · -- The day after is the first one of the next year from March.
      obtain ⟨hmarch, hlength⟩ := end_of_february hmonth
      have hbefore := daysBefore_succ d.marchYear
      have hfirst : marchMonth ⟨d.year, d.month + 1, 1⟩ = 0 := by simp [marchMonth, hmonth]
      have hyears : marchYear ⟨d.year, d.month + 1, 1⟩ = d.marchYear + 1 := by
        simp [marchYear, hmonth]
      rw [hlength] at hlast
      rw [hfirst, hyears, hmarch]
      dsimp only
      split_ifs at hlast hbefore <;> omega
    · obtain ⟨-, -, hend⟩ := end_of_month hm1 hm2 hmonth
      rw [← hlast] at hend
      have hmarch : marchMonth ⟨d.year, d.month + 1, 1⟩ = d.marchMonth + 1 := by
        simp only [marchMonth]
        omega
      have hyears : marchYear ⟨d.year, d.month + 1, 1⟩ = d.marchYear := by
        simp only [marchYear]
        split_ifs <;> omega
      rw [hmarch, hyears]
      dsimp only
      omega
  · have hlast : d.day = monthLength d.year d.month := by omega
    have hmonth : d.month = 12 := by omega
    simp only [marchYear, marchMonth, hlast, hmonth, monthLength]
    simp
    omega

theorem ofDayNumber_succ (n : Int) : ofDayNumber (n + 1) = (ofDayNumber n).next := by
  refine eq_of_dayNumber_eq (exists_ofDayNumber _) (exists_next (exists_ofDayNumber n)) ?_
  rw [dayNumber_next (exists_ofDayNumber n), dayNumber_ofDayNumber, dayNumber_ofDayNumber]

theorem year_le_next (d : Date) : d.year ≤ d.next.year := by
  unfold next
  split_ifs <;> dsimp only <;> omega

/-- Years do not decrease from day to day. -/
theorem year_ofDayNumber_le {m n : Int} (h : m ≤ n) :
    (ofDayNumber m).year ≤ (ofDayNumber n).year := by
  induction n, h using Int.leInduction with
  | base => exact le_rfl
  | succ n _ ih =>
    rw [ofDayNumber_succ]
    exact ih.trans (year_le_next _)

end CrossSource.Date
