import CrossSource.Proofs.Instants
import CrossSource.Proofs.SampleRows
/-!
# The days of a preview

The sample dates of a preview go through the calendar day by day (`sample_date_eq`), from the first
of January 2024 to the last day that a date can be; later rows show no date. Since the text of an
instant is read back as that instant, the text of a day tells the day (`eq_of_text_eq`), and no two
rows show the same one.
-/

namespace CrossSource

/-! ## The text of a day -/

namespace Number

/-- As many digits as the width says, that stand for the number. -/
def Spells (width n : Nat) (cs : List Char) : Prop :=
  cs.length = width ∧ (∀ c ∈ cs, isDigit c = true) ∧ ofDigits cs = n

theorem spells_padded {width n : Nat} (hw : 0 < width) (hn : n < tenTo width) :
    Spells width n (padded width n).toList :=
  ⟨length_padded hw hn, fun _ => isDigit_of_mem_padded, ofDigits_padded width n⟩

/-- A number that is too long for the width is written without zeros in front. -/
theorem toList_padded_of_le {width n : Nat} (h : tenTo width ≤ n) :
    (padded width n).toList = Nat.toDigits 10 n := by
  have hdigits : ∀ c ∈ Nat.toDigits 10 n, isDigit c = true := fun c hc =>
    isDigit_eq_true (Nat.isDigit_of_mem_toDigits (by decide) (by decide) hc)
  have hlt := ofDigits_lt hdigits
  rw [ofDigits_eq_ofDigitChars, Nat.ofDigitChars_ten_toDigits] at hlt
  have hlength : width < (Nat.toDigits 10 n).length := by
    by_contra hle
    have hpower : tenTo (Nat.toDigits 10 n).length ≤ tenTo width :=
      Nat.pow_le_pow_right (by decide) (not_lt.1 hle)
    omega
  rw [toList_padded, Nat.sub_eq_zero_of_le hlength.le, List.replicate_zero, List.nil_append]

end Number

open Number

/-- The text has the year, the month and the day with hyphens between them: month and day in two
digits, the year in four or, if it takes more, in all its digits behind a plus sign. -/
def Date.Writes (d : Date) (text : String) : Prop :=
  ∃ year month day, text.toList = year ++ '-' :: (month ++ '-' :: day) ∧
    (if d.year ≤ 9999 then Spells 4 d.year.toNat year
      else year = '+' :: Nat.toDigits 10 d.year.toNat) ∧
    Spells 2 d.month month ∧ Spells 2 d.day day

theorem Date.writes_text {d : Date} (h : d.exists? = true) (hyear : 0 ≤ d.year) :
    d.Writes d.text := by
  obtain ⟨hmonth, hday⟩ := exists?_iff.1 h
  have hlength := (monthLength_bounds d.year d.month).2
  have hhundred : tenTo 2 = 100 := rfl
  have hmonth' : d.month < tenTo 2 := by omega
  have hday' : d.day < tenTo 2 := by omega
  refine ⟨(yearText d.year).toList, (padded 2 d.month).toList, (padded 2 d.day).toList, ?_, ?_,
    spells_padded (by decide) hmonth', spells_padded (by decide) hday'⟩
  · have hhyphen : "-".toList = ['-'] := rfl
    simp only [text, String.toList_append, hhyphen, List.append_assoc, List.cons_append,
      List.nil_append]
  · have hplus : "+".toList = ['+'] := rfl
    have habs : d.year.natAbs = d.year.toNat := by omega
    have hfour : tenTo 4 = 10000 := rfl
    have hsign : ¬ d.year < 0 := not_lt.2 hyear
    rw [yearText, if_neg hsign, habs]
    by_cases hlong : 9999 < d.year
    · rw [if_pos hlong, if_neg (not_le.2 hlong), String.toList_append, hplus,
        toList_padded_of_le (by omega), List.singleton_append]
    · have hfits : d.year.toNat < tenTo 4 := by omega
      rw [if_neg hlong, if_pos (not_lt.1 hlong)]
      exact spells_padded (by decide) hfits

/-! ## Days are told apart by their texts -/

namespace Timestamp

/-- The instant at which a day begins. -/
def midnight (day : Int) : Timestamp := ⟨day * 86400, 0⟩

theorem date_midnight (day : Int) : (midnight day).date = Date.ofDayNumber day :=
  congrArg Date.ofDayNumber (Int.mul_ediv_cancel day (by decide))

theorem secondOfDay_midnight (day : Int) : (midnight day).secondOfDay = 0 :=
  congrArg Int.toNat (Int.mul_emod_left day 86400)

end Timestamp

open Timestamp in
/-- Days that dates can be have different texts. -/
theorem Date.eq_of_text_eq {m n : Int}
    (hm : leastYear ≤ (ofDayNumber m).year ∧ (ofDayNumber m).year ≤ greatestYear)
    (hn : leastYear ≤ (ofDayNumber n).year ∧ (ofDayNumber n).year ≤ greatestYear)
    (h : (ofDayNumber m).text = (ofDayNumber n).text) : m = n := by
  have hrange : ∀ {k : Int}, leastYear ≤ (ofDayNumber k).year ∧
      (ofDayNumber k).year ≤ greatestYear → (midnight k).InRange := by
    intro k hk
    rw [← date_midnight] at hk
    exact ⟨hk.1, hk.2, show 0 < 2 * billion by decide, nofun⟩
  -- The text of the instant at which a day begins has nothing else of the day than its text.
  have htext : (midnight m).text = (midnight n).text := by
    simp only [Timestamp.text, date_midnight, secondOfDay_midnight, h]
    rfl
  have hread := read?_text (hrange hm)
  rw [htext, read?_text (hrange hn), Except.ok.injEq, midnight, midnight, Timestamp.mk.injEq]
    at hread
  omega

/-! ## Day by day -/

/-- The last day that a date can be. -/
def Date.lastDay : Date := ⟨Date.greatestYear, 12, 31⟩

namespace Preview

open Date Document

/-- The day that comes so many days after that of the first row. -/
def laterDay : Nat → Date
  | 0 => firstDay
  | n + 1 => (laterDay n).next

/-- The row of the last day. -/
def lastRow : Nat := (lastDay.dayNumber - firstDay.dayNumber).toNat + 1

theorem laterDay_eq (n : Nat) : laterDay n = ofDayNumber (firstDay.dayNumber + n) := by
  induction n with
  | zero => decide +kernel
  | succ n ih => rw [laterDay, ih, ← ofDayNumber_succ, Nat.cast_succ, Int.add_assoc]

theorem exists_laterDay (n : Nat) : (laterDay n).exists? = true := by
  rw [laterDay_eq]
  exact exists_ofDayNumber _

theorem dayNumber_laterDay (n : Nat) : (laterDay n).dayNumber = firstDay.dayNumber + n := by
  rw [laterDay_eq, dayNumber_ofDayNumber]

theorem laterDay_lastRow : laterDay (lastRow - 1) = lastDay := by
  have hnumber : firstDay.dayNumber + ((lastRow - 1 : Nat) : Int) = lastDay.dayNumber := by
    decide +kernel
  refine eq_of_dayNumber_eq (exists_laterDay _) (by decide) ?_
  rw [dayNumber_laterDay, hnumber]

theorem least_year_laterDay (n : Nat) : 2024 ≤ (laterDay n).year := by
  induction n with
  | zero => exact le_rfl
  | succ n ih => exact ih.trans (year_le_next _)

/-- After the last row the year is too great. -/
theorem year_laterDay_le_iff {n : Nat} : (laterDay n).year ≤ greatestYear ↔ n < lastRow := by
  have hlast : firstDay.dayNumber + ((lastRow - 1 : Nat) : Int) = lastDay.dayNumber := by
    rw [← dayNumber_laterDay, laterDay_lastRow]
  have hpos : 0 < lastRow := Nat.succ_pos _
  constructor
  · intro hyear
    by_contra hlate
    -- Years do not decrease, so it is enough that the day after the last one has too great a year.
    have hle : lastDay.dayNumber + 1 ≤ firstDay.dayNumber + n := by omega
    have hnext := year_ofDayNumber_le hle
    have hbeyond : (ofDayNumber (lastDay.dayNumber + 1)).year = greatestYear + 1 := by
      decide +kernel
    rw [hbeyond, ← laterDay_eq] at hnext
    exact absurd (hnext.trans hyear) (by decide)
  · intro hn
    have hle : firstDay.dayNumber + n ≤ lastDay.dayNumber := by omega
    have hbefore := year_ofDayNumber_le hle
    rwa [← hlast, ← laterDay_eq, ← laterDay_eq, laterDay_lastRow] at hbefore

/-- A row shows its day, unless that comes after the last one. -/
theorem sample_date_eq {n : Nat} (h : 1 ≤ n) :
    sample .date n = if n ≤ lastRow then .str (laterDay (n - 1)).text else .null := by
  have hday : firstDay.dayNumber + ((n : Int) - 1) = firstDay.dayNumber + (n - 1 : Nat) := by omega
  rw [sample_date, hday, ← laterDay_eq]
  exact if_congr (year_laterDay_le_iff.trans (by omega)) rfl rfl

theorem shown_of_ne_null {n : Nat} (h : 1 ≤ n) (hshown : sample .date n ≠ .null) :
    n ≤ lastRow ∧ sample .date n = .str (laterDay (n - 1)).text := by
  rw [sample_date_eq h] at hshown ⊢
  by_cases hlast : n ≤ lastRow
  · rw [if_pos hlast]
    exact ⟨hlast, rfl⟩
  · rw [if_neg hlast] at hshown
    exact absurd rfl hshown

/-- Up to the last day the texts differ. -/
theorem eq_of_text_laterDay {m n : Nat} (hm : m < lastRow) (hn : n < lastRow)
    (h : (laterDay m).text = (laterDay n).text) : m = n := by
  have hrange : ∀ {k}, k < lastRow → leastYear ≤ (laterDay k).year ∧
      (laterDay k).year ≤ greatestYear := fun hk =>
    ⟨le_trans (by decide) (least_year_laterDay _), year_laterDay_le_iff.2 hk⟩
  have hm' := hrange hm
  have hn' := hrange hn
  rw [laterDay_eq] at hm' hn'
  rw [laterDay_eq, laterDay_eq] at h
  have heq := eq_of_text_eq hm' hn' h
  omega

/-- The sample dates begin with the first of January 2024. A row shows the day after that of the row
before, a day of the calendar that is as many days after the first one as there are rows before, up
to the last day that a date can be, and nothing in later rows. Rows that show something show
different texts. -/
theorem dates_go_through_calendar :
    sample .date 1 = .str "2024-01-01" ∧ laterDay (lastRow - 1) = lastDay ∧
    ∀ n, 1 ≤ n →
      let day := laterDay (n - 1)
      day.exists? = true ∧ day.dayNumber = firstDay.dayNumber + (n - 1) ∧
      laterDay n = day.next ∧
      (n ≤ lastRow → sample .date n = .str day.text ∧ day.Writes day.text) ∧
      (lastRow < n → sample .date n = .null) ∧
      ∀ m, 1 ≤ m → sample .date m = sample .date n → sample .date n ≠ .null → m = n := by
  refine ⟨?_, laterDay_lastRow, fun n hn => ⟨exists_laterDay _, ?_, ?_, fun hlast => ⟨?_, ?_⟩,
    fun hlate => ?_, fun m hm heq hshown => ?_⟩⟩
  · rw [sample_date_eq le_rfl, if_pos (by decide +kernel)]
    exact congrArg Value.str (by decide +kernel)
  · rw [dayNumber_laterDay]
    omega
  · obtain ⟨k, rfl⟩ := Nat.exists_eq_add_of_le' hn
    rfl
  · rw [sample_date_eq hn, if_pos hlast]
  · exact writes_text (exists_laterDay _) (le_trans (by decide) (least_year_laterDay (n - 1)))
  · rw [sample_date_eq hn, if_neg (by omega)]
  · obtain ⟨hlast, htext⟩ := shown_of_ne_null hn hshown
    obtain ⟨hlast', htext'⟩ := shown_of_ne_null hm (heq ▸ hshown)
    rw [htext, htext', Value.str.injEq] at heq
    have := eq_of_text_laterDay (by omega) (by omega) heq
    omega

/-- A leap day, the first day of a year of five digits, and the row after the last day. -/
theorem dates_go_through_calendar_far :
    sample .date 60 = .str "2024-02-29" ∧ sample .date 2913175 = .str "+10000-01-01" ∧
      lastRow = 95006514 ∧ sample .date (lastRow + 1) = .null := by
  obtain ⟨-, -, hrow⟩ := dates_go_through_calendar
  have hshown : ∀ n, 1 ≤ n → n ≤ lastRow → sample .date n = .str (laterDay (n - 1)).text :=
    fun n hn hlast => ((hrow n hn).2.2.2.1 hlast).1
  refine ⟨?_, ?_, by decide +kernel, (hrow _ (Nat.succ_pos _)).2.2.2.2.1 (Nat.lt_succ_self _)⟩
  · rw [hshown 60 (by decide) (by decide +kernel), laterDay_eq]
    exact congrArg Value.str (by decide +kernel)
  · rw [hshown 2913175 (by decide) (by decide +kernel), laterDay_eq]
    exact congrArg Value.str (by decide +kernel)

end Preview

end CrossSource
