import CrossSource.Proofs.Calendar
import CrossSource.Proofs.Digits
import CrossSource.Timestamp
import Mathlib.Data.List.TakeWhile
/-!
# Instants are read back from their text

Each part of the text of an instant is read as what it was written from, whatever comes behind it,
as long as that does not go on with a digit. So the text of an instant in range gives the instant
(`read?_text`). What is read from any text is in range (`inRange_of_read?`).
-/

namespace CrossSource.Timestamp

open Number

/-! ## Steps of reading -/

namespace Scan

variable {α β : Type}

theorem bind_eq {s : Scan α} {f : α → Scan β} {cs rest : List Char} {a : α}
    (h : s cs = .ok (a, rest)) : (s >>= f) cs = f a rest := by
  show Except.bind (s cs) _ = _
  rw [h]
  rfl

theorem exists_of_bind {s : Scan α} {f : α → Scan β} {cs rest : List Char} {b : β}
    (h : (s >>= f) cs = .ok (b, rest)) :
    ∃ a mid, s cs = .ok (a, mid) ∧ f a mid = .ok (b, rest) := by
  have hb : Except.bind (s cs) (fun p => f p.1 p.2) = .ok (b, rest) := h
  cases hs : s cs with
  | error e => rw [hs] at hb; cases hb
  | ok p => exact ⟨p.1, p.2, rfl, by rw [hs] at hb; exact hb⟩

theorem isBlank_of_isDigit {c : Char} (h : isDigit c = true) : Text.isBlank c = false := by
  simp only [isDigit, Bool.and_eq_true, decide_eq_true_eq] at h
  have hlo : '0'.toNat ≤ c.toNat := h.1
  have hhi : c.toNat ≤ '9'.toNat := h.2
  have hzero : '0'.toNat = 48 := rfl
  have hnine : '9'.toNat = 57 := rfl
  simp only [Text.isBlank, Bool.or_eq_false_iff, Bool.and_eq_false_iff, decide_eq_false_iff_not,
    beq_eq_false_iff_ne]
  omega

theorem blanks_cons {c : Char} (hc : Text.isBlank c = false) (cs : List Char) :
    blanks (c :: cs) = .ok ((), c :: cs) := by
  show Except.ok ((), (c :: cs).dropWhile Text.isBlank) = _
  rw [List.dropWhile_cons_of_neg (by simp [hc])]

theorem blanks_append {ds : List Char} (hne : ds ≠ []) (hds : ∀ d ∈ ds, isDigit d = true)
    (rest : List Char) : blanks (ds ++ rest) = .ok ((), ds ++ rest) := by
  cases ds with
  | nil => exact absurd rfl hne
  | cons d ds => exact blanks_cons (isBlank_of_isDigit (hds d (by simp))) _

theorem mark_cons {c : Char} (hc : Text.isBlank c = false) (cs : List Char) :
    mark c (c :: cs) = .ok ((), cs) := by
  rw [mark, bind_eq (blanks_cons hc cs), expect, if_pos rfl]

/-- All digits up to the first other character are read. -/
theorem number_append (width : Option Nat) {ds rest : List Char} (hne : ds ≠ [])
    (hds : ∀ d ∈ ds, isDigit d = true) (hw : ∀ w, width = some w → ds.length ≤ w)
    (hlt : ofDigits ds < twoTo 63) (hrest : rest.takeWhile isDigit = []) :
    number width (ds ++ rest) = .ok (ofDigits ds, rest) := by
  have hstop : ∀ cs : List Char, (ds ++ cs).takeWhile isDigit = ds ++ cs.takeWhile isDigit :=
    fun cs => List.takeWhile_append_of_pos hds
  have hempty : ds.isEmpty = false := by simp [hne]
  cases width with
  | none =>
    have htake : (ds ++ rest).takeWhile isDigit = ds := by rw [hstop, hrest, List.append_nil]
    simp only [number, htake, hempty, hlt, List.drop_left]
    rfl
  | some w =>
    -- The width may go beyond the digits, into what begins with none.
    obtain ⟨k, hk⟩ := Nat.exists_eq_add_of_le (hw w rfl)
    have hshort : (rest.take k).takeWhile isDigit = [] := by
      cases rest with
      | nil => simp
      | cons c cs =>
        have hc : ¬ isDigit c = true := by
          intro hc
          simp [hc] at hrest
        cases k <;> simp [hc]
    have htake : ((ds ++ rest).take w).takeWhile isDigit = ds := by
      rw [hk, List.take_length_add_append, hstop, hshort, List.append_nil]
    simp only [number, htake, hempty, hlt, List.drop_left]
    rfl

/-- What a number of at most `width` digits comes to. -/
theorem number_bounds {width n : Nat} {cs rest : List Char}
    (h : number (some width) cs = .ok (n, rest)) :
    cs.length - rest.length ≤ width ∧ n < tenTo (cs.length - rest.length) := by
  have hdigits : ∀ d ∈ (cs.take width).takeWhile isDigit, isDigit d = true :=
    fun d hd => List.mem_takeWhile_imp hd
  have hle := (List.takeWhile_prefix isDigit (l := cs.take width)).length_le
  rw [List.length_take] at hle
  simp only [number] at h
  split at h
  · cases h
  · split at h
    · cases h
      have hlt := ofDigits_lt hdigits
      have hlen : cs.length - (cs.drop ((cs.take width).takeWhile isDigit).length).length =
          ((cs.take width).takeWhile isDigit).length := by
        rw [List.length_drop]
        omega
      rw [hlen]
      exact ⟨by omega, hlt⟩
    · cases h

/-- A number is read back from its digits, with zeros in front or without. -/
theorem number_padded (width : Option Nat) {k n : Nat} {rest : List Char} (hlt : n < twoTo 63)
    (hw : ∀ w, width = some w → (padded k n).toList.length ≤ w)
    (hrest : rest.takeWhile isDigit = []) :
    number width ((padded k n).toList ++ rest) = .ok (n, rest) := by
  have h := number_append width (padded_ne_nil k n) (fun _ => isDigit_of_mem_padded) hw
    (by rwa [ofDigits_padded]) hrest
  rwa [ofDigits_padded] at h

theorem blanks_padded (k n : Nat) (rest : List Char) :
    blanks ((padded k n).toList ++ rest) = .ok ((), (padded k n).toList ++ rest) :=
  blanks_append (padded_ne_nil k n) (fun _ => isDigit_of_mem_padded) rest

theorem part_padded {least greatest n : Nat} {rest : List Char} (h : least ≤ n ∧ n ≤ greatest)
    (hn : n < 100) (hrest : rest.takeWhile isDigit = []) :
    part least greatest ((padded 2 n).toList ++ rest) = .ok (n, rest) := by
  have hlen : (padded 2 n).toList.length = 2 := length_padded (by decide) hn
  have hbound : (100 : Nat) < twoTo 63 := by decide
  rw [part, bind_eq (blanks_padded 2 n rest),
    bind_eq (number_padded (some 2) (by omega) (by rintro w ⟨⟩; omega) hrest)]
  simp [h]
  rfl

/-! ## Reading what is written -/

theorem signedNumber_minus (cs : List Char) :
    signedNumber ('-' :: cs) = (fun (n, cs) => (-(n : Int), cs)) <$> number none cs := rfl

theorem signedNumber_plus (cs : List Char) :
    signedNumber ('+' :: cs) = (fun (n, cs) => ((n : Int), cs)) <$> number none cs := rfl

theorem signedNumber_digit {d : Char} (hd : isDigit d = true) (cs : List Char) :
    signedNumber (d :: cs) = (fun (n, cs) => ((n : Int), cs)) <$> number (some 4) (d :: cs) := by
  unfold signedNumber
  split
  · next heq =>
    cases heq
    cases hd
  · next heq =>
    cases heq
    cases hd
  · rfl

/-- The digits of a year that needs no sign. -/
theorem signedNumber_padded {n : Nat} (h : n < 10000) (rest : List Char) :
    signedNumber ((padded 4 n).toList ++ '-' :: rest) = .ok ((n : Int), '-' :: rest) := by
  have hlen : (padded 4 n).toList.length = 4 := length_padded (by decide) h
  have hbound : (10000 : Nat) < twoTo 63 := by decide
  have hfour : number (some 4) ((padded 4 n).toList ++ '-' :: rest) = .ok (n, '-' :: rest) :=
    number_padded (some 4) (by omega) (by rintro w ⟨⟩; omega) rfl
  have hdigits : ∀ d ∈ (padded 4 n).toList, isDigit d = true := fun d => isDigit_of_mem_padded
  cases hcs : (padded 4 n).toList with
  | nil => exact absurd hcs (padded_ne_nil 4 n)
  | cons d cs =>
    rw [hcs] at hfour hdigits
    rw [List.cons_append] at hfour ⊢
    rw [signedNumber_digit (hdigits d (by simp)), hfour]
    rfl

theorem signedNumber_yearText {y : Int} (h : y.natAbs < twoTo 63) (rest : List Char) :
    signedNumber ((Date.yearText y).toList ++ '-' :: rest) = .ok (y, '-' :: rest) := by
  have hnumber : number none ((padded 4 y.natAbs).toList ++ '-' :: rest) =
      .ok (y.natAbs, '-' :: rest) := number_padded none h nofun rfl
  have hminus : "-".toList = ['-'] := rfl
  have hplus : "+".toList = ['+'] := rfl
  unfold Date.yearText
  split
  · next hneg =>
    rw [String.toList_append, hminus, List.singleton_append, List.cons_append, signedNumber_minus,
      hnumber]
    show Except.ok (-(y.natAbs : Int), _) = _
    rw [show -(y.natAbs : Int) = y by omega]
  · have habs : (y.natAbs : Int) = y := by omega
    split
    · rw [String.toList_append, hplus, List.singleton_append, List.cons_append, signedNumber_plus,
        hnumber]
      show Except.ok ((y.natAbs : Int), _) = _
      rw [habs]
    · rw [signedNumber_padded (by omega), habs]

theorem blanks_yearText (y : Int) (rest : List Char) :
    blanks ((Date.yearText y).toList ++ rest) = .ok ((), (Date.yearText y).toList ++ rest) := by
  unfold Date.yearText
  split
  · rw [String.toList_append]
    exact blanks_cons rfl _
  · split
    · rw [String.toList_append]
      exact blanks_cons rfl _
    · exact blanks_padded 4 y.natAbs rest

theorem year_yearText {y : Int} (h : Date.leastYear ≤ y ∧ y ≤ Date.greatestYear)
    (rest : List Char) :
    year ((Date.yearText y).toList ++ '-' :: rest) = .ok (y, '-' :: rest) := by
  obtain ⟨hlo, hhi⟩ := h
  simp only [Date.leastYear, Date.greatestYear] at hlo hhi
  have hword : twoTo 31 = 2147483648 := rfl
  have hlong : twoTo 63 = 9223372036854775808 := rfl
  rw [year, bind_eq (blanks_yearText y _), bind_eq (signedNumber_yearText (by omega) rest)]
  rw [if_pos (by simp only [Bool.and_eq_true, decide_eq_true_eq]; omega)]
  rfl

theorem fraction_dot {cs rest : List Char} {n : Nat} (h : number (some 9) cs = .ok (n, rest)) :
    fraction ('.' :: cs) =
      .ok (n * tenTo (9 - (cs.length - rest.length)), rest.dropWhile isDigit) := by
  simp only [fraction, h]

/-- Digits that are left out at the end of a fraction are zeros. -/
theorem fraction_padded {width n k : Nat} (hw : 0 < width) (hn : n < tenTo width)
    (hk : width + k = 9) (rest : List Char) :
    fraction (("." ++ padded width n).toList ++ 'Z' :: rest) = .ok (n * tenTo k, 'Z' :: rest) := by
  have hlen := length_padded hw hn
  have hbound : tenTo 9 < twoTo 63 := by decide
  have hle : tenTo width ≤ tenTo 9 := Nat.pow_le_pow_right (by decide) (by omega)
  have hnumber : number (some 9) ((padded width n).toList ++ 'Z' :: rest) = .ok (n, 'Z' :: rest) :=
    number_padded (some 9) (by omega) (by rintro w ⟨⟩; omega) rfl
  have hpower :
      9 - (((padded width n).toList ++ 'Z' :: rest).length - ('Z' :: rest).length) = k := by
    rw [List.length_append]
    omega
  rw [String.toList_append]
  exact (fraction_dot hnumber).trans (by rw [hpower]; rfl)

theorem fraction_fractionText {nanos : Nat} (h : nanos < billion) (rest : List Char) :
    fraction ((fractionText nanos).toList ++ 'Z' :: rest) = .ok (nanos, 'Z' :: rest) := by
  have hbillion : billion = 1000000000 := rfl
  have hthree : tenTo 3 = 1000 := rfl
  have hsix : tenTo 6 = 1000000 := rfl
  unfold fractionText
  split
  · next hzero =>
    subst hzero
    rfl
  · split
    · rw [fraction_padded (k := 6) (by decide) (by omega) rfl, hsix, Nat.div_mul_cancel (by omega)]
    · split
      · rw [fraction_padded (k := 3) (by decide) (by omega) rfl, hthree,
          Nat.div_mul_cancel (by omega)]
      · rw [fraction_padded (k := 0) (by decide) h rfl]
        exact congrArg (fun n => Except.ok (n, 'Z' :: rest)) (Nat.mul_one nanos)

/-- The text of a fraction ends the digits before it. -/
theorem takeWhile_fractionText (nanos : Nat) (rest : List Char) :
    ((fractionText nanos).toList ++ 'Z' :: rest).takeWhile isDigit = [] := by
  unfold fractionText
  split
  · rfl
  · split
    · rw [String.toList_append]
      rfl
    · split <;> rw [String.toList_append] <;> rfl

end Scan

/-- What the text of an instant says. -/
def reading (t : Timestamp) : Reading where
  date := t.date
  hour := t.secondOfDay / 3600
  minute := t.secondOfDay / 60 % 60
  second := if t.isLeap then t.secondOfDay % 60 + 1 else t.secondOfDay % 60
  nanos := t.nanos % billion
  offset := 0

theorem secondOfDay_lt (t : Timestamp) : t.secondOfDay < 86400 := by
  unfold secondOfDay
  omega

theorem date_bounds (t : Timestamp) :
    (1 ≤ t.date.month ∧ t.date.month ≤ 12) ∧ 1 ≤ t.date.day ∧ t.date.day ≤ 31 := by
  obtain ⟨hmonth, hday⟩ := Date.exists?_iff.1 (Date.exists_ofDayNumber (t.seconds / 86400))
  have hlength := (Date.monthLength_bounds t.date.year t.date.month).2
  unfold date at *
  exact ⟨hmonth, by omega⟩

theorem reading_bounds (t : Timestamp) : t.reading.hour ≤ 23 ∧ t.reading.minute ≤ 59 ∧
    t.reading.second ≤ 60 ∧ t.reading.nanos < billion := by
  have hseconds := t.secondOfDay_lt
  have hnanos : t.nanos % billion < billion := Nat.mod_lt _ (by decide)
  refine ⟨?_, ?_, ?_, hnanos⟩
  · show t.secondOfDay / 3600 ≤ 23
    omega
  · show t.secondOfDay / 60 % 60 ≤ 59
    omega
  · show (if t.isLeap then t.secondOfDay % 60 + 1 else t.secondOfDay % 60) ≤ 60
    split <;> omega

open Scan in
theorem scan_text {t : Timestamp} (h : t.InRange) :
    Reading.scan t.text.toList = .ok (t.reading, []) := by
  obtain ⟨hmonth, hday⟩ := t.date_bounds
  obtain ⟨hhour, hminute, hsecond, hnanos⟩ := t.reading_bounds
  have htext : t.text.toList = (Date.yearText t.date.year).toList ++ '-' ::
      ((padded 2 t.date.month).toList ++ '-' :: ((padded 2 t.date.day).toList ++ 'T' ::
        ((padded 2 t.reading.hour).toList ++ ':' :: ((padded 2 t.reading.minute).toList ++ ':' ::
          ((padded 2 t.reading.second).toList ++ ((fractionText t.reading.nanos).toList ++
            ['Z'])))))) := by
    have hhyphen : "-".toList = ['-'] := rfl
    have hcolon : ":".toList = [':'] := rfl
    have hparting : "T".toList = ['T'] := rfl
    have hend : "Z".toList = ['Z'] := rfl
    simp only [text, Date.text, reading, String.toList_append, List.append_assoc, hhyphen, hcolon,
      hparting, hend, List.cons_append, List.nil_append]
  rw [htext, Reading.scan, bind_eq (year_yearText ⟨h.1, h.2.1⟩ _), bind_eq (mark_cons rfl _),
    bind_eq (part_padded hmonth (by omega) rfl), bind_eq (mark_cons rfl _),
    bind_eq (part_padded hday (by omega) rfl), bind_eq (show parting ('T' :: _) = _ from rfl),
    bind_eq (part_padded ⟨Nat.zero_le _, hhour⟩ (by omega) rfl), bind_eq (mark_cons rfl _),
    bind_eq (part_padded ⟨Nat.zero_le _, hminute⟩ (by omega) rfl), bind_eq (mark_cons rfl _),
    bind_eq (part_padded ⟨Nat.zero_le _, hsecond⟩ (by omega) (takeWhile_fractionText _ _)),
    bind_eq (fraction_fractionText hnanos _), bind_eq (blanks_cons rfl _)]
  rfl

theorem instant_reading {t : Timestamp} (h : t.InRange) : t.reading.instant = t := by
  obtain ⟨-, -, hnanos, hleap⟩ := h
  have hday : t.date.dayNumber = t.seconds / 86400 := Date.dayNumber_ofDayNumber _
  have hseconds : (t.secondOfDay : Int) = t.seconds % 86400 := by
    unfold secondOfDay
    omega
  have hbillion : billion = 1000000000 := rfl
  have hparts : t.date.dayNumber * 86400 + (t.secondOfDay / 3600 : Nat) * 3600 +
      (t.secondOfDay / 60 % 60 : Nat) * 60 + (t.secondOfDay % 60 : Nat) - 0 = t.seconds := by
    omega
  have hrun : min t.reading.second 59 = t.secondOfDay % 60 ∧
      (if t.reading.second = 60 then t.reading.nanos + billion else t.reading.nanos) =
        t.nanos := by
    have hrest : t.reading.nanos = t.nanos % billion := rfl
    -- A leap second is written as the second 60, which stands for a billion nanoseconds more.
    by_cases hcase : t.isLeap = true
    · have hlast := hleap hcase
      have hleast : billion ≤ t.nanos := by simpa [isLeap] using hcase
      have hsixty : t.reading.second = 60 := (if_pos hcase).trans (by rw [hlast])
      rw [hsixty, hlast, if_pos rfl, hrest, hbillion]
      omega
    · have hfew : t.nanos < billion := by simpa [isLeap] using hcase
      have hsecond : t.reading.second = t.secondOfDay % 60 := if_neg hcase
      rw [hsecond, if_neg (by omega), hrest, Nat.mod_eq_of_lt hfew]
      omega
  calc t.reading.instant
      = ⟨t.date.dayNumber * 86400 + (t.secondOfDay / 3600 : Nat) * 3600 +
          (t.secondOfDay / 60 % 60 : Nat) * 60 + (min t.reading.second 59 : Nat) - 0,
        if t.reading.second = 60 then t.reading.nanos + billion else t.reading.nanos⟩ := rfl
    _ = ⟨t.seconds, t.nanos⟩ := by rw [hrun.1, hrun.2, hparts]
    _ = t := rfl

/-- The text of an instant is read as that instant. -/
theorem read?_text {t : Timestamp} (h : t.InRange) : read? t.text = .ok t := by
  have hcheck : t.reading.check = .ok t := by
    have hexists : t.reading.date.exists? = true := Date.exists_ofDayNumber _
    have hyear : (Date.leastYear ≤ t.date.year && t.date.year ≤ Date.greatestYear) = true := by
      simp [h.1, h.2.1]
    have hyear' : (Date.leastYear ≤ t.reading.date.year &&
      t.reading.date.year ≤ Date.greatestYear) = true := hyear
    simp only [Reading.check, hexists, hyear', instant_reading h, hyear]
    rfl
  simp only [read?, scan_text h]
  exact hcheck

/-! ## What is read is in range -/

namespace Scan

theorem part_bounds {least greatest n : Nat} {cs rest : List Char}
    (h : part least greatest cs = .ok (n, rest)) : least ≤ n ∧ n ≤ greatest := by
  obtain ⟨-, cs', -, h⟩ := exists_of_bind h
  obtain ⟨m, cs'', -, h⟩ := exists_of_bind h
  split at h
  · next hm =>
    cases h
    simpa using hm
  · cases h

theorem fraction_lt {n : Nat} {cs rest : List Char} (h : fraction cs = .ok (n, rest)) :
    n < billion := by
  unfold fraction at h
  split at h
  · next cs =>
    split at h
    · cases h
    · next m left hnumber =>
      cases h
      obtain ⟨hle, hlt⟩ := number_bounds hnumber
      have hpower : tenTo (cs.length - left.length) * tenTo (9 - (cs.length - left.length)) =
          billion := by
        show 10 ^ _ * 10 ^ _ = 10 ^ 9
        rw [← Nat.pow_add, Nat.add_sub_cancel' hle]
      rw [← hpower]
      exact Nat.mul_lt_mul_of_pos_right hlt (Nat.pow_pos (by decide))
  · cases h
    decide

theorem offsetParts_emod {n : Int} {cs rest : List Char} (h : offsetParts cs = .ok (n, rest)) :
    n % 60 = 0 := by
  obtain ⟨hours, cs', -, h⟩ := exists_of_bind h
  obtain ⟨-, cs'', -, h⟩ := exists_of_bind h
  obtain ⟨minutes, left, -, h⟩ := exists_of_bind h
  cases h
  omega

/-- Offsets are whole minutes. -/
theorem offset_emod {n : Int} {cs rest : List Char} (h : offset cs = .ok (n, rest)) :
    n % 60 = 0 := by
  unfold offset at h
  split at h
  · cases h
    rfl
  · split at h
    · cases h
    · next c left _ =>
      split at h
      · cases h
        rfl
      · split at h
        · exact offsetParts_emod h
        · split at h
          · cases hparts : offsetParts left with
            | error e => rw [hparts] at h; cases h
            | ok p =>
              have hp := offsetParts_emod hparts
              rw [hparts] at h
              cases h
              show -p.1 % 60 = 0
              omega
          · cases h

end Scan

open Scan in
theorem scan_bounds {r : Reading} {cs rest : List Char} (h : Reading.scan cs = .ok (r, rest)) :
    r.second ≤ 60 ∧ r.nanos < billion ∧ r.offset % 60 = 0 := by
  -- One step after the other; the bounds of three of the parts are all that is needed later.
  obtain ⟨year, _, -, h⟩ := exists_of_bind h
  obtain ⟨-, _, -, h⟩ := exists_of_bind h
  obtain ⟨month, _, -, h⟩ := exists_of_bind h
  obtain ⟨-, _, -, h⟩ := exists_of_bind h
  obtain ⟨day, _, -, h⟩ := exists_of_bind h
  obtain ⟨-, _, -, h⟩ := exists_of_bind h
  obtain ⟨hour, _, -, h⟩ := exists_of_bind h
  obtain ⟨-, _, -, h⟩ := exists_of_bind h
  obtain ⟨minute, _, -, h⟩ := exists_of_bind h
  obtain ⟨-, _, -, h⟩ := exists_of_bind h
  obtain ⟨second, _, hsecond, h⟩ := exists_of_bind h
  obtain ⟨nanos, _, hnanos, h⟩ := exists_of_bind h
  obtain ⟨-, _, -, h⟩ := exists_of_bind h
  obtain ⟨offset, _, hoffset, h⟩ := exists_of_bind h
  cases h
  exact ⟨(part_bounds hsecond).2, fraction_lt hnanos, offset_emod hoffset⟩

theorem instant_of_check {r : Reading} {t : Timestamp} (h : r.check = .ok t) :
    r.instant = t ∧ Date.leastYear ≤ t.date.year ∧ t.date.year ≤ Date.greatestYear := by
  simp only [Reading.check] at h
  split at h
  · cases h
  · split at h
    · cases h
    · split at h
      · cases h
      · next hyear =>
        cases h
        exact ⟨rfl, by simpa using hyear⟩

/-- A text gives an instant in range, if it gives one. -/
theorem inRange_of_read? {s : String} {t : Timestamp} (h : read? s = .ok t) : t.InRange := by
  have hbillion : billion = 1000000000 := rfl
  unfold read? at h
  cases hscan : Reading.scan s.toList with
  | error e => rw [hscan] at h; cases h
  | ok p =>
    obtain ⟨r, rest⟩ := p
    obtain ⟨hsecond, hnanos, hoffset⟩ := scan_bounds hscan
    have hcheck : r.check = .ok t := by
      rw [hscan] at h
      change (if rest.any (!Text.isBlank ·) then _ else _) = _ at h
      split at h
      · cases h
      · exact h
    obtain ⟨hinstant, hyear⟩ := instant_of_check hcheck
    subst hinstant
    refine ⟨hyear.1, hyear.2, ?_, fun hleap => ?_⟩
    · show (if r.second = 60 then r.nanos + billion else r.nanos) < _
      split <;> omega
    · have hlast : r.second = 60 := by
        by_contra hne
        have hnanos' : r.instant.nanos = r.nanos := if_neg hne
        simp only [isLeap, decide_eq_true_eq] at hleap
        omega
      have hseconds : r.instant.seconds = r.date.dayNumber * 86400 + r.hour * 3600 +
          r.minute * 60 + (min r.second 59 : Nat) - r.offset := rfl
      rw [hlast] at hseconds
      unfold secondOfDay
      omega

end CrossSource.Timestamp
