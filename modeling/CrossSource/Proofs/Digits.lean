import CrossSource.Number.Natural
import Mathlib.Data.List.Induction
import Mathlib.Data.Nat.Digits.Defs
/-!
# Numbers are read back from their digits

A number that is written in decimal, with zeros in front or without, is what its digits are read
as, and a row of digits stands for a number below the power of ten of its length.
-/

namespace CrossSource.Number

theorem wordBound_eq : wordBound = 18446744073709551616 := rfl

theorem ofDigits_eq_ofDigitChars (cs : List Char) : ofDigits cs = Nat.ofDigitChars 10 cs 0 := by
  rw [Nat.ofDigitChars_eq_foldl]
  rfl

theorem isDigit_eq_true {c : Char} (h : c.isDigit = true) : isDigit c = true := by
  simp only [Char.isDigit, Bool.and_eq_true, decide_eq_true_eq] at h
  simp only [isDigit, Bool.and_eq_true, decide_eq_true_eq]
  exact h

theorem readDigits_toDigits (n : Nat) : readDigits (Nat.toDigits 10 n) = some n := by
  have hall : (Nat.toDigits 10 n).all isDigit = true := by
    rw [List.all_eq_true]
    exact fun c hc => isDigit_eq_true (Nat.isDigit_of_mem_toDigits (by decide) (by decide) hc)
  have hne : (Nat.toDigits 10 n).isEmpty = false := by simp [Nat.toDigits_ne_nil]
  rw [readDigits, hall, hne, ofDigits_eq_ofDigitChars, Nat.ofDigitChars_ten_toDigits]
  rfl

/-- A written number is read back, if it is below the bound. -/
theorem readBelow_toDigits {bound n : Nat} (h : n < bound) :
    readBelow bound (String.ofList (Nat.toDigits 10 n)) = some n := by
  simp only [readBelow, String.toList_ofList]
  split
  · next cs hplus =>
    have hc : ('+' : Char).isDigit = true :=
      Nat.isDigit_of_mem_toDigits (b := 10) (n := n) (by decide) (by decide) (by rw [hplus]; simp)
    cases hc
  · rw [readDigits_toDigits]
    simp [h]

/-! ## Rows of digits -/

theorem ofDigits_concat (cs : List Char) (c : Char) :
    ofDigits (cs ++ [c]) = 10 * ofDigits cs + digitValue c := by
  simp [ofDigits]

theorem digitValue_lt {c : Char} (h : isDigit c = true) : digitValue c < 10 := by
  simp only [isDigit, Bool.and_eq_true, decide_eq_true_eq] at h
  have hle : c.toNat ≤ '9'.toNat := h.2
  have hnine : '9'.toNat = 57 := rfl
  have hzero : '0'.toNat = 48 := rfl
  rw [digitValue]
  omega

theorem tenTo_succ (n : Nat) : tenTo (n + 1) = 10 * tenTo n := Nat.mul_comm _ _

/-- As many digits stand for a number below that power of ten. -/
theorem ofDigits_lt {cs : List Char} (h : ∀ c ∈ cs, isDigit c = true) :
    ofDigits cs < tenTo cs.length := by
  induction cs using List.reverseRecOn with
  | nil => decide
  | append_singleton cs c ih =>
    have hcs := ih fun d hd => h d (List.mem_append_left _ hd)
    have hc := digitValue_lt (h c (by simp))
    rw [ofDigits_concat, List.length_append, List.length_singleton, tenTo_succ]
    omega

/-! ## Zeros in front -/

theorem toList_padded (width n : Nat) : (padded width n).toList =
    List.replicate (width - (Nat.toDigits 10 n).length) '0' ++ Nat.toDigits 10 n := by
  simp [padded]

theorem isDigit_of_mem_padded {width n : Nat} {c : Char} (h : c ∈ (padded width n).toList) :
    isDigit c = true := by
  rw [toList_padded, List.mem_append] at h
  rcases h with h | h
  · rw [List.eq_of_mem_replicate h]
    rfl
  · exact isDigit_eq_true (Nat.isDigit_of_mem_toDigits (by decide) (by decide) h)

theorem ofDigits_padded (width n : Nat) : ofDigits (padded width n).toList = n := by
  have hzeros : ∀ (k : Nat) (cs : List Char),
      ofDigits (List.replicate k '0' ++ cs) = ofDigits cs := by
    intro k cs
    induction k with
    | zero => rfl
    | succ k ih => exact ih
  rw [toList_padded, hzeros, ofDigits_eq_ofDigitChars, Nat.ofDigitChars_ten_toDigits]

/-- A number that fits the width is written in exactly that width. -/
theorem length_padded {width n : Nat} (hw : 0 < width) (hn : n < tenTo width) :
    (padded width n).toList.length = width := by
  have hle := Nat.toDigits_length 10 n width hw hn
  rw [toList_padded, List.length_append, List.length_replicate]
  omega

theorem padded_ne_nil (width n : Nat) : (padded width n).toList ≠ [] := by
  rw [toList_padded]
  simp [Nat.toDigits_ne_nil]

end CrossSource.Number
