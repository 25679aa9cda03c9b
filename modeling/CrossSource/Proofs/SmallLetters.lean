import CrossSource.Proofs.Spellings
/-!
# Small letters stay small

The form that a capital has in small letters is no capital again: in the tables, the forms of a run
lie outside of every run or between its members (`formsApart_capitals`). So a text in small letters
stays as it is (`lower_lower`). It may have more characters than it had before, but never fewer
(`length_le_length_lower`).
-/

namespace CrossSource.Text

variable {c d : Char} {cs : List Char}

/-! ## Runs -/

namespace Run

/-- Whether no form of the first run is in the second one: the forms lie below or above it, or
between its members. -/
def formsApart (r s : Run) : Bool :=
  Nat.blt (r.apply r.last) s.first || Nat.blt s.last (r.apply r.first) ||
    ((Nat.beq r.first r.last || Nat.beq (r.step % s.step) 0) &&
      !Nat.beq ((r.apply r.first - s.first) % s.step) 0)

theorem covers_apply_eq_false {r s : Run} {n : Nat} (h : r.formsApart s = true)
    (hr : r.covers n = true) : s.covers (r.apply n) = false := by
  simp only [covers, Bool.and_eq_true, decide_eq_true_eq, beq_iff_eq] at hr
  obtain ⟨⟨hfirst, hlast⟩, hstep⟩ := hr
  simp only [formsApart, Bool.or_eq_true, Bool.and_eq_true, Bool.not_eq_true', Nat.blt_eq,
    Nat.beq_eq] at h
  refine Bool.eq_false_iff.2 fun hs => ?_
  simp only [covers, Bool.and_eq_true, decide_eq_true_eq, beq_iff_eq] at hs
  obtain ⟨⟨hsfirst, hslast⟩, hsstep⟩ := hs
  rcases h with (hbelow | habove) | ⟨hsteps, hbetween⟩
  · unfold apply at hbelow hsfirst
    omega
  · unfold apply at habove hslast
    omega
  · -- The forms are as far from each other as their members, so all of them fall between.
    have hbetween : (r.apply r.first - s.first) % s.step ≠ 0 := Nat.ne_of_beq_eq_false hbetween
    have hmember : s.step ∣ n - r.first := by
      rcases hsteps with hone | hmultiple
      · rw [show n - r.first = 0 by omega]
        exact Nat.dvd_zero _
      · exact Nat.dvd_trans (Nat.dvd_of_mod_eq_zero hmultiple) (Nat.dvd_of_mod_eq_zero hstep)
    have hsplit : r.apply n - s.first = r.apply r.first - s.first + (n - r.first) := by
      have hpos : r.apply r.first - s.first ≠ 0 := fun hzero =>
        hbetween (by rw [hzero, Nat.zero_mod])
      unfold apply at hpos ⊢
      omega
    refine hbetween (Nat.mod_eq_zero_of_dvd ((Nat.dvd_add_left hmember).1 ?_))
    rw [← hsplit]
    exact Nat.dvd_of_mod_eq_zero hsstep

end Run

/-! ## Capitals -/

/-- The runs of all characters that have another form in small letters. -/
def capitals : List Run :=
  CaseTable.lower ++ ⟨65, 90, 1, 32⟩ :: CaseTable.lowerLong.map fun e => ⟨e.1, e.1, 1, 0⟩

def isCapital (c : Char) : Bool := capitals.any (·.covers c.toNat)

theorem formsApart_capitals : (CaseTable.lower.all fun r => capitals.all r.formsApart) = true := by
  decide +kernel

theorem isCapital_sigma : isCapital 'Σ' = true := by decide +kernel

theorem isCapital_eq_false_iff : isCapital c = false ↔
    CaseTable.lower.find? (·.covers c.toNat) = none ∧ ¬ (65 ≤ c.toNat ∧ c.toNat ≤ 90) ∧
      CaseTable.lowerLong.lookup c.toNat = none := by
  have hascii : (⟨65, 90, 1, 32⟩ : Run).covers c.toNat = true ↔ 65 ≤ c.toNat ∧ c.toNat ≤ 90 := by
    simp [Run.covers, Nat.mod_one]
  have hsingle : ∀ n, (⟨n, n, 1, 0⟩ : Run).covers c.toNat = true ↔ c.toNat = n := by
    simp [Run.covers, Nat.mod_one, Nat.le_antisymm_iff, and_comm]
  simp only [isCapital, capitals, List.any_eq_false, List.forall_mem_append, List.forall_mem_cons,
    List.forall_mem_map, List.find?_eq_none, List.lookup_eq_none_iff, hascii, hsingle, bne_iff_ne,
    ne_eq]

/-- What is no capital has no other form. -/
theorem lowerChar_of_not_capital (h : isCapital c = false) : lowerChar c = [c] := by
  obtain ⟨hruns, hascii, hlong⟩ := isCapital_eq_false_iff.1 h
  unfold lowerChar
  split
  · rw [toLower_of_not_capital hascii]
  · simp only [mapChar, hlong, hruns]

/-! ## Small forms -/

/-- A number that is no code point gives the null character, which is no capital either. -/
theorem isCapital_ofNat {n : Nat} (h : ∀ s ∈ capitals, s.covers n = false) :
    isCapital (Char.ofNat n) = false := by
  by_cases hvalid : n.isValidChar
  · have hcode : (Char.ofNat n).toNat = n := by
      rw [Char.ofNat, dif_pos hvalid]
      rfl
    refine List.any_eq_false.2 fun s hs => ?_
    rw [hcode, h s hs]
    exact Bool.false_ne_true
  · have hnull : Char.ofNat n = '\x00' := dif_neg hvalid
    rw [hnull]
    decide +kernel

theorem covers_form {r s : Run} {n : Nat} (hr : r ∈ CaseTable.lower) (hn : r.covers n = true)
    (hs : s ∈ capitals) : s.covers (r.apply n) = false :=
  Run.covers_apply_eq_false (List.all_eq_true.1 (List.all_eq_true.1 formsApart_capitals r hr) s hs)
    hn

theorem covers_longForm {e : Nat × List Nat} {s : Run} {n : Nat} (he : e ∈ CaseTable.lowerLong)
    (hn : n ∈ e.2) (hs : s ∈ capitals) : s.covers n = false := by
  have hforms : (CaseTable.lowerLong.all fun e => e.2.all fun n => capitals.all fun s =>
      !s.covers n) = true := by decide +kernel
  simp only [List.all_eq_true, Bool.not_eq_true'] at hforms
  exact hforms e he n hn s hs

/-- Beyond A to Z, all capitals are beyond ASCII. -/
theorem isCapital_of_ascii (h : c.toNat < 128) (hc : ¬ (65 ≤ c.toNat ∧ c.toNat ≤ 90)) :
    isCapital c = false := by
  have hruns : (CaseTable.lower.all fun r => Nat.ble 128 r.first) = true := by decide +kernel
  have hlong : (CaseTable.lowerLong.all fun e => Nat.ble 128 e.1) = true := by decide +kernel
  simp only [List.all_eq_true, Nat.ble_eq] at hruns hlong
  refine isCapital_eq_false_iff.2 ⟨List.find?_eq_none.2 fun r hr => ?_, hc,
    List.lookup_eq_none_iff.2 fun e he => ?_⟩
  · have := hruns r hr
    simp only [Run.covers, Bool.and_eq_true, decide_eq_true_eq]
    omega
  · have := hlong e he
    simp only [bne_iff_ne]
    omega

theorem isCapital_toLower (h : c.toNat < 128) : isCapital c.toLower = false := by
  by_cases hcapital : 65 ≤ c.toNat ∧ c.toNat ≤ 90
  · have hsmall := toNat_toLower hcapital
    exact isCapital_of_ascii (by omega) (by omega)
  · rw [toLower_of_not_capital hcapital]
    exact isCapital_of_ascii h hcapital

theorem isCapital_of_mem_lowerChar (h : d ∈ lowerChar c) : isCapital d = false := by
  unfold lowerChar at h
  split at h
  · next hascii =>
    rw [List.mem_singleton.1 h]
    exact isCapital_toLower hascii
  · next hbeyond =>
    unfold mapChar at h
    split at h
    · next ns hlong =>
      obtain ⟨front, back, htable, -⟩ := List.lookup_eq_some_iff.1 hlong
      obtain ⟨n, hn, rfl⟩ := List.mem_map.1 h
      have he : (c.toNat, ns) ∈ CaseTable.lowerLong := by simp [htable]
      exact isCapital_ofNat fun s hs => covers_longForm he hn hs
    · next hlong =>
      split at h
      · next r hr =>
        have hcovers : r.covers c.toNat = true := by simpa using List.find?_some hr
        rw [List.mem_singleton.1 h]
        exact isCapital_ofNat fun s hs =>
          covers_form (List.mem_of_find?_eq_some hr) hcovers hs
      · next hruns =>
        rw [List.mem_singleton.1 h]
        exact isCapital_eq_false_iff.2 ⟨hruns, by omega, hlong⟩

theorem lowerChar_ne_nil (c : Char) : lowerChar c ≠ [] := by
  have hforms : (CaseTable.lowerLong.all fun e => !e.2.isEmpty) = true := by decide +kernel
  simp only [List.all_eq_true, Bool.not_eq_true', List.isEmpty_eq_false_iff] at hforms
  unfold lowerChar mapChar
  split
  · exact List.cons_ne_nil _ _
  · split
    · next ns hlong =>
      obtain ⟨front, back, htable, -⟩ := List.lookup_eq_some_iff.1 hlong
      have hne := hforms (c.toNat, ns) (by simp [htable])
      simpa using hne
    · split <;> exact List.cons_ne_nil _ _

/-! ## Texts -/

theorem isCapital_of_mem_lowerFrom {before : List Char} (h : d ∈ lowerFrom before cs) :
    isCapital d = false := by
  induction cs generalizing before with
  | nil => cases h
  | cons c cs ih =>
    rcases List.mem_append.1 h with h | h
    · split at h
      · -- Neither form of a sigma is a capital.
        split at h <;> rw [List.mem_singleton.1 h] <;> decide +kernel
      · exact isCapital_of_mem_lowerChar h
    · exact ih h

/-- Without capitals it does not matter what stands around a character. -/
theorem lowerFrom_eq_self (before : List Char) (h : ∀ c ∈ cs, isCapital c = false) :
    lowerFrom before cs = cs := by
  induction cs generalizing before with
  | nil => rfl
  | cons c cs ih =>
    rw [List.forall_mem_cons] at h
    have hsigma : c ≠ 'Σ' := by
      rintro rfl
      exact Bool.false_ne_true (h.1.symm.trans isCapital_sigma)
    rw [lowerFrom, if_neg hsigma, lowerChar_of_not_capital h.1, ih _ h.2, List.singleton_append]

theorem lower_lower (s : String) : lower (lower s) = lower s := by
  have hsmall : lowerFrom [] (lowerFrom [] s.toList) = lowerFrom [] s.toList :=
    lowerFrom_eq_self [] fun _ hc => isCapital_of_mem_lowerFrom hc
  rw [lower, lower, String.toList_ofList, hsmall]

theorem length_le_length_lowerFrom (before cs : List Char) :
    cs.length ≤ (lowerFrom before cs).length := by
  induction cs generalizing before with
  | nil => exact Nat.le_refl _
  | cons c cs ih =>
    have hrest := ih (c :: before)
    have hform := List.length_pos_iff.2 (lowerChar_ne_nil c)
    rw [lowerFrom, List.length_append, List.length_cons]
    split
    · split <;> rw [List.length_singleton] <;> omega
    · omega

theorem length_le_length_lower (s : String) : s.length ≤ (lower s).length := by
  rw [lower, String.length_ofList, ← String.length_toList]
  exact length_le_length_lowerFrom [] s.toList

end CrossSource.Text
