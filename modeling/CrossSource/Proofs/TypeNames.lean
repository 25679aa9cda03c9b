import CrossSource.Proofs.QueryDocument
import CrossSource.Proofs.Spellings
/-!
# Types in catalogs and in query documents

A query document writes a type under its name and reads it by its exact name; a catalog reads it by
any spelling that databases use. Whatever a catalog has read is read back from its name by both
(`types_survive_documents`), since a type that no spelling names keeps a text that is neither a
name nor a spelling of another type. The base of a spelling is the spelling of its base
(`base_normalized`), so only what stands before the first parenthesis counts for a known type.
-/

namespace CrossSource.FieldType

open Text

/-! ## What counts of a spelling -/

theorem ofSpelling_congr {r s : String} (h : normalized r = normalized s) :
    ofSpelling r = ofSpelling s := by
  unfold ofSpelling
  rw [h]

theorem normalized_around {front back : String} (hfront : ∀ c ∈ front.toList, isBlank c = true)
    (hback : ∀ c ∈ back.toList, isBlank c = true) (s : String) :
    normalized (front ++ s ++ back) = normalized s := by
  rw [normalized, trim_around hfront hback, normalized]

theorem normalized_congr {r s : String} (h : lowerAscii r = lowerAscii s) :
    normalized r = normalized s := by
  rw [normalized, normalized, ← trim_lowerAscii, ← trim_lowerAscii, h]

/-! ## Sizes -/

/-- The part of a text before the first parenthesis. -/
def beforeSize (s : String) : String := String.ofList (s.toList.takeWhile (· != '('))

theorem base_eq (s : String) : base s = trim (beforeSize s) := rfl

theorem beforeSize_lowerAscii (s : String) :
    beforeSize (lowerAscii s) = lowerAscii (beforeSize s) := by
  have hparenthesis : ((· != '(') ∘ Char.toLower) = fun c => c != '(' := by
    funext c
    by_cases hcapital : c.isUpper = true
    · have hc := isUpper_iff.1 hcapital
      have hsmall := toNat_toLower hc
      have hforty : '('.toNat = 40 := rfl
      have hne : c ≠ '(' := by rintro rfl; omega
      have hne' : c.toLower ≠ '(' := by intro heq; rw [heq] at hsmall; omega
      rw [Function.comp, bne_iff_ne.2 hne, bne_iff_ne.2 hne']
    · rw [Function.comp, toLower_of_not_capital (isUpper_iff.not.1 hcapital)]
  simp only [beforeSize, lowerAscii, String.toList_ofList, List.takeWhile_map, hparenthesis]

/-- Blanks at the end of a text add nothing but blanks to the part before the size. -/
theorem takeWhile_append_blanks (cs : List Char) {back : List Char}
    (hback : ∀ c ∈ back, isBlank c = true) : ∃ rest, (∀ c ∈ rest, isBlank c = true) ∧
      (cs ++ back).takeWhile (· != '(') = cs.takeWhile (· != '(') ++ rest := by
  rw [List.takeWhile_append]
  split_ifs with hlength
  · rw [(List.takeWhile_prefix _).eq_of_length hlength]
    exact ⟨_, fun c hc => hback c ((List.takeWhile_sublist _).subset hc), rfl⟩
  · exact ⟨[], nofun, (List.append_nil _).symm⟩

/-- Trimming the whole before or not, the part before the size is the same but for blanks. -/
theorem trim_beforeSize_trim (s : String) : trim (beforeSize (trim s)) = trim (beforeSize s) := by
  -- Blanks are no parentheses, so all those in front belong to the part before the size.
  have hblank : ∀ c, isBlank c = true → (c != '(') = true := by
    rintro c hc
    rw [bne_iff_ne]
    rintro rfl
    cases hc
  obtain ⟨front, back, hfront, hback, heq⟩ := exists_around_trimBy isBlank s.toList
  obtain ⟨rest, hrest, hsplit⟩ := takeWhile_append_blanks (trimBy isBlank s.toList) hback
  have hall : s.toList.takeWhile (· != '(') =
      front ++ ((trimBy isBlank s.toList).takeWhile (· != '(') ++ rest) := by
    conv_lhs => rw [← heq]
    rw [List.takeWhile_append_of_pos fun c hc => hblank c (hfront c hc), hsplit]
  simp only [trim, beforeSize, String.toList_ofList, hall, trimBy_around hfront hrest]

/-- The base of a spelling is the spelling of what stands before its size. -/
theorem base_normalized (s : String) : base (normalized s) = normalized (beforeSize s) :=
  calc base (normalized s)
      = trim (lowerAscii (beforeSize (trim s))) := by
        rw [base_eq, normalized, beforeSize_lowerAscii]
    _ = lowerAscii (trim (beforeSize s)) := by rw [trim_lowerAscii, trim_beforeSize_trim]
    _ = normalized (beforeSize s) := rfl

/-- Behind a known spelling it does not matter whether there is a size, and which. -/
theorem ofSpelling_of_beforeSize {r s : String}
    (hknown : normalized (beforeSize s) ∈ spellings.map Prod.fst)
    (h : beforeSize r = beforeSize s) : ofSpelling r = ofSpelling s := by
  obtain ⟨e, he, hname⟩ := List.mem_map.1 hknown
  -- The text as a whole counts only where its base is unknown.
  unfold ofSpelling
  rw [base_normalized, base_normalized, h]
  cases hlookup : spellings.lookup (normalized (beforeSize s)) with
  | some t => rfl
  | none => exact absurd hname.symm (by simpa using List.lookup_eq_none_iff.1 hlookup e he)

/-! ## Types that no spelling names -/

/-- What is kept of such a type is tidy, and no catalog takes it for another type's spelling. -/
theorem ofSpelling_eq_other {s x : String} (h : ofSpelling s = .other x) :
    Tidy x ∧ ofSpelling x = .other x ∧ x ∉ spellings.map Prod.fst := by
  have hx : x = normalized s := by
    rcases ofSpelling_cases s with hknown | ⟨-, hother⟩
    · rw [h] at hknown
      cases hknown
    · rw [hother, other.injEq] at h
      exact h.symm
  have hagain : ofSpelling x = .other x := by
    have hsettled : ofSpelling (ofSpelling s).name = ofSpelling s := settled_ofSpelling s
    rwa [h] at hsettled
  refine ⟨hx ▸ tidy_lowerAscii_trim s, hagain, fun hmem => ?_⟩
  have hknown : ∀ spelling ∈ spellings.map Prod.fst, (ofSpelling spelling).isOther = false := by
    decide +kernel
  have hx' := hknown x hmem
  rw [hagain] at hx'
  cases hx'

theorem proper_ofSpelling (s : String) : (ofSpelling s).Proper := by
  intro x hx hmem
  have hnames : known.map name ⊆ spellings.map Prod.fst := by decide
  exact (ofSpelling_eq_other hx).2.2 (hnames hmem)

/-! ## Types in documents -/

theorem name_ofName (s : String) : (ofName s).name = s := by
  unfold ofName
  split_ifs with hstring hnumber hdecimal hdate hboolean
  · exact hstring.symm
  · exact hnumber.symm
  · exact hdecimal.symm
  · exact hdate.symm
  · exact hboolean.symm
  · rfl

/-- A query document gives back the name of a type as it was written. What a catalog has read as a
type, both read back from its name. A type that no spelling names keeps a text without blanks at the
ends and without capitals from A to Z, which is read as that type again and is no spelling of
another. Blanks around a spelling, the case of the letters A to Z and, behind a known spelling, all
from the first parenthesis on make no difference. -/
theorem types_survive_documents (s : String) :
    (ofName s).name = s ∧
    ofName (ofSpelling s).name = ofSpelling s ∧ ofSpelling (ofSpelling s).name = ofSpelling s ∧
    (∀ x, ofSpelling s = .other x →
      Tidy x ∧ ofSpelling x = .other x ∧ x ∉ spellings.map Prod.fst) ∧
    (∀ front back : String, (∀ c ∈ front.toList, isBlank c = true) →
      (∀ c ∈ back.toList, isBlank c = true) → ofSpelling (front ++ s ++ back) = ofSpelling s) ∧
    (∀ r, lowerAscii r = lowerAscii s → ofSpelling r = ofSpelling s) ∧
    (normalized (beforeSize s) ∈ spellings.map Prod.fst →
      ∀ r, beforeSize r = beforeSize s → ofSpelling r = ofSpelling s) :=
  ⟨name_ofName s, ofName_name (proper_ofSpelling s), settled_ofSpelling s,
    fun _ h => ofSpelling_eq_other h,
    fun _ _ hfront hback => ofSpelling_congr (normalized_around hfront hback s),
    fun _ h => ofSpelling_congr (normalized_congr h),
    fun hknown _ h => ofSpelling_of_beforeSize hknown h⟩

/-- A spelling that is spaced out, in capitals, with a size or with another; one that nobody knows;
and a name that only a catalog understands. -/
theorem types_survive_documents_varchar :
    ofSpelling "VarChar (20)" = .string ∧
    ofSpelling (" \t" ++ "VarChar (20)" ++ "\u3000") = .string ∧
    ofSpelling "VARCHAR (20)" = .string ∧ ofSpelling "VarChar (max)(" = .string ∧
    ofSpelling " Geometry(4)\n" = .other "geometry(4)" ∧
    Tidy "geometry(4)" ∧ ofName "geometry(4)" = .other "geometry(4)" ∧
    (ofName "VarChar (20)").name = "VarChar (20)" := by
  obtain ⟨hname, -, -, -, haround, hcase, hsize⟩ := types_survive_documents "VarChar (20)"
  obtain ⟨-, hread, -, hother, -⟩ := types_survive_documents " Geometry(4)\n"
  have hvarchar : ofSpelling "VarChar (20)" = .string := by decide +kernel
  have hgeometry : ofSpelling " Geometry(4)\n" = .other "geometry(4)" := by decide +kernel
  rw [hgeometry] at hread
  have hfront : ∀ c ∈ " \t".toList, isBlank c = true := List.all_eq_true.1 (by decide)
  have hback : ∀ c ∈ "\u3000".toList, isBlank c = true := List.all_eq_true.1 (by decide)
  refine ⟨hvarchar, (haround _ _ hfront hback).trans hvarchar,
    (hcase _ (by decide +kernel)).trans hvarchar,
    (hsize (by decide +kernel) _ (by decide +kernel)).trans hvarchar,
    hgeometry, (hother _ hgeometry).1, hread, hname⟩

end CrossSource.FieldType
