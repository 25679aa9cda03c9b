import CrossSource.FieldType
import Mathlib.Data.List.DropRight
/-!
# Spellings of types

Trimming a text and making its letters small leave no more of that to do (`trim_trim`,
`lowerAscii_lowerAscii`), and small letters are as blank as capitals. So a spelling that is
normalized stays as it is (`FieldType.normalized_normalized`), and a type that was read from a
spelling is read back from its own name (`FieldType.settled_ofSpelling`). Blanks around a spelling,
the case of its letters and the size behind a known one make no difference.
-/

namespace CrossSource

namespace Text

/-! ## Trimming -/

theorem dropWhile_trimBy (p : Char → Bool) (cs : List Char) :
    (trimBy p cs).dropWhile p = trimBy p cs := by
  have hfront : (cs.dropWhile p).dropWhile p = cs.dropWhile p := List.dropWhile_idempotent p cs
  have hstart : trimBy p cs <+: cs.dropWhile p := List.rdropWhile_prefix p (cs.dropWhile p)
  rw [List.dropWhile_eq_self_iff] at hfront ⊢
  intro hlength
  rw [hstart.getElem hlength]
  exact hfront _

theorem trimBy_trimBy (p : Char → Bool) (cs : List Char) :
    trimBy p (trimBy p cs) = trimBy p cs := by
  show ((trimBy p cs).dropWhile p).rdropWhile p = _
  rw [dropWhile_trimBy]
  exact List.rdropWhile_idempotent p (cs.dropWhile p)

theorem eq_false_of_head?_trimBy {p : Char → Bool} {cs : List Char} {c : Char}
    (h : (trimBy p cs).head? = some c) : p c = false := by
  have hdrop := List.head?_dropWhile_not p (trimBy p cs)
  rw [dropWhile_trimBy, h] at hdrop
  exact hdrop

theorem eq_false_of_getLast?_trimBy {p : Char → Bool} {cs : List Char} {c : Char}
    (h : (trimBy p cs).getLast? = some c) : p c = false := by
  have hdrop := List.head?_dropWhile_not p (cs.dropWhile p).reverse
  rw [trimBy, List.getLast?_reverse] at h
  rw [h] at hdrop
  exact hdrop

/-- What trimming drops is no more than what `p` holds of. -/
theorem exists_around_trimBy (p : Char → Bool) (cs : List Char) : ∃ front back,
    (∀ c ∈ front, p c = true) ∧ (∀ c ∈ back, p c = true) ∧ front ++ (trimBy p cs ++ back) = cs := by
  refine ⟨cs.takeWhile p, ((cs.dropWhile p).reverse.takeWhile p).reverse, fun c hc =>
    List.mem_takeWhile_imp hc, fun c hc => List.mem_takeWhile_imp (List.mem_reverse.1 hc), ?_⟩
  rw [trimBy, ← List.reverse_append, List.takeWhile_append_dropWhile, List.reverse_reverse,
    List.takeWhile_append_dropWhile]

theorem trimBy_around {p : Char → Bool} {front back : List Char} (hfront : ∀ c ∈ front, p c = true)
    (hback : ∀ c ∈ back, p c = true) (cs : List Char) :
    trimBy p (front ++ (cs ++ back)) = trimBy p cs := by
  have hdrop : ∀ ds : List Char, ((ds ++ back).reverse).dropWhile p = ds.reverse.dropWhile p := by
    intro ds
    rw [List.reverse_append, List.dropWhile_append_of_pos]
    exact fun c hc => hback c (List.mem_reverse.1 hc)
  rw [trimBy, List.dropWhile_append_of_pos hfront, List.dropWhile_append]
  split
  -- If all of `cs` is dropped from the front, so is `back`.
  · next hnil =>
    rw [List.dropWhile_eq_nil_iff.2 hback, trimBy, List.isEmpty_iff.1 hnil]
  · rw [hdrop, trimBy]

theorem trimBy_map {p : Char → Bool} {f : Char → Char} (h : ∀ c, p (f c) = p c) (cs : List Char) :
    trimBy p (cs.map f) = (trimBy p cs).map f := by
  have hp : p ∘ f = p := funext h
  simp only [trimBy, List.dropWhile_map, ← List.map_reverse, hp]

theorem trim_trim (s : String) : trim (trim s) = trim s := by
  simp only [trim, String.toList_ofList, trimBy_trimBy]

/-- Blanks around a text do not outlast trimming. -/
theorem trim_around {front back : String} (hfront : ∀ c ∈ front.toList, isBlank c = true)
    (hback : ∀ c ∈ back.toList, isBlank c = true) (s : String) :
    trim (front ++ s ++ back) = trim s := by
  simp only [trim, String.toList_append, List.append_assoc, trimBy_around hfront hback]

/-! ## Small letters -/

theorem toNat_toLower {c : Char} (h : 65 ≤ c.toNat ∧ c.toNat ≤ 90) :
    c.toLower.toNat = c.toNat + 32 := by
  have hlower : c.toLower = ⟨c.val + 32, _⟩ := dif_pos ⟨h.1, h.2⟩
  rw [hlower]
  show (c.val + 32).toNat = c.val.toNat + 32
  have hle : c.val.toNat ≤ 90 := h.2
  rw [UInt32.toNat_add, show (32 : UInt32).toNat = 32 from rfl]
  omega

theorem toLower_of_not_capital {c : Char} (h : ¬ (65 ≤ c.toNat ∧ c.toNat ≤ 90)) : c.toLower = c :=
  dif_neg fun hcapital => h ⟨hcapital.1, hcapital.2⟩

theorem toLower_toLower (c : Char) : c.toLower.toLower = c.toLower := by
  by_cases hcapital : 65 ≤ c.toNat ∧ c.toNat ≤ 90
  · have hsmall := toNat_toLower hcapital
    exact toLower_of_not_capital (by omega)
  · rw [toLower_of_not_capital hcapital, toLower_of_not_capital hcapital]

/-- Between the capital A and the small z there is no blank. -/
theorem isBlank_eq_false {c : Char} (h : 65 ≤ c.toNat ∧ c.toNat ≤ 122) : isBlank c = false := by
  simp only [isBlank, Bool.or_eq_false_iff, Bool.and_eq_false_iff, decide_eq_false_iff_not,
    beq_eq_false_iff_ne]
  omega

theorem isUpper_iff {c : Char} : c.isUpper = true ↔ 65 ≤ c.toNat ∧ c.toNat ≤ 90 := by
  show decide ('A'.val ≤ c.val ∧ c.val ≤ 'Z'.val) = true ↔ _
  rw [decide_eq_true_eq]
  rfl

theorem isUpper_toLower (c : Char) : c.toLower.isUpper = false := by
  rw [← Bool.not_eq_true, isUpper_iff]
  by_cases hcapital : 65 ≤ c.toNat ∧ c.toNat ≤ 90
  · rw [toNat_toLower hcapital]
    omega
  · rwa [toLower_of_not_capital hcapital]

theorem isBlank_toLower (c : Char) : isBlank c.toLower = isBlank c := by
  by_cases hcapital : 65 ≤ c.toNat ∧ c.toNat ≤ 90
  · have hsmall := toNat_toLower hcapital
    rw [isBlank_eq_false (by omega), isBlank_eq_false (by omega)]
  · rw [toLower_of_not_capital hcapital]

theorem lowerAscii_lowerAscii (s : String) : lowerAscii (lowerAscii s) = lowerAscii s := by
  simp only [lowerAscii, String.toList_ofList, List.map_map]
  congr 1
  exact List.map_congr_left fun c _ => toLower_toLower c

theorem trim_lowerAscii (s : String) : trim (lowerAscii s) = lowerAscii (trim s) := by
  simp only [trim, lowerAscii, String.toList_ofList, trimBy_map isBlank_toLower]

/-- No blanks at the ends and no capitals from A to Z. -/
structure Tidy (s : String) : Prop where
  first : ∀ c, s.toList.head? = some c → isBlank c = false
  last : ∀ c, s.toList.getLast? = some c → isBlank c = false
  small : ∀ c ∈ s.toList, c.isUpper = false

theorem tidy_lowerAscii_trim (s : String) : Tidy (lowerAscii (trim s)) := by
  have htrim : (lowerAscii (trim s)).toList = trimBy isBlank (lowerAscii s).toList := by
    rw [← trim_lowerAscii, trim, String.toList_ofList]
  refine ⟨fun c hc => ?_, fun c hc => ?_, fun c hc => ?_⟩
  · exact eq_false_of_head?_trimBy (htrim ▸ hc)
  · exact eq_false_of_getLast?_trimBy (htrim ▸ hc)
  · rw [lowerAscii, String.toList_ofList, List.mem_map] at hc
    obtain ⟨d, -, rfl⟩ := hc
    exact isUpper_toLower d

end Text

namespace FieldType

open Text

theorem normalized_normalized (s : String) : normalized (normalized s) = normalized s := by
  rw [normalized, normalized, trim_lowerAscii, trim_trim, lowerAscii_lowerAscii]

/-- The type is read back from its own name by whoever knows the spellings of databases. -/
def Settled (t : FieldType) : Prop := ofSpelling t.name = t

/-- A spelling is one of a known type, or else it is kept as it is normalized. -/
theorem ofSpelling_cases (s : String) :
    (ofSpelling s).isOther = false ∨
      spellings.lookup (base (normalized s)) = none ∧ ofSpelling s = .other (normalized s) := by
  unfold ofSpelling
  cases hlookup : spellings.lookup (base (normalized s)) with
  | none => exact .inr ⟨rfl, rfl⟩
  | some t =>
    obtain ⟨front, back, heq, -⟩ := List.lookup_eq_some_iff.1 hlookup
    have hmem : (base (normalized s), t) ∈ spellings := by simp [heq]
    have hknown : ∀ e ∈ spellings, e.2.isOther = false := by decide
    exact .inl (hknown _ hmem)

theorem settled_of_isOther_eq_false {t : FieldType} (h : t.isOther = false) : t.Settled := by
  cases t with
  | other s => cases h
  | _ => unfold Settled; decide +kernel

/-- Whatever type a spelling is read as, its own name is read as that type again. -/
theorem settled_ofSpelling (s : String) : (ofSpelling s).Settled := by
  rcases ofSpelling_cases s with hknown | ⟨hlookup, hother⟩
  · exact settled_of_isOther_eq_false hknown
  · have hagain : ofSpelling (normalized s) = .other (normalized s) := by
      unfold ofSpelling
      rw [normalized_normalized, hlookup]
    rw [Settled, hother]
    exact hagain

end FieldType

end CrossSource
