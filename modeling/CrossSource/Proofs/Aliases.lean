import CrossSource.Proofs.Digits
import CrossSource.Query.Edit
import Mathlib.Data.List.Induction
import Mathlib.Data.List.Nodup
import Mathlib.Data.List.Perm.Subperm
/-!
# No two sources ever share an alias

A generated alias is read back as its number, so a number that no alias of a query has gives an
alias that none of them is. Both ways of choosing a number avoid the numbers in use: the counter
goes past all of them, and once it is used up a search finds a gap, since fewer numbers are in use
than candidates are tried. Hence aliases that differ keep differing under all edits
(`aliases_stay_distinct`).
-/

namespace CrossSource

namespace Query

open Number

variable {q : Query}

theorem ordinalOf_aliasOf {n : Nat} (h : n < wordBound) :
    QuerySource.ordinalOf (aliasOf n) = some n := by
  have hlist : (aliasOf n).toList = 's' :: Nat.toDigits 10 n := by
    rw [aliasOf, String.toList_append, Nat.toString_eq_repr, Nat.toList_repr]
    rfl
  rw [QuerySource.ordinalOf, hlist]
  exact readBelow_toDigits h

/-- An alias is new if its number is. -/
theorem aliasOf_not_mem {n : Nat} (h : n < wordBound) (hn : n ∉ q.ordinals) :
    aliasOf n ∉ q.aliases := by
  intro hmem
  obtain ⟨s, hs, heq⟩ := List.mem_map.1 hmem
  refine hn (List.mem_filterMap.2 ⟨s, hs, ?_⟩)
  rw [QuerySource.ordinal, heq]
  exact ordinalOf_aliasOf h

/-! ## The search for a gap -/

/-- The candidates that the search passes over are all used, and it stops at the first that is not,
or when it may not go on. -/
theorem leastUnused_spec (used : List Nat) (steps n : Nat) : ∃ k ≤ steps,
    leastUnused used steps n = n + k ∧ (∀ i < k, n + i ∈ used) ∧ (k < steps → n + k ∉ used) := by
  induction steps generalizing n with
  | zero => exact ⟨0, Nat.le_refl _, rfl, by omega, by omega⟩
  | succ steps ih =>
    by_cases hn : n ∈ used
    · obtain ⟨k, hk, heq, hpassed, hfree⟩ := ih (n + 1)
      refine ⟨k + 1, by omega, ?_, fun i hi => ?_, fun hlt => ?_⟩
      · rw [leastUnused, if_pos hn, heq]
        omega
      · cases i with
        | zero => exact hn
        | succ i =>
          have := hpassed i (by omega)
          rwa [show n + (i + 1) = n + 1 + i by omega]
      · have := hfree (by omega)
        rwa [show n + (k + 1) = n + 1 + k by omega]
    · exact ⟨0, Nat.zero_le _, by simp [leastUnused, hn], by omega, fun _ => hn⟩

/-- More numbers in a row than a list has are not all in it. -/
theorem exists_not_mem_of_length_lt {used : List Nat} {n count : Nat} (h : used.length < count) :
    ∃ i < count, n + i ∉ used := by
  by_contra hall
  push Not at hall
  have hsub : List.range' n count ⊆ used := by
    intro m hm
    rw [List.mem_range'_1] at hm
    have := hall (m - n) (by omega)
    rwa [show n + (m - n) = m by omega] at this
  have hle := (List.subperm_of_subset List.nodup_range' hsub).length_le
  rw [List.length_range'] at hle
  omega

/-- With as many steps as numbers are used, the search ends at the first number that is not. -/
theorem leastUnused_eq_find? {used : List Nat} {steps : Nat} (h : used.length ≤ steps) (n : Nat) :
    (List.range' n (steps + 1)).find? (· ∉ used) = some (leastUnused used steps n) := by
  obtain ⟨k, hk, heq, hpassed, hfree⟩ := leastUnused_spec used steps n
  have hfree' : n + k ∉ used := by
    rcases Nat.lt_or_ge k steps with hlt | hge
    · exact hfree hlt
    · obtain ⟨i, hi, hnot⟩ := exists_not_mem_of_length_lt (n := n) (Nat.lt_succ_of_le h)
      -- All candidates before the last one are used, so the free one is the last.
      have hik : i = k := by
        by_contra hne
        exact hnot (hpassed i (by omega))
      rwa [hik] at hnot
  have hsplit : List.range' n (steps + 1) =
      List.range' n k ++ (n + k) :: List.range' (n + k + 1) (steps - k) := by
    rw [← List.range'_succ, List.range'_append_1]
    congr 1
    omega
  rw [hsplit, heq, List.find?_append, List.find?_eq_none.2, Option.none_or,
    List.find?_cons_of_pos (by simpa using hfree')]
  intro m hm
  rw [List.mem_range'_1] at hm
  have := hpassed (m - n) (by omega)
  rw [show n + (m - n) = m by omega] at this
  simpa using this

theorem length_ordinals_le (q : Query) : q.ordinals.length ≤ q.sources.length :=
  List.length_filterMap_le _ _

/-! ## The number of a new alias -/

/-- The number past the counter is above all numbers in use. -/
theorem lt_ordinalPast {n : Nat} (hn : n ∈ q.ordinals) : n < q.ordinalPast := by
  unfold ordinalPast
  split
  · next highest hmax =>
    have := (List.max?_eq_some_iff.1 hmax).2 n hn
    omega
  · next hmax =>
    rw [List.max?_eq_none_iff.1 hmax] at hn
    cases hn

/-- Either way the number is not in use, and one more still fits a word. -/
theorem nextOrdinal_spec (hroom : q.sources.length + 2 < wordBound) :
    q.nextOrdinal ∉ q.ordinals ∧ q.nextOrdinal + 1 < wordBound := by
  unfold nextOrdinal
  split
  · next hpast =>
    refine ⟨fun hmem => absurd (lt_ordinalPast hmem) (Nat.lt_irrefl _), ?_⟩
    rw [lastOrdinal] at hpast
    omega
  · have hfind := leastUnused_eq_find? (length_ordinals_le q) 1
    have hmem := List.mem_of_find?_eq_some hfind
    rw [List.mem_range'_1] at hmem
    exact ⟨by simpa using List.find?_some hfind, by omega⟩

/-! ## Adding a source in words -/

/-- One more, if a word of 64 bits can hold it. -/
def succWord (n : Nat) : Option Nat := if n + 1 < wordBound then some (n + 1) else none

/-- The first number from 1 on that is not in use, among one candidate more than there are
sources. -/
def searchGap (q : Query) : Option Nat :=
  (List.range' 1 (q.sources.length + 1)).find? (· ∉ q.ordinals)

/-- The number of a new alias, where a sum that does not fit a word is none. -/
def ordinalInWords (q : Query) : Option Nat :=
  let past :=
    match q.ordinals.max? with
    | some highest => succWord highest
    | none => some 1
  match past.map (max · q.nextAlias.toNat) with
  | some n => if n < lastOrdinal then some n else q.searchGap
  | none => q.searchGap

/-- Adding a source with sums in words and a bounded search; none if a sum does not fit or the
search finds nothing. -/
def addSourceInWords (q : Query) (sourceId : String) (table : Option String) : Option Query :=
  q.ordinalInWords.bind fun n => (succWord n).map fun next =>
    { q with
      sources := q.sources ++ [⟨sourceId, table, aliasOf n⟩]
      nextAlias := UInt64.ofNat (max q.nextAlias.toNat next) }

theorem searchGap_eq (q : Query) :
    q.searchGap = some (leastUnused q.ordinals q.sources.length 1) :=
  leastUnused_eq_find? (length_ordinals_le q) 1

theorem ordinalInWords_eq (q : Query) : q.ordinalInWords = some q.nextOrdinal := by
  match hmax : q.ordinals.max? with
  | none =>
    have hpast : q.ordinalPast = max 1 q.nextAlias.toNat := by rw [ordinalPast, hmax]
    rw [nextOrdinal, hpast]
    simp only [ordinalInWords, hmax, Option.map_some, searchGap_eq]
    split <;> rfl
  | some highest =>
    have hpast : q.ordinalPast = max (highest + 1) q.nextAlias.toNat := by rw [ordinalPast, hmax]
    rw [nextOrdinal, hpast]
    by_cases hfits : highest + 1 < wordBound
    · simp only [ordinalInWords, hmax, succWord, if_pos hfits, Option.map_some, searchGap_eq]
      split <;> rfl
    · have hnot : ¬ max (highest + 1) q.nextAlias.toNat < lastOrdinal := by
        rw [lastOrdinal]
        omega
      simp only [ordinalInWords, hmax, succWord, if_neg hfits, Option.map_none, searchGap_eq,
        if_neg hnot]

/-- No sum overflows and the search always ends at a gap. -/
theorem addSourceInWords_eq (hroom : q.sources.length + 2 < wordBound) (sourceId : String)
    (table : Option String) :
    q.addSourceInWords sourceId table = some (q.addSource sourceId table) := by
  rw [addSourceInWords, ordinalInWords_eq, Option.bind_some, succWord,
    if_pos (nextOrdinal_spec hroom).2]
  rfl

/-! ## Aliases along edits -/

theorem aliases_addSource (q : Query) (sourceId : String) (table : Option String) :
    (q.addSource sourceId table).aliases = q.aliases ++ [aliasOf q.nextOrdinal] := by
  simp [addSource, aliases]

theorem aliases_removeSource (q : Query) (index : Nat) :
    (q.removeSource index).aliases = q.aliases.eraseIdx index := by
  unfold removeSource
  split
  · simp [forgetAlias, aliases, List.eraseIdx_map]
  · next hnone =>
    rw [List.eraseIdx_of_length_le]
    simpa [aliases] using List.getElem?_eq_none_iff.1 hnone

theorem nodup_addSource (hroom : q.sources.length + 2 < wordBound) (h : q.aliases.Nodup)
    (sourceId : String) (table : Option String) : (q.addSource sourceId table).aliases.Nodup := by
  obtain ⟨hfree, hfits⟩ := nextOrdinal_spec hroom
  rw [aliases_addSource, List.nodup_append]
  refine ⟨h, by simp, ?_⟩
  intro a ha b hb
  rw [List.mem_singleton] at hb
  subst hb
  rintro rfl
  exact aliasOf_not_mem (by omega) hfree ha

/-- Each edit keeps the aliases distinct. -/
theorem nodup_edit (h : q.aliases.Nodup) (e : Edit)
    (hroom : ∀ sourceId table, e = .addSource sourceId table →
      q.sources.length + 2 < wordBound) : (q.edit e).aliases.Nodup := by
  cases e with
  | addSource sourceId table => exact nodup_addSource (hroom _ _ rfl) h sourceId table
  | removeSource index =>
    rw [edit, aliases_removeSource]
    exact h.sublist (List.eraseIdx_sublist _ _)
  | _ => exact h

theorem editAll_concat (q : Query) (edits : List Edit) (e : Edit) :
    q.editAll (edits ++ [e]) = (q.editAll edits).edit e := by
  simp [editAll]

/-- What each edit of a run keeps holds all along it. -/
theorem editAll_invariant {P : Query → Prop} {edits : List Edit} (hstart : P q)
    (hstep : ∀ before e, before ++ [e] <+: edits → P (q.editAll before) →
      P ((q.editAll before).edit e)) : ∀ before, before <+: edits → P (q.editAll before) := by
  intro before
  induction before using List.reverseRecOn with
  | nil => exact fun _ => hstart
  | append_singleton before e ih =>
    intro hpre
    rw [editAll_concat]
    exact hstep before e hpre (ih ((List.prefix_append _ _).trans hpre))

theorem length_sources_edit_le (q : Query) (e : Edit) :
    (q.edit e).sources.length ≤ q.sources.length + 1 := by
  cases e with
  | addSource sourceId table => simp [edit, addSource]
  | removeSource index =>
    have hlen := congrArg List.length (aliases_removeSource q index)
    have hle := (List.eraseIdx_sublist q.aliases index).length_le
    simp only [aliases, List.length_map] at hlen hle
    rw [edit]
    omega
  | _ => exact Nat.le_succ _

theorem length_sources_editAll_le (q : Query) (edits : List Edit) :
    (q.editAll edits).sources.length ≤ q.sources.length + edits.length := by
  induction edits using List.reverseRecOn with
  | nil => exact Nat.le_refl _
  | append_singleton edits e ih =>
    have := length_sources_edit_le (q.editAll edits) e
    rw [editAll_concat, List.length_append, List.length_singleton]
    omega

/-- Aliases that differ keep differing along any edits, and no addition of a source overflows a word
or searches beyond one candidate more than there are sources, as long as the sources' number itself
leaves room in a word. -/
theorem aliases_stay_distinct (q : Query) (edits : List Edit) (hdistinct : q.aliases.Nodup)
    (hroom : ∀ before sourceId table, before ++ [.addSource sourceId table] <+: edits →
      (q.editAll before).sources.length + 2 < wordBound) :
    (∀ before, before <+: edits → (q.editAll before).aliases.Nodup) ∧
    ∀ before sourceId table, before ++ [.addSource sourceId table] <+: edits →
      (q.editAll before).addSourceInWords sourceId table =
        some ((q.editAll before).addSource sourceId table) := by
  refine ⟨fun before => ?_, fun before sourceId table hpre =>
    addSourceInWords_eq (hroom before sourceId table hpre) sourceId table⟩
  induction before using List.reverseRecOn with
  | nil => exact fun _ => hdistinct
  | append_singleton before e ih =>
    intro hpre
    rw [editAll_concat]
    refine nodup_edit (ih ((List.prefix_append _ _).trans hpre)) e ?_
    rintro sourceId table rfl
    exact hroom before sourceId table hpre

/-- The counter is used up, and so is the greatest number. -/
def exhausted : Query :=
  { new "q" "exhausted" ⟨0, 0⟩ with
    sources := [⟨"a", none, "s18446744073709551615"⟩, ⟨"b", none, "s+1"⟩, ⟨"c", none, "s002"⟩]
    nextAlias := 18446744073709551615 }

theorem aliases_stay_distinct_exhausted :
    exhausted.aliases.Nodup ∧
      (exhausted.editAll [.addSource "d" none, .removeSource 1, .addSource "e" none]).aliases.Nodup ∧
      exhausted.addSourceInWords "d" none = some (exhausted.addSource "d" none) := by
  have hdistinct : exhausted.aliases.Nodup := by decide
  have hroom : ∀ before sourceId table, before ++ [.addSource sourceId table] <+:
      [.addSource "d" none, .removeSource 1, .addSource "e" none] →
      (exhausted.editAll before).sources.length + 2 < wordBound := by
    intro before sourceId table hpre
    have hle := length_sources_editAll_le exhausted before
    have hlen := hpre.length_le
    have hthree : exhausted.sources.length = 3 := rfl
    simp only [List.length_append, List.length_cons, List.length_nil] at hlen
    rw [wordBound_eq]
    omega
  obtain ⟨hnodup, hwords⟩ := aliases_stay_distinct exhausted _ hdistinct hroom
  exact ⟨hdistinct, hnodup _ List.prefix_rfl, hwords [] "d" none ⟨_, rfl⟩⟩

end Query

end CrossSource
