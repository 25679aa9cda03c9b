import CrossSource.Proofs.Counter
import Mathlib.Data.List.Infix
/-!
# What a great alias does to the counter

The number of a new alias is not below the counter as long as each source leaves room for a number
past its own. A source of an alias that leaves none, which a document may have, makes an addition
search for a gap, and the search looks at the sources present only: it knows nothing of the aliases
that the counter is past and whose sources are gone. So a removed alias is handed out again just
when a source leaves no room and the alias is the first gap
(`removed_alias_returns_iff_first_gap`), even if the counter is far from its end.
-/

namespace CrossSource.Query

open Number

variable {q : Query}

/-! ## Gaps -/

/-- Past the number of each source there is one that can be handed out. -/
def LeavesRoom (q : Query) : Prop := ∀ n ∈ q.ordinals, n + 1 < lastOrdinal

/-- The least number from 1 on that no source has. -/
structure FirstGap (q : Query) (n : Nat) : Prop where
  pos : 0 < n
  free : n ∉ q.ordinals
  used : ∀ k, 0 < k → k < n → k ∈ q.ordinals

theorem FirstGap.unique {m n : Nat} (hm : q.FirstGap m) (hn : q.FirstGap n) : m = n := by
  rcases Nat.lt_trichotomy m n with hlt | heq | hgt
  · exact absurd (hn.used m hm.pos hlt) hm.free
  · exact heq
  · exact absurd (hm.used n hn.pos hgt) hn.free

theorem firstGap_leastUnused (q : Query) :
    q.FirstGap (leastUnused q.ordinals q.sources.length 1) := by
  obtain ⟨k, -, heq, hpassed, -⟩ := leastUnused_spec q.ordinals q.sources.length 1
  have hfree := List.find?_some (leastUnused_eq_find? (length_ordinals_le q) 1)
  refine ⟨by omega, by simpa using hfree, fun i hpos hlt => ?_⟩
  have := hpassed (i - 1) (by omega)
  rwa [show 1 + (i - 1) = i by omega] at this

/-! ## The number of a new alias -/

theorem ordinalPast_lt_iff (hcounter : q.nextAlias.toNat < lastOrdinal) :
    q.ordinalPast < lastOrdinal ↔ q.LeavesRoom := by
  have hlast : 1 < lastOrdinal := by decide
  rw [show q.ordinalPast < lastOrdinal ↔ q.ordinalPast ≤ lastOrdinal - 1 by omega,
    ordinalPast_le_iff]
  constructor
  · rintro ⟨-, -, hall⟩ n hn
    have := hall n hn
    omega
  · intro hroom
    refine ⟨by omega, by omega, fun n hn => ?_⟩
    have := hroom n hn
    omega

/-- Where the counter is not used up, it is the sources that decide how a number is chosen. -/
theorem nextOrdinal_cases (hcounter : q.nextAlias.toNat < lastOrdinal) :
    (q.LeavesRoom ∧ q.nextOrdinal = q.ordinalPast) ∨
      (¬ q.LeavesRoom ∧ q.FirstGap q.nextOrdinal) := by
  by_cases hroom : q.LeavesRoom
  · exact .inl ⟨hroom, if_pos ((ordinalPast_lt_iff hcounter).2 hroom)⟩
  · refine .inr ⟨hroom, ?_⟩
    rw [nextOrdinal, if_neg fun hpast => hroom ((ordinalPast_lt_iff hcounter).1 hpast)]
    exact firstGap_leastUnused q

theorem nextAlias_le_nextOrdinal_iff (hcounter : q.nextAlias.toNat < lastOrdinal) :
    q.nextAlias.toNat ≤ q.nextOrdinal ↔
      q.LeavesRoom ∨ ∀ k, 0 < k → k < q.nextAlias.toNat → k ∈ q.ordinals := by
  rcases nextOrdinal_cases hcounter with ⟨hroom, heq⟩ | ⟨hroom, hgap⟩
  · rw [heq]
    exact ⟨fun _ => .inl hroom, fun _ => nextAlias_le_ordinalPast q⟩
  · constructor
    · intro hle
      right
      intro k hpos hlt
      exact hgap.used k hpos (by omega)
    · intro hused
      -- A gap below the counter would be among the numbers that the sources have.
      by_contra hlt
      exact hgap.free (hused.resolve_left hroom _ hgap.pos (by omega))

/-- A number that the counter is past comes up only as the first gap, and only for want of room. -/
theorem nextOrdinal_eq_iff (hcounter : q.nextAlias.toNat < lastOrdinal) {m : Nat}
    (hm : m < q.nextAlias.toNat) : q.nextOrdinal = m ↔ ¬ q.LeavesRoom ∧ q.FirstGap m := by
  rcases nextOrdinal_cases hcounter with ⟨hroom, heq⟩ | ⟨hroom, hgap⟩
  · have := nextAlias_le_ordinalPast q
    constructor
    · intro hreturned
      omega
    · intro hgap
      exact absurd hroom hgap.1
  · constructor
    · rintro rfl
      exact ⟨hroom, hgap⟩
    · intro hgap'
      exact hgap.unique hgap'.2

/-! ## The counter along edits -/

theorem toNat_nextAlias_addSource (hfew : q.sources.length + 2 < wordBound) (sourceId : String)
    (table : Option String) :
    (q.addSource sourceId table).nextAlias.toNat = max q.nextAlias.toNat (q.nextOrdinal + 1) := by
  have hfits := (nextOrdinal_spec hfew).2
  have hcounter := q.nextAlias.toNat_lt
  rw [wordBound_eq] at hfits
  simp only [addSource, UInt64.toNat_ofNat']
  omega

/-- An edit never moves the counter back, and moves it past the number that it hands out. -/
theorem nextAlias_edit {e : Edit} (hfew : ∀ sourceId table, e = .addSource sourceId table →
    q.sources.length + 2 < wordBound) :
    q.nextAlias.toNat ≤ (q.edit e).nextAlias.toNat ∧
      ∀ n, q.issues e = some n → n < (q.edit e).nextAlias.toNat := by
  cases e with
  | addSource sourceId table =>
    rw [edit, toNat_nextAlias_addSource (hfew _ _ rfl)]
    refine ⟨by omega, fun n hn => ?_⟩
    rw [issues, Option.some.injEq] at hn
    omega
  | removeSource index =>
    rw [edit, nextAlias_removeSource]
    refine ⟨Nat.le_refl _, fun n hn => ?_⟩
    cases hn
  | _ =>
    refine ⟨Nat.le_refl _, fun n hn => ?_⟩
    cases hn

/-- The counter is past all numbers that have been handed out, however they were chosen. -/
theorem lt_nextAlias_of_mem_issued {edits : List Edit}
    (hfew : ∀ before sourceId table, before ++ [.addSource sourceId table] <+: edits →
      (q.editAll before).sources.length + 2 < wordBound) :
    ∀ n ∈ q.issued edits, n < (q.editAll edits).nextAlias.toNat := by
  induction edits using List.reverseRecOn with
  | nil =>
    intro n hn
    cases hn
  | append_singleton edits e ih =>
    have hpast := ih fun before sourceId table hpre =>
      hfew before sourceId table (hpre.trans (List.prefix_append _ _))
    have hstep : ∀ sourceId table, e = .addSource sourceId table →
        (q.editAll edits).sources.length + 2 < wordBound := by
      rintro sourceId table rfl
      exact hfew edits sourceId table List.prefix_rfl
    obtain ⟨hgrown, hissued⟩ := nextAlias_edit hstep
    rw [issued_concat, editAll_concat]
    intro n hn
    rcases List.mem_append.1 hn with hn | hn
    · exact Nat.lt_of_lt_of_le (hpast n hn) hgrown
    · exact hissued n (Option.mem_toList.1 hn)

/-! ## Removed aliases -/

theorem aliasOf_inj {m n : Nat} (hm : m < wordBound) (hn : n < wordBound) :
    aliasOf n = aliasOf m ↔ n = m := by
  constructor
  · intro heq
    have hread := congrArg QuerySource.ordinalOf heq
    rwa [ordinalOf_aliasOf hm, ordinalOf_aliasOf hn, Option.some.injEq] at hread
  · rintro rfl
    rfl

/-- Along edits whose additions find the counter short of its end: the number of a new alias is not
below the counter just when each source leaves room, or has every number that the counter is past.
The counter is past all numbers handed out before, and such an alias, if its source is gone, is
handed out again just when some source leaves no room and the alias is the first gap. -/
theorem removed_alias_returns_iff_first_gap (q : Query) (edits : List Edit)
    (hcounter : ∀ before sourceId table, before ++ [.addSource sourceId table] <+: edits →
      (q.editAll before).nextAlias.toNat < lastOrdinal)
    (hfew : ∀ before sourceId table, before ++ [.addSource sourceId table] <+: edits →
      (q.editAll before).sources.length + 2 < wordBound) :
    ∀ before sourceId table, before ++ [.addSource sourceId table] <+: edits →
      let now := q.editAll before
      let n := now.nextOrdinal
      q.issued (before ++ [.addSource sourceId table]) = q.issued before ++ [n] ∧
        (q.editAll (before ++ [.addSource sourceId table])).sources =
          now.sources ++ [⟨sourceId, table, aliasOf n⟩] ∧
        (now.nextAlias.toNat ≤ n ↔
          now.LeavesRoom ∨ ∀ k, 0 < k → k < now.nextAlias.toNat → k ∈ now.ordinals) ∧
        ∀ m ∈ q.issued before, m < now.nextAlias.toNat ∧
          (aliasOf n = aliasOf m ↔ ¬ now.LeavesRoom ∧ now.FirstGap m) := by
  intro before sourceId table hpre now n
  have hshort : now.nextAlias.toNat < lastOrdinal := hcounter before sourceId table hpre
  have hfits : n + 1 < wordBound := (nextOrdinal_spec (hfew before sourceId table hpre)).2
  have hpast : ∀ m ∈ q.issued before, m < now.nextAlias.toNat :=
    lt_nextAlias_of_mem_issued fun earlier s t hearlier =>
      hfew earlier s t (hearlier.trans ((List.prefix_append _ _).trans hpre))
  refine ⟨by rw [issued_concat]; rfl, by rw [editAll_concat]; rfl,
    nextAlias_le_nextOrdinal_iff hshort, fun m hm => ⟨hpast m hm, ?_⟩⟩
  have hword : m < wordBound := (hpast m hm).trans now.nextAlias.toNat_lt
  rw [aliasOf_inj hword (by omega)]
  exact nextOrdinal_eq_iff hshort (hpast m hm)

/-- A query from a document whose one source has the greatest number. -/
def topped : Query :=
  { new "q" "topped" ⟨0, 0⟩ with sources := [⟨"a", none, "s18446744073709551615"⟩] }

/-- As soon as the source of the greatest number is gone, the counter protects the removed alias. -/
theorem removed_alias_returns_iff_first_gap_relieved :
    let edits : List Edit :=
      [.addSource "b" none, .removeSource 1, .removeSource 0, .addSource "c" none]
    let now := topped.editAll (edits.take 3)
    (∀ before ∈ edits.inits, (topped.editAll before).nextAlias.toNat < lastOrdinal ∧
        (topped.editAll before).sources.length + 2 < wordBound) ∧
      topped.issued (edits.take 3) = [1] ∧ 1 < now.nextAlias.toNat ∧
      aliasOf now.nextOrdinal ≠ aliasOf 1 := by
  intro edits now
  have hinits : ∀ before ∈ edits.inits, (topped.editAll before).nextAlias.toNat < lastOrdinal ∧
      (topped.editAll before).sources.length + 2 < wordBound := by decide +kernel
  have hissued : topped.issued (edits.take 3) = [1] := by decide +kernel
  have hall : ∀ before sourceId table, before ++ [.addSource sourceId table] <+: edits →
      before ∈ edits.inits := fun before sourceId table hpre =>
    (List.mem_inits _ _).2 ((List.prefix_append _ _).trans hpre)
  obtain ⟨-, -, -, hearlier⟩ := removed_alias_returns_iff_first_gap topped edits
    (fun before s t hpre => (hinits before (hall before s t hpre)).1)
    (fun before s t hpre => (hinits before (hall before s t hpre)).2)
    (edits.take 3) "c" none List.prefix_rfl
  obtain ⟨hpast, hreturns⟩ := hearlier 1 (by rw [hissued]; exact List.mem_singleton_self 1)
  have hroom : now.LeavesRoom := by
    have hnone : now.ordinals = [] := by decide +kernel
    intro n hn
    rw [hnone] at hn
    cases hn
  exact ⟨hinits, hissued, hpast, fun hsame => (hreturns.1 hsame).1 hroom⟩

/-- With that source the alias s1 is handed out, removed, and handed out again, while the counter is
at 2. -/
theorem removed_alias_is_handed_out_again :
    let edits : List Edit := [.addSource "b" none, .removeSource 1, .addSource "c" none]
    (∀ before ∈ edits.inits, (topped.editAll before).nextAlias.toNat < lastOrdinal) ∧
      topped.issued edits = [1, 1] ∧
      (topped.editAll (edits.take 2)).aliases = ["s18446744073709551615"] ∧
      (topped.editAll (edits.take 2)).nextAlias = 2 ∧
      (topped.editAll edits).aliases = ["s18446744073709551615", "s1"] := by
  decide +kernel

end CrossSource.Query
