import CrossSource.Proofs.Aliases
/-!
# The counter remembers the aliases that are gone

As long as numbers last, a new alias takes the number past both the counter and the aliases of the
query, and the counter moves past it. So numbers are handed out in increasing order, and the counter
keeps an alias from being handed out again when its source is no longer there to tell
(`aliases_are_not_reissued`).

A query from a document may have aliases whose numbers its counter is not past. Until the next
addition nothing but these aliases keeps their numbers from being handed out; from then on the
counter is past them and stays so along all edits. If the source of such an alias is removed before
that, its number is handed out again (`removed_alias_of_document_returns`).
-/

namespace CrossSource.Query

open Number

variable {q : Query}

/-! ## The numbers that edits hand out -/

/-- The number that an edit hands out, if it adds a source. -/
def issues (q : Query) : Edit → Option Nat
  | .addSource _ _ => some q.nextOrdinal
  | _ => none

/-- The numbers that edits hand out one after the other, in their order. -/
def issued (q : Query) : List Edit → List Nat
  | [] => []
  | e :: edits => (q.issues e).toList ++ (q.edit e).issued edits

theorem issued_concat (q : Query) (edits : List Edit) (e : Edit) :
    q.issued (edits ++ [e]) = q.issued edits ++ ((q.editAll edits).issues e).toList := by
  induction edits generalizing q with
  | nil => simp [issued, editAll]
  | cons d edits ih =>
    rw [List.cons_append, issued, ih, issued, List.append_assoc]
    rfl

/-! ## The number past the counter and the aliases -/

theorem ordinalPast_le_iff {k : Nat} : q.ordinalPast ≤ k ↔
    1 ≤ k ∧ q.nextAlias.toNat ≤ k ∧ ∀ n ∈ q.ordinals, n < k := by
  unfold ordinalPast
  split
  · next highest hmax =>
    obtain ⟨hmem, hle⟩ := List.max?_eq_some_iff.1 hmax
    constructor
    · intro h
      refine ⟨by omega, by omega, fun n hn => ?_⟩
      have := hle n hn
      omega
    · rintro ⟨-, hcounter, hall⟩
      have := hall highest hmem
      omega
  · next hmax =>
    rw [List.max?_eq_none_iff.1 hmax, Nat.max_le]
    simp

theorem nextAlias_le_ordinalPast (q : Query) : q.nextAlias.toNat ≤ q.ordinalPast :=
  (ordinalPast_le_iff.1 (Nat.le_refl _)).2.1

/-! ## Adding a source while numbers last -/

theorem nextOrdinal_eq (hroom : q.ordinalPast < lastOrdinal) : q.nextOrdinal = q.ordinalPast :=
  if_pos hroom

theorem succ_ordinalPast_lt (hroom : q.ordinalPast < lastOrdinal) :
    q.ordinalPast + 1 < wordBound := by
  rw [lastOrdinal] at hroom
  omega

theorem nextAlias_addSource (hroom : q.ordinalPast < lastOrdinal) (sourceId : String)
    (table : Option String) :
    (q.addSource sourceId table).nextAlias.toNat = q.ordinalPast + 1 := by
  have hfits := succ_ordinalPast_lt hroom
  have hle := nextAlias_le_ordinalPast q
  rw [wordBound_eq] at hfits
  simp only [addSource, nextOrdinal_eq hroom, UInt64.toNat_ofNat']
  omega

theorem ordinals_addSource (hroom : q.ordinalPast < lastOrdinal) (sourceId : String)
    (table : Option String) :
    (q.addSource sourceId table).ordinals = q.ordinals ++ [q.ordinalPast] := by
  have hfits := succ_ordinalPast_lt hroom
  have hread : QuerySource.ordinalOf (aliasOf q.ordinalPast) = some q.ordinalPast :=
    ordinalOf_aliasOf (by omega)
  simp [ordinals, addSource, nextOrdinal_eq hroom, QuerySource.ordinal, hread]

/-- With a new source the counter is past the numbers of all aliases. -/
theorem lt_nextAlias_addSource (hroom : q.ordinalPast < lastOrdinal) (sourceId : String)
    (table : Option String) : ∀ n ∈ (q.addSource sourceId table).ordinals,
      n < (q.addSource sourceId table).nextAlias.toNat := by
  intro n hn
  rw [ordinals_addSource hroom, List.mem_append, List.mem_singleton] at hn
  rw [nextAlias_addSource hroom]
  rcases hn with hn | rfl
  · exact Nat.lt_succ_of_lt (lt_ordinalPast hn)
  · exact Nat.lt_succ_self _

/-! ## What each edit keeps -/

/-- Numbers last for an edit: if it adds a source, the number past all others is not the last. -/
def HasRoom (q : Query) (e : Edit) : Prop :=
  ∀ sourceId table, e = .addSource sourceId table → q.ordinalPast < lastOrdinal

theorem ordinals_removeSource_subset (q : Query) (index : Nat) :
    (q.removeSource index).ordinals ⊆ q.ordinals := by
  unfold removeSource
  split
  · exact ((List.eraseIdx_sublist _ _).filterMap _).subset
  · exact List.Subset.refl _

theorem nextAlias_removeSource (q : Query) (index : Nat) :
    (q.removeSource index).nextAlias = q.nextAlias := by
  unfold removeSource
  split <;> rfl

theorem nextAlias_le_edit {e : Edit} (hroom : q.HasRoom e) :
    q.nextAlias.toNat ≤ (q.edit e).nextAlias.toNat := by
  cases e with
  | addSource sourceId table =>
    have hle := nextAlias_le_ordinalPast q
    rw [edit, nextAlias_addSource (hroom _ _ rfl)]
    omega
  | removeSource index => exact Nat.le_of_eq (by rw [edit, nextAlias_removeSource])
  | _ => exact Nat.le_refl _

/-- An edit uses up one number at most. -/
theorem ordinalPast_edit_le {e : Edit} (hroom : q.HasRoom e) :
    (q.edit e).ordinalPast ≤ q.ordinalPast + 1 := by
  obtain ⟨hone, hcounter, hall⟩ := ordinalPast_le_iff.1 (Nat.le_refl q.ordinalPast)
  rw [ordinalPast_le_iff]
  refine ⟨by omega, ?_⟩
  cases e with
  | addSource sourceId table =>
    have hroom := hroom _ _ rfl
    -- The counter itself is the new number past all others.
    refine ⟨Nat.le_of_eq (nextAlias_addSource hroom _ _), fun n hn => ?_⟩
    have := lt_nextAlias_addSource hroom _ _ n hn
    rwa [nextAlias_addSource hroom] at this
  | removeSource index =>
    refine ⟨?_, fun n hn => Nat.lt_succ_of_lt (hall n (ordinals_removeSource_subset q index hn))⟩
    rw [edit, nextAlias_removeSource]
    omega
  | _ => exact ⟨Nat.le_succ_of_le hcounter, fun n hn => Nat.lt_succ_of_lt (hall n hn)⟩

/-! ## What a run of edits keeps -/

/-- Numbers last along some edits: whenever one of them adds a source, the number past the counter
and all aliases is below the last one of a word. -/
def NumbersLast (q : Query) (edits : List Edit) : Prop :=
  ∀ before sourceId table, before ++ [.addSource sourceId table] <+: edits →
    (q.editAll before).ordinalPast < lastOrdinal

theorem NumbersLast.of_prefix {before edits : List Edit} (h : q.NumbersLast edits)
    (hpre : before <+: edits) : q.NumbersLast before :=
  fun earlier sourceId table hearlier => h earlier sourceId table (hearlier.trans hpre)

theorem NumbersLast.hasRoom {before edits : List Edit} {e : Edit} (h : q.NumbersLast edits)
    (hpre : before ++ [e] <+: edits) : (q.editAll before).HasRoom e := by
  rintro sourceId table rfl
  exact h before sourceId table hpre

/-- The counter never goes back. -/
theorem nextAlias_le_editAll {earlier later : List Edit} (hpre : earlier <+: later)
    (h : q.NumbersLast later) :
    (q.editAll earlier).nextAlias.toNat ≤ (q.editAll later).nextAlias.toNat := by
  obtain ⟨after, rfl⟩ := hpre
  induction after using List.reverseRecOn with
  | nil => exact Nat.le_of_eq (by rw [List.append_nil])
  | append_singleton after e ih =>
    rw [← List.append_assoc] at h ⊢
    have hgrown := ih (h.of_prefix (List.prefix_append _ _))
    rw [editAll_concat]
    exact Nat.le_trans hgrown (nextAlias_le_edit (h.hasRoom List.prefix_rfl))

/-- A number that is handed out is not below the counter, and then the counter moves past it. -/
theorem nextAlias_le_and_lt_of_issues {e : Edit} {n : Nat} (hroom : q.HasRoom e)
    (hn : q.issues e = some n) : q.nextAlias.toNat ≤ n ∧ n < (q.edit e).nextAlias.toNat := by
  cases e with
  | addSource sourceId table =>
    have hroom := hroom _ _ rfl
    rw [issues, nextOrdinal_eq hroom, Option.some.injEq] at hn
    subst hn
    rw [edit, nextAlias_addSource hroom]
    exact ⟨nextAlias_le_ordinalPast q, Nat.lt_succ_self _⟩
  | _ => cases hn

/-- The counter is past all numbers that have been handed out, and these increase. -/
theorem issued_increasing {edits : List Edit} (h : q.NumbersLast edits) :
    (q.issued edits).Pairwise (· < ·) ∧
      ∀ n ∈ q.issued edits, n < (q.editAll edits).nextAlias.toNat := by
  induction edits using List.reverseRecOn with
  | nil => simp [issued]
  | append_singleton edits e ih =>
    obtain ⟨hincreasing, hpast⟩ := ih (h.of_prefix (List.prefix_append _ _))
    have hroom := h.hasRoom List.prefix_rfl
    have hgrown := nextAlias_le_edit hroom
    rw [issued_concat, editAll_concat]
    cases hissues : (q.editAll edits).issues e with
    | none =>
      rw [Option.toList_none, List.append_nil]
      exact ⟨hincreasing, fun n hn => Nat.lt_of_lt_of_le (hpast n hn) hgrown⟩
    | some n =>
      obtain ⟨hle, hlt⟩ := nextAlias_le_and_lt_of_issues hroom hissues
      rw [Option.toList_some, List.pairwise_append]
      refine ⟨⟨hincreasing, by simp, fun m hm k hk => ?_⟩, fun m hm => ?_⟩
      · rw [List.mem_singleton.1 hk]
        exact Nat.lt_of_lt_of_le (hpast m hm) hle
      · rcases List.mem_append.1 hm with hm | hm
        · exact Nat.lt_of_lt_of_le (hpast m hm) hgrown
        · rwa [List.mem_singleton.1 hm]

/-- Each edit uses up one number at most, so numbers last for as many edits as there are left. -/
theorem numbersLast_of_length {edits : List Edit}
    (h : q.ordinalPast + edits.length ≤ lastOrdinal) :
    q.NumbersLast edits ∧ (q.editAll edits).ordinalPast ≤ q.ordinalPast + edits.length := by
  induction edits using List.reverseRecOn with
  | nil =>
    refine ⟨fun before sourceId table hpre => ?_, Nat.le_refl _⟩
    exact absurd (List.prefix_nil.1 hpre) (List.append_ne_nil_of_right_ne_nil _ (by simp))
  | append_singleton edits e ih =>
    rw [List.length_append, List.length_singleton] at h ⊢
    obtain ⟨hlast, hpast⟩ := ih (by omega)
    have hall : q.NumbersLast (edits ++ [e]) := by
      intro before sourceId table hpre
      rcases List.prefix_concat_iff.1 hpre with heq | hpre
      · rw [(List.append_inj' heq rfl).1]
        omega
      · exact hlast before sourceId table hpre
    have hnext := ordinalPast_edit_le (hall.hasRoom List.prefix_rfl)
    refine ⟨hall, ?_⟩
    rw [editAll_concat]
    omega

/-! ## Aliases are not handed out twice -/

/-- The counter is past the number of an alias, if the alias has one. -/
def Passed (q : Query) (aliasName : String) : Prop :=
  ∀ n, QuerySource.ordinalOf aliasName = some n → n < q.nextAlias.toNat

/-- While numbers last, edits of any query never move its counter back, and they hand out increasing
numbers. The number of a new source is above those of all sources present and above all numbers
handed out before, so no alias that was handed out, or that the counter has ever been past, is
handed out later, whatever has become of its source. With the addition the counter is past the
numbers of all sources. -/
theorem aliases_are_not_reissued (q : Query) (edits : List Edit) (hlast : q.NumbersLast edits) :
    (∀ earlier later, earlier <+: later → later <+: edits →
      (q.editAll earlier).nextAlias ≤ (q.editAll later).nextAlias) ∧
    (q.issued edits).Pairwise (· < ·) ∧
    ∀ before sourceId table, before ++ [.addSource sourceId table] <+: edits →
      let now := q.editAll before
      let next := q.editAll (before ++ [.addSource sourceId table])
      ∃ n, q.issued (before ++ [.addSource sourceId table]) = q.issued before ++ [n] ∧
        next.sources = now.sources ++ [⟨sourceId, table, aliasOf n⟩] ∧
        (∀ m ∈ now.ordinals, m < n) ∧
        (∀ m ∈ q.issued before, m < n ∧ aliasOf n ≠ aliasOf m) ∧
        (∀ earlier, earlier <+: before → ∀ a, (q.editAll earlier).Passed a → aliasOf n ≠ a) ∧
        ∀ m ∈ next.ordinals, m < next.nextAlias.toNat := by
  refine ⟨fun earlier later hpre hlater => ?_, (issued_increasing hlast).1, ?_⟩
  · exact UInt64.le_iff_toNat_le.2 (nextAlias_le_editAll hpre (hlast.of_prefix hlater))
  intro before sourceId table hpre now next
  have hroom : now.ordinalPast < lastOrdinal := hlast before sourceId table hpre
  have hnext : next = now.addSource sourceId table := editAll_concat q before _
  have hbefore := hlast.of_prefix ((List.prefix_append _ _).trans hpre)
  have hfits := succ_ordinalPast_lt hroom
  have hread : ∀ m ≤ now.ordinalPast, QuerySource.ordinalOf (aliasOf m) = some m :=
    fun m hm => ordinalOf_aliasOf (by omega)
  have hcounter : now.nextAlias.toNat ≤ now.ordinalPast := nextAlias_le_ordinalPast now
  have hnot : ∀ earlier, earlier <+: before → ∀ a, (q.editAll earlier).Passed a →
      aliasOf now.ordinalPast ≠ a := by
    -- The counter has not gone back since it was past the alias, and the new number is not below it.
    rintro earlier hearlier _ hpassed rfl
    have hlt := hpassed _ (hread _ (Nat.le_refl _))
    have hgrown : (q.editAll earlier).nextAlias.toNat ≤ now.nextAlias.toNat :=
      nextAlias_le_editAll hearlier hbefore
    omega
  refine ⟨now.ordinalPast, ?_, ?_, fun m hm => lt_ordinalPast hm, fun m hm => ?_, hnot, ?_⟩
  · rw [issued_concat, issues, nextOrdinal_eq hroom, Option.toList_some]
  · rw [hnext, addSource, nextOrdinal_eq hroom]
  · have hlt : m < now.nextAlias.toNat := (issued_increasing hbefore).2 m hm
    refine ⟨by omega, hnot before List.prefix_rfl _ fun k hk => ?_⟩
    rw [hread m (by omega), Option.some.injEq] at hk
    exact hk ▸ hlt
  · rw [hnext]
    exact lt_nextAlias_addSource hroom sourceId table

/-- A query from a document whose counter lags behind an alias. -/
def lagging : Query :=
  { new "q" "lagging" ⟨0, 0⟩ with
    sources := [⟨"a", none, "s7"⟩, ⟨"b", none, "orders"⟩] }

/-- The new source and the one of the alias s7 are removed before another one is added. -/
def replacements : List Edit :=
  [.addSource "c" none, .removeSource 2, .removeSource 0, .addSource "d" none]

theorem aliases_are_not_reissued_lagging :
    lagging.NumbersLast replacements ∧ (lagging.issued replacements).Pairwise (· < ·) ∧
      ∃ n, 8 < n ∧ (lagging.editAll replacements).sources =
        [⟨"b", none, "orders"⟩, ⟨"d", none, aliasOf n⟩] := by
  have hlast : lagging.NumbersLast replacements := by
    refine (numbersLast_of_length ?_).1
    decide +kernel
  obtain ⟨-, hincreasing, hadd⟩ := aliases_are_not_reissued lagging replacements hlast
  obtain ⟨n, -, hsources, -, habove, -⟩ := hadd (replacements.take 3) "d" none ⟨[], rfl⟩
  exact ⟨hlast, hincreasing, n, (habove 8 (by decide +kernel)).1, hsources⟩

/-- A query from a document whose counter is not past its one alias. -/
def forgetful : Query :=
  { new "q" "forgetful" ⟨0, 0⟩ with sources := [⟨"a", none, "s3"⟩] }

/-- The source goes before the counter has moved past its alias. -/
def relapse : List Edit :=
  [.removeSource 0, .addSource "b" none, .addSource "c" none, .addSource "d" none]

/-- Numbers last, and yet the alias of a removed source is handed out again: neither the sources nor
the counter tell of it any more. -/
theorem removed_alias_of_document_returns :
    forgetful.NumbersLast relapse ∧ forgetful.aliases = ["s3"] ∧
      (forgetful.editAll (relapse.take 1)).aliases = [] ∧
      forgetful.issued relapse = [1, 2, 3] ∧
      (forgetful.editAll relapse).aliases = ["s1", "s2", "s3"] := by
  have hlast : forgetful.NumbersLast relapse := by
    refine (numbersLast_of_length ?_).1
    decide +kernel
  refine ⟨hlast, rfl, rfl, ?_, ?_⟩ <;> decide +kernel

end CrossSource.Query
