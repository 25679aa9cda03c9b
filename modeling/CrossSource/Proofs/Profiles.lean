import CrossSource.Proofs.SampleRows
import CrossSource.Proofs.Spellings
import CrossSource.Settings.Basic
/-!
# Profiles that are found and profiles that are selected

The settings of a profile depend on the variables of the settings' names, with the name of the
profile in front or without (`reads_iff`). A variable with a profile's name in front makes the
profile one of those available, if the name is made of the letters A to Z and underscores
(`mem_availableProfiles`); such a name is its own form in capitals, so it is selected as it is
listed. A profile whose name has a digit can be selected, but it is not listed
(`available_profiles_are_selectable`, `numbered_profile_is_not_available`).
-/

namespace CrossSource.Settings

open Text

variable {env env' : Environment} {p name key : String}

/-! ## Names of profiles -/

/-- Made of the letters A to Z and underscores. -/
def Plain (p : String) : Prop := ∀ c ∈ p.toList, ('A' ≤ c ∧ c ≤ 'Z') ∨ c = '_'

theorem isProfileName_iff : isProfileName p.toList = true ↔ p ≠ "" ∧ Plain p := by
  have hupper : ∀ c : Char, c.isUpper = true ↔ 'A' ≤ c ∧ c ≤ 'Z' := fun c => isUpper_iff
  simp only [isProfileName, Plain, Bool.and_eq_true, Bool.not_eq_true', List.isEmpty_eq_false_iff,
    List.all_eq_true, Bool.or_eq_true, beq_iff_eq, hupper, ne_eq, String.toList_eq_nil_iff]

theorem upperChar_of_plain {c : Char} (h : ('A' ≤ c ∧ c ≤ 'Z') ∨ c = '_') : upperChar c = [c] := by
  rcases h with hletter | rfl
  · have hcode : 65 ≤ c.toNat ∧ c.toNat ≤ 90 := hletter
    have hsame : c.toUpper = c := dif_neg fun hsmall => by
      have : 97 ≤ c.toNat := hsmall.1
      omega
    rw [upperChar, if_pos (by omega), hsame]
  · decide

/-- The name of a profile is its own form in capitals. -/
theorem upper_of_plain (h : Plain p) : upper p = p := by
  have hchars : p.toList.flatMap upperChar = p.toList.flatMap fun c => [c] :=
    List.flatMap_congr fun c hc => upperChar_of_plain (h c hc)
  rw [upper, hchars, List.flatMap_singleton', String.ofList_toList]

theorem upper_default_ne : upper "default" ≠ "default" := by decide +kernel

/-! ## Profiles of variables -/

theorem withoutEnding_eq_some_iff {ending s front : List Char} :
    withoutEnding ending s = some front ↔ s = front ++ ending := by
  unfold withoutEnding
  constructor
  · intro h
    split at h
    · next hends =>
      obtain ⟨before, rfl⟩ := List.isSuffixOf_iff_suffix.1 hends
      rw [Option.some.injEq] at h
      rw [← h, List.length_append, Nat.add_sub_cancel, List.take_left]
    · cases h
  · rintro rfl
    rw [if_pos (List.isSuffixOf_iff_suffix.2 (List.suffix_append _ _)), List.length_append,
      Nat.add_sub_cancel, List.take_left]

theorem toList_profiled (p key : String) :
    (profiled p key).toList = p.toList ++ '_' :: key.toList := by
  simp [profiled]

/-- A variable makes a setting for one profile at most, and it is the profile that looks there. -/
theorem profileOfVariable_eq_some_iff :
    profileOfVariable name key = some p ↔ (p ≠ "" ∧ Plain p) ∧ name = profiled p key := by
  have hname : name = profiled p key ↔ name.toList = p.toList ++ '_' :: key.toList := by
    rw [← toList_profiled, String.toList_inj]
  rw [hname, ← isProfileName_iff, ← withoutEnding_eq_some_iff, profileOfVariable]
  constructor
  · intro h
    split at h
    · next cs hcs =>
      split at h
      · next hvalid =>
        rw [Option.some.injEq] at h
        rw [← h, String.toList_ofList]
        exact ⟨hvalid, hcs⟩
      · cases h
    · cases h
  · rintro ⟨hvalid, hends⟩
    rw [hends]
    simp only [hvalid, if_true, String.ofList_toList]

theorem mem_availableProfiles : p ∈ availableProfiles env ↔
    p = "default" ∨
      (p ≠ "" ∧ Plain p) ∧ ∃ key ∈ keys, profiled p key ∈ env.map Prod.fst := by
  rw [availableProfiles, Document.mem_keys_sortMembers, List.map_map,
    show Prod.fst ∘ (fun p : String => (p, ())) = id from rfl, List.map_id]
  simp only [List.mem_cons, List.mem_flatMap, List.mem_filterMap, profileOfVariable_eq_some_iff,
    List.mem_map]
  constructor
  · rintro (hdefault | ⟨v, hv, key, hkey, hplain, hname⟩)
    · exact .inl hdefault
    · exact .inr ⟨hplain, key, hkey, v, hv, hname⟩
  · rintro (hdefault | ⟨hplain, key, hkey, v, hv, hname⟩)
    · exact .inl hdefault
    · exact .inr ⟨v, hv, key, hkey, hplain, hname⟩

/-! ## Variables that count for a profile -/

/-- The settings of a profile depend on a variable: environments that agree on all others may differ
in the settings. -/
def Reads (p name : String) : Prop :=
  ∃ env env' : Environment, (∀ other, other ≠ name → env.lookup other = env'.lookup other) ∧
    forProfile env p ≠ forProfile env' p

theorem value?_congr (h : env.lookup name = env'.lookup name) :
    value? env name = value? env' name := by
  rw [value?, value?, h]

theorem setting?_congr (hkey : env.lookup key = env'.lookup key)
    (hprofiled : p ≠ "" → env.lookup (profiled p key) = env'.lookup (profiled p key)) :
    setting? env p key = setting? env' p key := by
  unfold setting?
  split
  · exact value?_congr hkey
  · next hp => rw [value?_congr hkey, value?_congr (hprofiled hp)]

theorem forProfile_congr
    (h : ∀ key ∈ keys, setting? env (upper p) key = setting? env' (upper p) key) :
    forProfile env p = forProfile env' p := by
  simp only [keys, List.forall_mem_cons] at h
  obtain ⟨hrows, hlatency, hfields, hfilters, henforce, -⟩ := h
  simp only [forProfile, number, flag, hrows, hlatency, hfields, hfilters, henforce]

theorem number_ne {d : Nat} (hzero : setting? env p key = some "0")
    (hnone : setting? env' p key = none) (hd : d ≠ 0) : number env p key d ≠ number env' p key d := by
  have hread : Number.readBelow Number.wordBound "0" = some 0 := by decide +kernel
  rw [number, number, hzero, hnone, Option.bind_some, hread]
  exact Ne.symm hd

theorem flag_ne {word : String} {b d : Bool} (hread : readFlag word = some b)
    (hword : setting? env p key = some word) (hnone : setting? env' p key = none) (hd : d ≠ b) :
    flag env p key d ≠ flag env' p key d := by
  rw [flag, flag, hword, hnone, Option.bind_some, hread]
  exact Ne.symm hd

/-- Each setting has a word for a value that is not its default one. -/
theorem exists_telling (hkey : key ∈ keys) : ∃ word, word ≠ "" ∧ ∀ env env' p,
    setting? env (upper p) key = some word → setting? env' (upper p) key = none →
    forProfile env p ≠ forProfile env' p := by
  have hno : readFlag "0" = some false := by decide +kernel
  have hyes : readFlag "1" = some true := by decide +kernel
  simp only [keys, List.mem_cons, List.not_mem_nil, or_false] at hkey
  rcases hkey with rfl | rfl | rfl | rfl | rfl
  · refine ⟨"0", by decide, fun env env' p hword hnone heq => ?_⟩
    injection heq with _ hpreview
    injection hpreview with hrows
    exact number_ne hword hnone (by decide) hrows
  · refine ⟨"0", by decide, fun env env' p hword hnone heq => ?_⟩
    injection heq with _ hpreview
    injection hpreview with _ hlatency
    exact number_ne hword hnone (by decide) hlatency
  · refine ⟨"0", by decide, fun env env' p hword hnone heq => ?_⟩
    injection heq with _ _ hvalidation
    injection hvalidation with hfields
    exact number_ne hword hnone (by decide) hfields
  · refine ⟨"0", by decide, fun env env' p hword hnone heq => ?_⟩
    injection heq with _ _ hvalidation
    injection hvalidation with _ hfilters
    exact flag_ne hno hword hnone (by decide) hfilters
  · refine ⟨"1", by decide, fun env env' p hword hnone heq => ?_⟩
    injection heq with _ _ _ hstore
    injection hstore with henforce
    exact flag_ne hyes hword hnone (by decide) henforce

theorem value?_singleton {v : String} (hv : v ≠ "") (other : String) :
    value? [(name, v)] other = if other = name then some v else none := by
  rw [value?, Document.lookup_member]
  split
  · simp [hv]
  · rfl

/-- The settings of a profile depend on the variables of the settings' names, alone or with the name
of the profile in front, and on no others. -/
theorem reads_iff : Reads p name ↔
    ∃ key ∈ keys, name = key ∨ (upper p ≠ "" ∧ name = profiled (upper p) key) := by
  constructor
  · rintro ⟨env, env', hsame, hdiffer⟩
    by_contra hnone
    push Not at hnone
    apply hdiffer
    apply forProfile_congr
    intro key hkey
    obtain ⟨hne, hne'⟩ := hnone key hkey
    exact setting?_congr (hsame key (Ne.symm hne)) fun hp => hsame _ (Ne.symm (hne' hp))
  · rintro ⟨key, hkey, hname⟩
    obtain ⟨v, hv, htells⟩ := exists_telling hkey
    -- An environment of this one variable against one of none.
    refine ⟨[(name, v)], [], ?_, htells _ _ p ?_ ?_⟩
    · intro other hother
      rw [Document.lookup_member, if_neg hother]
    · unfold setting?
      rcases hname with rfl | ⟨hp, rfl⟩
      · rw [value?_singleton hv, value?_singleton hv, if_pos rfl]
        split
        · rfl
        · split <;> rfl
      · rw [if_neg hp, value?_singleton hv, if_pos rfl, Option.some_or]
    · unfold setting?
      split <;> rfl

/-! ## Available profiles -/

/-- The profiles of an environment are listed in ascending order, each once, the default one among
them, and all others are their own form in capitals. A name that is its own form in capitals is
listed just when it is made of the letters A to Z and underscores and the environment has a variable
of a setting's name with this name in front. These are the variables that the settings of the
profile depend on, apart from those without its name. -/
theorem available_profiles_are_selectable (env : Environment) :
    (availableProfiles env).Pairwise (· < ·) ∧ "default" ∈ availableProfiles env ∧
      (∀ p ∈ availableProfiles env, p ≠ "default" → p ≠ "" ∧ upper p = p) ∧
      ∀ p, p ≠ "" → upper p = p →
        (p ∈ availableProfiles env ↔
          Plain p ∧ ∃ key ∈ keys, profiled p key ∈ env.map Prod.fst) ∧
        (forProfile env p).profile = p ∧
        ∀ name, Reads p name ↔ ∃ key ∈ keys, name = key ∨ name = profiled p key := by
  refine ⟨Document.pairwise_sortMembers _, mem_availableProfiles.2 (.inl rfl), ?_, ?_⟩
  · intro p hp hother
    obtain ⟨⟨hne, hplain⟩, -⟩ := (mem_availableProfiles.1 hp).resolve_left hother
    exact ⟨hne, upper_of_plain hplain⟩
  · intro p hne hupper
    have hother : p ≠ "default" := by
      rintro rfl
      exact upper_default_ne hupper
    refine ⟨?_, hupper, fun name => ?_⟩
    · rw [mem_availableProfiles, or_iff_right hother, and_iff_right hne]
    · rw [reads_iff, hupper]
      simp only [hne, ne_eq, not_false_eq_true, true_and]

/-- Variables of a profile whose name has a digit and of one whose name ends in an underscore, and
two that belong to no profile. -/
def profiledVariables : Environment :=
  [("QA2_PREVIEW_ROW_COUNT", "12"), ("NIGHTLY_QA__STORE_ENFORCE_VALIDATION", ""),
    ("PREVIEW_LATENCY_MS", "7"), ("B_PREVIEW_ROW_COUNT_COPY", "9")]

theorem available_profiles_are_selectable_underscored :
    "NIGHTLY_QA_" ≠ "" ∧ upper "NIGHTLY_QA_" = "NIGHTLY_QA_" ∧
      "NIGHTLY_QA_" ∈ availableProfiles profiledVariables ∧
      (forProfile profiledVariables "NIGHTLY_QA_").profile = "NIGHTLY_QA_" ∧
      Reads "NIGHTLY_QA_" "NIGHTLY_QA__STORE_ENFORCE_VALIDATION" := by
  have hne : "NIGHTLY_QA_" ≠ "" := by decide
  have hupper : upper "NIGHTLY_QA_" = "NIGHTLY_QA_" := by decide +kernel
  obtain ⟨-, -, -, hnames⟩ := available_profiles_are_selectable profiledVariables
  obtain ⟨hlisted, hprofile, hreads⟩ := hnames "NIGHTLY_QA_" hne hupper
  have hplain : isProfileName "NIGHTLY_QA_".toList = true := by decide +kernel
  have hkey : "STORE_ENFORCE_VALIDATION" ∈ keys := by decide
  refine ⟨hne, hupper, hlisted.2 ⟨(isProfileName_iff.1 hplain).2, _, hkey, ?_⟩, hprofile,
    (hreads _).2 ⟨_, hkey, .inr ?_⟩⟩
  · decide +kernel
  · decide +kernel

/-- A profile of a name with a digit can be selected, and it has a variable of its own. -/
theorem numbered_profile_is_not_available :
    "QA2" ≠ "" ∧ upper "QA2" = "QA2" ∧ "PREVIEW_ROW_COUNT" ∈ keys ∧
      profiled "QA2" "PREVIEW_ROW_COUNT" ∈ profiledVariables.map Prod.fst ∧
      (forProfile profiledVariables "QA2").preview.rowCount = 12 ∧
      "QA2" ∉ availableProfiles profiledVariables := by
  decide +kernel

end CrossSource.Settings
