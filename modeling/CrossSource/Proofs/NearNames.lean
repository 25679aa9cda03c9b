import CrossSource.Proofs.SmallLetters
import CrossSource.Proofs.Suggestions
/-!
# Which near names are suggested

Of the candidates only the first that is nearest to a name can be suggested (`NearestAt`), and it is
suggested just when it is near enough for its own length (`suggestion_eq_some_iff`). So a candidate
that is close to the name goes unmentioned where a shorter one is nearer and not close itself
(`nearest_name_is_suggested`).

Which candidate is nearest does not depend on capitals. Whether it is near enough does: its distance
is taken from its small letters and its length from the name as it is written, which may be shorter
(`acceptance_ignores_case_iff`).
-/

namespace CrossSource

open Document Validation

namespace Text

variable {name c b : String} {cs before after : List String} {n k d : Nat}

/-! ## The nearest candidate -/

/-- At the position is the first of the candidates that are nearest to the name. -/
structure NearestAt (name : String) (cs : List String) (n : Nat) (c : String) : Prop where
  at_position : cs[n]? = some c
  least : ∀ b ∈ cs, distanceBetween name c ≤ distanceBetween name b
  first : ∀ k < n, ∀ b, cs[k]? = some b → distanceBetween name c < distanceBetween name b

theorem NearestAt.mem (h : NearestAt name cs n c) : c ∈ cs := List.mem_of_getElem? h.at_position

theorem NearestAt.unique (h : NearestAt name cs n c) (h' : NearestAt name cs k b) :
    n = k ∧ c = b := by
  have hle := h.least b h'.mem
  have hge := h'.least c h.mem
  obtain rfl : n = k := by
    rcases Nat.lt_trichotomy n k with hlt | heq | hgt
    · have := h'.first n hlt c h.at_position
      omega
    · exact heq
    · have := h.first k hgt b h'.at_position
      omega
  exact ⟨rfl, Option.some.inj (h.at_position.symm.trans h'.at_position)⟩

theorem nearestAt_of_append
    (hbefore : ∀ b ∈ before, distanceBetween name c < distanceBetween name b)
    (hafter : ∀ a ∈ after, distanceBetween name c ≤ distanceBetween name a) :
    NearestAt name (before ++ c :: after) before.length c where
  at_position := by simp
  least b hb := by
    rcases List.mem_append.1 hb with hb | hb
    · exact (hbefore b hb).le
    · rcases List.mem_cons.1 hb with rfl | hb
      · exact Nat.le_refl _
      · exact hafter b hb
  first k hk b hb := by
    rw [List.getElem?_append_left hk] at hb
    exact hbefore b (List.mem_of_getElem? hb)

theorem nearestAt_of_nearest (h : nearest (lower name) cs = some (c, d)) :
    d = distanceBetween name c ∧ ∃ n, NearestAt name cs n c := by
  obtain ⟨rfl, before, after, rfl, hbefore, hafter⟩ := nearest_spec h
  exact ⟨rfl, before.length, nearestAt_of_append hbefore hafter⟩

theorem nearest_eq_some_iff : nearest (lower name) cs = some (c, d) ↔
    d = distanceBetween name c ∧ ∃ n, NearestAt name cs n c := by
  refine ⟨nearestAt_of_nearest, fun ⟨hd, n, hn⟩ => ?_⟩
  cases hnearest : nearest (lower name) cs with
  | none =>
    have hmem := hn.mem
    rw [nearest_eq_none_iff.1 hnearest] at hmem
    cases hmem
  | some found =>
    obtain ⟨hd', k, hk⟩ := nearestAt_of_nearest (c := found.1) (d := found.2) hnearest
    obtain ⟨-, rfl⟩ := hk.unique hn
    rw [hd, ← hd']

theorem exists_nearestAt (name : String) (h : cs ≠ []) : ∃ n c, NearestAt name cs n c := by
  cases hnearest : nearest (lower name) cs with
  | none => exact absurd (nearest_eq_none_iff.1 hnearest) h
  | some found =>
    obtain ⟨-, n, hn⟩ := nearestAt_of_nearest (c := found.1) (d := found.2) hnearest
    exact ⟨n, found.1, hn⟩

/-! ## The candidate that is suggested -/

/-- The length of the name counts in small letters, that of the candidate as it is written. -/
theorem suggestion_eq_some_iff : suggestion name cs = some c ↔
    ∃ n, NearestAt name cs n c ∧
      distanceBetween name c ≤ max (lower name).length c.length / 2 := by
  constructor
  · intro h
    simp only [suggestion] at h
    split at h
    · cases h
    · next c' d hnearest =>
      obtain ⟨rfl, n, hn⟩ := nearestAt_of_nearest hnearest
      split at h
      · next hnear =>
        cases h
        exact ⟨n, hn, hnear⟩
      · cases h
  · rintro ⟨n, hn, hnear⟩
    have hnearest := nearest_eq_some_iff.2 ⟨rfl, n, hn⟩
    simp only [suggestion, hnearest, if_pos hnear]

theorem NearestAt.suggestion_eq_none_iff (h : NearestAt name cs n c) :
    suggestion name cs = none ↔
      max (lower name).length c.length / 2 < distanceBetween name c := by
  rw [Option.eq_none_iff_forall_ne_some, ← Nat.not_le]
  constructor
  · exact fun hnone hnear => hnone c (suggestion_eq_some_iff.2 ⟨n, h, hnear⟩)
  · intro hfar b hb
    obtain ⟨k, hk, hnear⟩ := suggestion_eq_some_iff.1 hb
    obtain ⟨-, rfl⟩ := h.unique hk
    exact hfar hnear

/-- No more than half of the longer of two names has to change, letter case aside. -/
def Close (name c : String) : Prop := distanceBetween name c ≤ max name.length c.length / 2

instance (name c : String) : Decidable (Close name c) := inferInstanceAs (Decidable (_ ≤ _))

/-- In small letters the name is as long as it is written or longer. -/
theorem NearestAt.suggestion_of_close (h : NearestAt name cs n c) (hclose : Close name c) :
    suggestion name cs = some c := by
  have hlonger := length_le_length_lower name
  refine suggestion_eq_some_iff.2 ⟨n, h, ?_⟩
  unfold Close at hclose
  omega

/-- A close candidate is outdone only by one that is nearer for being shorter. -/
theorem NearestAt.length_lt (h : NearestAt name cs n b) (hfar : ¬ Close name b) (hc : c ∈ cs)
    (hclose : Close name c) : name.length < c.length ∧ b.length < c.length := by
  have hle := h.least c hc
  unfold Close at hfar hclose
  omega

end Text

/-! ## Suggestions in messages -/

namespace Query

/-- The first selected field that is nearest has the nearest name of those of its source. -/
theorem FirstNearest.nearestAt {q : Query} {f g : Field} (h : q.FirstNearest f g) :
    ∃ n, Text.NearestAt f.name (selectedNames q f.source) n g.name := by
  obtain ⟨before, after, hselected, hsource, hbefore, hafter⟩ := h
  have hnames : selectedNames q f.source =
      (before.filter (·.source = f.source)).map (·.name) ++
        g.name :: (after.filter (·.source = f.source)).map (·.name) := by
    rw [selectedNames, hselected, List.filter_append,
      List.filter_cons_of_pos (by simpa using hsource), List.map_append, List.map_cons]
  rw [hnames]
  refine ⟨_, Text.nearestAt_of_append ?_ ?_⟩
  · intro b hb
    obtain ⟨x, hx, rfl⟩ := List.mem_map.1 hb
    obtain ⟨hx, hxs⟩ := List.mem_filter.1 hx
    exact hbefore x hx (by simpa using hxs)
  · intro b hb
    obtain ⟨x, hx, rfl⟩ := List.mem_map.1 hb
    obtain ⟨hx, hxs⟩ := List.mem_filter.1 hx
    exact hafter x hx (by simpa using hxs)

end Query

namespace Validation

theorem notSelected_mem_joinsResolve {q : Query} {n : Nat} {j : Join} {side : Side}
    (hj : q.joins[n]? = some j) (hnone : q.findSelected (j.side side) = none) :
    notSelected q n side (j.side side) ∈ joinsResolve q := by
  refine List.mem_flatMap.2 ⟨(j, n), List.mem_zipIdx_iff_getElem?.2 hj, ?_⟩
  have hside : notSelected q n side (j.side side) ∈ sideSelected q n side (j.side side) := by
    rw [sideSelected, if_pos (Option.isNone_iff_eq_none.2 hnone)]
    exact List.mem_singleton_self _
  cases side with
  | left => exact List.mem_append_left _ (List.mem_append_left _ hside)
  | right => exact List.mem_append_left _ (List.mem_append_right _ hside)

open Text

/-- The nearest candidate is suggested if it is close to the name. So where some candidate is close,
one is suggested, or else the nearest one is not close, and the close one is longer than that and
longer than the name. In the same way a message on a side of a join that is not selected suggests
the first selected field of the side's source that is nearest in name, if its name is close. -/
theorem nearest_name_is_suggested (name : String) (cs : List String) :
    (∀ n c, NearestAt name cs n c → Close name c → suggestion name cs = some c) ∧
    (∀ c ∈ cs, Close name c → (suggestion name cs).isSome ∨
      ∃ n b, NearestAt name cs n b ∧ ¬ Close name b ∧
        name.length < c.length ∧ b.length < c.length) ∧
    ∀ (options : Options) (now : Timestamp) (q : Query) (n : Nat) (j : Join) (side : Side)
      (g : Field), q.joins[n]? = some j → q.findSelected (j.side side) = none →
      q.FirstNearest (j.side side) g → Close (j.side side).name g.name →
      ∃ m ∈ (validate options now q).messages, m.code = .invalidJoin ∧
        m.member? "join" = some (.int n) ∧ m.member? "side" = some (.str side.name) ∧
        m.member? "suggestion" =
          some (.str s!"Did you mean '{(j.side side).source}.{g.name}'?") := by
  refine ⟨fun n c hn hclose => hn.suggestion_of_close hclose, fun c hc hclose => ?_,
    fun options now q n j side g hj hnone hnearest hclose => ?_⟩
  · obtain ⟨n, b, hn⟩ := exists_nearestAt name (List.ne_nil_of_mem hc)
    by_cases hb : Close name b
    · exact .inl (by rw [hn.suggestion_of_close hb]; rfl)
    · exact .inr ⟨n, b, hn, hb, hn.length_lt hb hc hclose⟩
  · obtain ⟨k, hk⟩ := hnearest.nearestAt
    obtain ⟨hjoin, hside, hsuggestion⟩ := member?_notSelected q n side (j.side side)
    refine ⟨notSelected q n side (j.side side), mem_messages_iff.2 ?_, rfl, hjoin, hside, ?_⟩
    · exact notSelected_mem_joinsResolve hj hnone
    · rw [hsuggestion, hint, hk.suggestion_of_close hclose]
      rfl

/-- The first candidate is nearer by one edit, and being shorter it is not close. -/
theorem close_name_is_missed : Close "order" "order_date" ∧
    suggestion "order" ["year", "order_date"] = none := by
  decide +kernel

/-- Of the fields of `a`, two are half as far from the name on the right as they are long. -/
def halfway : Query :=
  let amount := Field.plain "a" "AMOUNT" .number
  let other := Field.plain "b" "amount" .number
  { Query.new "q" "halfway" ⟨0, 0⟩ with
    sources := [⟨"x", none, "a"⟩, ⟨"y", none, "b"⟩]
    selectedFields := [.plain "a" "identifier" .number, other, .plain "a" "total_amount" .number,
      .plain "a" "amount_total" .number]
    joins := [⟨other, amount, .inner⟩] }

theorem nearest_name_is_suggested_halfway :
    Close "AMOUNT" "total_amount" ∧
    suggestion "AMOUNT" ["identifier", "total_amount", "amount_total"] = some "total_amount" ∧
    halfway.findSelected (.plain "a" "AMOUNT" .number) = none ∧
    ∃ m ∈ (validate .default ⟨0, 0⟩ halfway).messages, m.code = .invalidJoin ∧
      m.member? "side" = some (.str "right") ∧
      m.member? "suggestion" = some (.str "Did you mean 'a.total_amount'?") := by
  have hclose : Close "AMOUNT" "total_amount" := by decide +kernel
  have hnearest : NearestAt "AMOUNT" (["identifier"] ++ "total_amount" :: ["amount_total"]) 1
      "total_amount" :=
    nearestAt_of_append (by decide +kernel) (by decide +kernel)
  have hfirst : halfway.FirstNearest (.plain "a" "AMOUNT" .number)
      (.plain "a" "total_amount" .number) :=
    ⟨[.plain "a" "identifier" .number, .plain "b" "amount" .number],
      [.plain "a" "amount_total" .number], rfl, rfl, by decide +kernel, by decide +kernel⟩
  have hnone : halfway.findSelected (.plain "a" "AMOUNT" .number) = none := by decide +kernel
  obtain ⟨hsuggested, -, hmessages⟩ := nearest_name_is_suggested "AMOUNT"
    ["identifier", "total_amount", "amount_total"]
  obtain ⟨m, hm, hcode, -, hside, htext⟩ :=
    hmessages .default ⟨0, 0⟩ halfway 0 _ .right _ rfl hnone hfirst hclose
  exact ⟨hclose, hsuggested 1 _ hnearest hclose, hnone, m, hm, hcode, hside, htext⟩

end Validation

/-! ## Capitals -/

namespace Text

variable {name c : String} {cs : List String} {n : Nat}

theorem distanceBetween_lower (a b : String) :
    distanceBetween (lower a) (lower b) = distanceBetween a b := by
  simp only [distanceBetween, lower_lower]

theorem NearestAt.lower (h : NearestAt name cs n c) :
    NearestAt (lower name) (cs.map Text.lower) n (Text.lower c) where
  at_position := by rw [List.getElem?_map, h.at_position, Option.map_some]
  least b hb := by
    obtain ⟨a, ha, rfl⟩ := List.mem_map.1 hb
    rw [distanceBetween_lower, distanceBetween_lower]
    exact h.least a ha
  first k hk b hb := by
    rw [List.getElem?_map] at hb
    obtain ⟨a, ha, rfl⟩ := Option.map_eq_some_iff.1 hb
    rw [distanceBetween_lower, distanceBetween_lower]
    exact h.first k hk a ha

/-- In small letters no candidate is shorter, so what was near enough still is. -/
theorem suggestion_lower_of_suggestion (h : suggestion name cs = some c) :
    suggestion (lower name) (cs.map lower) = some (lower c) := by
  obtain ⟨n, hn, hnear⟩ := suggestion_eq_some_iff.1 h
  have hlonger := length_le_length_lower c
  refine suggestion_eq_some_iff.2 ⟨n, hn.lower, ?_⟩
  rw [distanceBetween_lower, lower_lower]
  omega

theorem NearestAt.suggestion_lower_eq_none_iff (h : NearestAt name cs n c) :
    suggestion (Text.lower name) (cs.map Text.lower) = none ↔
      max (Text.lower name).length (Text.lower c).length / 2 < distanceBetween name c := by
  rw [h.lower.suggestion_eq_none_iff, lower_lower, distanceBetween_lower]

/-- Which candidate is nearest does not depend on capitals, and what is suggested is suggested in
small letters too. The verdicts on names as they are written and on their small letters agree just
when the nearest candidate, if it is near enough for its length in small letters, is near enough for
its length as it is written. -/
theorem acceptance_ignores_case_iff (name : String) (cs : List String) :
    (∀ n c, NearestAt name cs n c → NearestAt (lower name) (cs.map lower) n (lower c)) ∧
    (∀ c, suggestion name cs = some c →
      suggestion (lower name) (cs.map lower) = some (lower c)) ∧
    ((suggestion name cs = none ↔ suggestion (lower name) (cs.map lower) = none) ↔
      ∀ n c, NearestAt name cs n c →
        distanceBetween name c ≤ max (lower name).length (lower c).length / 2 →
          distanceBetween name c ≤ max (lower name).length c.length / 2) := by
  refine ⟨fun n c hn => hn.lower, fun c hc => suggestion_lower_of_suggestion hc, ?_⟩
  constructor
  · intro hsame n c hn hnear
    rw [hn.suggestion_eq_none_iff, hn.suggestion_lower_eq_none_iff] at hsame
    omega
  · intro hlengths
    by_cases hempty : cs = []
    · subst hempty
      rfl
    · obtain ⟨n, c, hn⟩ := exists_nearestAt name hempty
      have hlength := hlengths n c hn
      have hlonger := length_le_length_lower c
      rw [hn.suggestion_eq_none_iff, hn.suggestion_lower_eq_none_iff]
      omega

/-- In Greek the form of a sigma depends on what stands around it. -/
theorem acceptance_ignores_case_iff_sigma :
    suggestion "ΟΔΟΣ" ["ΜΕΘΟΔΟΣ", "ΟΔΟΣΑ"] = some "ΟΔΟΣΑ" ∧
      suggestion "οδος" ["μεθοδος", "οδοσα"] = some "οδοσα" := by
  have hwritten : suggestion "ΟΔΟΣ" ["ΜΕΘΟΔΟΣ", "ΟΔΟΣΑ"] = some "ΟΔΟΣΑ" := by decide +kernel
  have hsmall : lower "ΟΔΟΣ" = "οδος" ∧ ["ΜΕΘΟΔΟΣ", "ΟΔΟΣΑ"].map lower = ["μεθοδος", "οδοσα"] ∧
      lower "ΟΔΟΣΑ" = "οδοσα" := by
    decide +kernel
  have h := (acceptance_ignores_case_iff "ΟΔΟΣ" ["ΜΕΘΟΔΟΣ", "ΟΔΟΣΑ"]).2.1 _ hwritten
  rw [hsmall.1, hsmall.2.1, hsmall.2.2] at h
  exact ⟨hwritten, h⟩

/-- A capital I with a dot has two characters in small letters. In small letters the candidate is
near enough, and so it is if the two names change places, but not as the names are written. -/
theorem acceptance_depends_on_case : suggestion "ii" ["İİ"] = none ∧
    suggestion (lower "ii") (["İİ"].map lower) = some (lower "İİ") ∧
    suggestion "İİ" ["ii"] = some "ii" := by
  decide +kernel

end Text

end CrossSource
