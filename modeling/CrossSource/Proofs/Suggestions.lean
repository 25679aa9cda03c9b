import CrossSource.Proofs.Defects
/-!
# A suggestion for a join is a fix

Where a side of a join is not selected, the message may suggest a name. That is the name of the
first selected field of the side's source that is nearest to the side's own name
(`firstNearest_of_suggestion`). A side is looked up by its source and its name, and nothing else
that errors are about depends on the name, so with the suggested name the side is found, one message
on joins is gone and the messages of most other codes stay to the letter (`suggestion_is_a_fix`).
-/

namespace CrossSource

open Document Validation

/-! ## Near names -/

namespace Text

/-- The edit distance of two names, letter case aside. -/
def distanceBetween (a b : String) : Nat := editDistance (lower a) (lower b)

theorem nearest_eq_none_iff {name : String} {cs : List String} :
    nearest name cs = none ↔ cs = [] := by
  cases cs with
  | nil => simp [nearest]
  | cons c cs =>
    simp only [nearest]
    split
    · split <;> simp
    · simp

/-- The nearest candidate is the first at its distance, and none is nearer. -/
theorem nearest_spec {name c : String} {cs : List String} {d : Nat}
    (h : nearest name cs = some (c, d)) : d = distanceTo name c ∧
      ∃ before after, cs = before ++ c :: after ∧ (∀ b ∈ before, d < distanceTo name b) ∧
        ∀ a ∈ after, d ≤ distanceTo name a := by
  induction cs generalizing c d with
  | nil => cases h
  | cons first cs ih =>
    simp only [nearest] at h
    split at h
    · next c' d' hrest =>
      obtain ⟨hd', before, after, rfl, hbefore, hafter⟩ := ih hrest
      split at h
      · next hlt =>
        cases h
        exact ⟨hd', first :: before, after, rfl, List.forall_mem_cons.2 ⟨hlt, hbefore⟩, hafter⟩
      · next hge =>
        cases h
        have hle := Nat.not_lt.1 hge
        refine ⟨rfl, [], before ++ c' :: after, rfl, by simp, fun a ha => ?_⟩
        rcases List.mem_append.1 ha with ha | ha
        · exact hle.trans (hbefore a ha).le
        · rcases List.mem_cons.1 ha with rfl | ha
          · exact hle.trans hd'.le
          · exact hle.trans (hafter a ha)
    · next hnone =>
      cases h
      exact ⟨rfl, [], cs, rfl, by simp, by simp [nearest_eq_none_iff.1 hnone]⟩

theorem suggestion_spec {name c : String} {cs : List String} (h : suggestion name cs = some c) :
    ∃ before after, cs = before ++ c :: after ∧
      (∀ b ∈ before, distanceBetween name c < distanceBetween name b) ∧
      ∀ a ∈ after, distanceBetween name c ≤ distanceBetween name a := by
  simp only [suggestion] at h
  split at h
  · cases h
  · next c' d hnearest =>
    split at h
    · cases h
      obtain ⟨rfl, hsplit⟩ := nearest_spec hnearest
      exact hsplit
    · cases h

end Text

/-! ## Sides of joins -/

/-- The field at a side of a join. -/
def Join.side (j : Join) : Side → Field
  | .left => j.left
  | .right => j.right

/-- The field under another name. -/
def Field.named (f : Field) (name : String) : Field := { f with name := name }

/-- The join with another name at a side. -/
def Join.nameSide (j : Join) (name : String) : Side → Join
  | .left => { j with left := j.left.named name }
  | .right => { j with right := j.right.named name }

namespace Query

variable {q : Query} {n : Nat} {j : Join} {side : Side} {f : Field} {name : String}

/-- The query with another name at a side of one of its joins. -/
def nameSide (q : Query) (n : Nat) (side : Side) (name : String) : Query :=
  { q with joins := q.joins.modify n (·.nameSide name side) }

/-! ## The field that is suggested -/

/-- Of the selected fields of the source of `f`, the first that is nearest in name to `f`. -/
def FirstNearest (q : Query) (f g : Field) : Prop :=
  ∃ before after, q.selectedFields = before ++ g :: after ∧ g.source = f.source ∧
    (∀ h ∈ before, h.source = f.source →
      Text.distanceBetween f.name g.name < Text.distanceBetween f.name h.name) ∧
    ∀ h ∈ after, h.source = f.source →
      Text.distanceBetween f.name g.name ≤ Text.distanceBetween f.name h.name

/-- The suggestion is among the names of one source, which are those of its fields in their
order. -/
theorem firstNearest_of_suggestion
    (h : Text.suggestion f.name (selectedNames q f.source) = some name) :
    ∃ g, q.FirstNearest f g ∧ g.name = name := by
  obtain ⟨before, after, hsplit, hbefore, hafter⟩ := Text.suggestion_spec h
  obtain ⟨fields, rest, hfields, rfl, hrest⟩ := List.map_eq_append_iff.1 hsplit
  obtain ⟨g, later, rfl, rfl, rfl⟩ := List.map_eq_cons_iff.1 hrest
  obtain ⟨xs, ys, hselected, rfl, hys⟩ := List.filter_eq_append_iff.1 hfields
  obtain ⟨others, zs, rfl, hothers, hsource, rfl⟩ := List.filter_eq_cons_iff.1 hys
  refine ⟨g, ⟨xs ++ others, zs, by rw [hselected, List.append_assoc], by simpa using hsource,
    fun x hx hxs => ?_, fun x hx hxs => ?_⟩, rfl⟩
  · rcases List.mem_append.1 hx with hx | hx
    · exact hbefore x.name (List.mem_map_of_mem (List.mem_filter.2 ⟨hx, by simpa using hxs⟩))
    · exact absurd (by simpa using hxs) (hothers x hx)
  · exact hafter x.name (List.mem_map_of_mem (List.mem_filter.2 ⟨hx, by simpa using hxs⟩))

theorem FirstNearest.mem {g : Field} (h : q.FirstNearest f g) : g ∈ q.selectedFields := by
  obtain ⟨before, after, heq, -⟩ := h
  rw [heq]
  exact List.mem_append_right _ (List.mem_cons_self ..)

/-- A selected field of the source makes the side resolve under its name. -/
theorem FirstNearest.isSome_findSelected {g : Field} (h : q.FirstNearest f g) :
    (q.findSelected (f.named g.name)).isSome := by
  refine List.find?_isSome.2 ⟨g, h.mem, ?_⟩
  obtain ⟨-, -, -, hsource, -⟩ := h
  simp [Field.sameReference, Field.named, hsource]

/-- A side that is not found has another name than any selected field of its source. -/
theorem FirstNearest.name_ne {g : Field} (h : q.FirstNearest f g)
    (hnone : q.findSelected f = none) : g.name ≠ f.name := by
  intro heq
  have hfound := h.isSome_findSelected
  have hself : f.named g.name = f := by rw [heq]; rfl
  rw [hself, hnone] at hfound
  cases hfound

/-! ## Another name at a side -/

theorem filterMap_modify {α β : Type} {f : α → α} {g : α → Option β} (h : ∀ a, g (f a) = g a)
    (as : List α) (n : Nat) : (as.modify n f).filterMap g = as.filterMap g := by
  induction as generalizing n with
  | nil => cases n <;> rfl
  | cons a as ih =>
    cases n with
    | zero => simp [List.filterMap_cons, h]
    | succ n => simp [List.filterMap_cons, ih]

theorem sum_map_modify {α : Type} {as : List α} {f : α → α} {g : α → Nat} {n : Nat} {a : α}
    (ha : as[n]? = some a) (h : g (f a) + 1 = g a) :
    ((as.modify n f).map g).sum + 1 = (as.map g).sum := by
  induction as generalizing n with
  | nil => cases ha
  | cons b as ih =>
    cases n with
    | zero =>
      cases ha
      simp only [List.modify_zero_cons, List.map_cons, List.sum_cons]
      omega
    | succ n =>
      have hrest := ih ha
      simp only [List.modify_succ_cons, List.map_cons, List.sum_cons]
      omega

/-- Names have no part in how joins connect sources. -/
theorem disconnected_nameSide (q : Query) (n : Nat) (side : Side) (name : String) :
    (q.nameSide n side name).disconnected = q.disconnected := by
  have hpairs : (q.nameSide n side name).joins.filterMap
      (q.nameSide n side name).joinedPositions = q.joins.filterMap q.joinedPositions := by
    refine filterMap_modify (fun j => ?_) q.joins n
    cases side <;> rfl
  rw [disconnected, components, hpairs]
  rfl

end Query

namespace Validation

open Query

variable {q : Query} {n : Nat} {j : Join} {side : Side} {f : Field} {name : String}

theorem sourcesJoined_nameSide (q : Query) (n : Nat) (side : Side) (name : String) :
    sourcesJoined (q.nameSide n side name) = sourcesJoined q := by
  have hsources : (q.nameSide n side name).sources = q.sources := rfl
  have hjoins : (q.nameSide n side name).joins.length = q.joins.length := List.length_modify ..
  simp only [sourcesJoined, hsources, hjoins, disconnected_nameSide]

/-- Only three rules look at the names of joined fields. -/
theorem rule_nameSide (options : Options) (q : Query) (n : Nat) (side : Side) (name : String)
    {c : Code} (hinvalid : c ≠ .invalidJoin) (htypes : c ≠ .incompatibleTypes)
    (hunknown : c ≠ .unknownSource) :
    rule options (q.nameSide n side name) c = rule options q c := by
  cases c with
  | missingJoins => exact sourcesJoined_nameSide q n side name
  | invalidJoin => exact absurd rfl hinvalid
  | incompatibleTypes => exact absurd rfl htypes
  | unknownSource => exact absurd rfl hunknown
  | _ => rfl

/-- How many messages there are about a field as the side of a join. -/
def unresolved (q : Query) (f : Field) : Nat := if (q.findSelected f).isNone then 1 else 0

/-- How many messages there are about the sources of a join. -/
def withinOne (j : Join) : Nat := if j.left.source = j.right.source then 1 else 0

theorem length_joinsResolve_eq (q : Query) : (joinsResolve q).length =
    (q.joins.map fun j => unresolved q j.left + unresolved q j.right + withinOne j).sum :=
  length_joinsResolve q

/-- A side that is found again is one message less. -/
theorem length_joinsResolve_nameSide (hj : q.joins[n]? = some j)
    (hnone : q.findSelected (j.side side) = none)
    (hfound : (q.findSelected ((j.side side).named name)).isSome) :
    (joinsResolve (q.nameSide n side name)).length + 1 = (joinsResolve q).length := by
  have hsame : ∀ f, unresolved (q.nameSide n side name) f = unresolved q f := fun _ => rfl
  have hbefore : unresolved q (j.side side) = 1 := by simp [unresolved, hnone]
  have hnow : unresolved q ((j.side side).named name) = 0 := by
    simp [unresolved, Option.isNone_eq_false_iff.2 hfound]
  have hwithin : withinOne (j.nameSide name side) = withinOne j := by cases side <;> rfl
  rw [length_joinsResolve_eq, length_joinsResolve_eq]
  simp only [hsame]
  refine sum_map_modify hj ?_
  simp only [hwithin]
  cases side with
  | left =>
    simp only [Join.side] at hbefore hnow
    simp only [Join.nameSide, hbefore, hnow]
    omega
  | right =>
    simp only [Join.side] at hbefore hnow
    simp only [Join.nameSide, hbefore, hnow]
    omega

/-! ## Messages with a suggestion -/

/-- A message on joins is about a side that is not selected or about both sides of a join. -/
theorem mem_joinsResolve {m : Message} (h : m ∈ joinsResolve q) :
    (∃ n j side, q.joins[n]? = some j ∧ q.findSelected (j.side side) = none ∧
      m = notSelected q n side (j.side side)) ∨
    ∃ n j, q.joins[n]? = some j ∧ m = withinSource n j := by
  obtain ⟨⟨j, n⟩, hj, hm⟩ := List.mem_flatMap.1 h
  rw [List.mem_zipIdx_iff_getElem?] at hj
  have hside : ∀ side, m ∈ sideSelected q n side (j.side side) →
      q.findSelected (j.side side) = none ∧ m = notSelected q n side (j.side side) := by
    intro side hm
    unfold sideSelected at hm
    split at hm
    · next hnone => exact ⟨Option.isNone_iff_eq_none.1 hnone, List.mem_singleton.1 hm⟩
    · cases hm
  rcases List.mem_append.1 hm with hm | hm
  · rcases List.mem_append.1 hm with hm | hm
    · exact .inl ⟨n, j, .left, hj, hside .left hm⟩
    · exact .inl ⟨n, j, .right, hj, hside .right hm⟩
  · unfold sidesApart at hm
    split at hm
    · exact .inr ⟨n, j, hj, List.mem_singleton.1 hm⟩
    · cases hm

theorem member?_notSelected (q : Query) (n : Nat) (side : Side) (f : Field) :
    (notSelected q n side f).member? "join" = some (.int n) ∧
      (notSelected q n side f).member? "side" = some (.str side.name) ∧
      (notSelected q n side f).member? "suggestion" = (hint q f).map .str := by
  simp only [notSelected, member?_withContext]
  cases hint q f <;> simp [List.lookup_cons]

/-- The side that a message suggests a name for, and the name. -/
theorem exists_suggestion {m : Message} {text : Value} (hm : m ∈ joinsResolve q)
    (htext : m.member? "suggestion" = some text) :
    ∃ (n : Nat) (j : Join) (side : Side) (name : String),
      q.joins[n]? = some j ∧ q.findSelected (j.side side) = none ∧
      m.member? "join" = some (.int n) ∧ m.member? "side" = some (.str side.name) ∧
      text = .str s!"Did you mean '{(j.side side).source}.{name}'?" ∧
      Text.suggestion (j.side side).name (selectedNames q (j.side side).source) = some name := by
  rcases mem_joinsResolve hm with ⟨n, j, side, hj, hnone, rfl⟩ | ⟨n, j, -, rfl⟩
  · obtain ⟨hjoin, hside, hhint⟩ := member?_notSelected q n side (j.side side)
    rw [htext] at hhint
    obtain ⟨hinted, hsome, rfl⟩ := Option.map_eq_some_iff.1 hhint.symm
    obtain ⟨name, hname, rfl⟩ := Option.map_eq_some_iff.1 hsome
    exact ⟨n, j, side, name, hj, hnone, hjoin, hside, rfl, hname⟩
  · simp [withinSource, member?_withContext, List.lookup_cons] at htext

/-- A suggestion in a message on joins is always a working fix. It names the side's own source and,
under another name than the side has, the first of the source's selected fields that are nearest to
it. With that name the side is found among the selected fields, a report has one message on joins
less, and only the messages on joins, on their types and on unknown sources may be others. -/
theorem suggestion_is_a_fix (options : Options) (now now' : Timestamp) (q : Query) (m : Message)
    (text : Value) (hm : m ∈ (validate options now q).messages) (hcode : m.code = .invalidJoin)
    (htext : m.member? "suggestion" = some text) :
    ∃ (n : Nat) (j : Join) (side : Side) (name : String),
      q.joins[n]? = some j ∧ q.findSelected (j.side side) = none ∧
      m.member? "join" = some (.int n) ∧ m.member? "side" = some (.str side.name) ∧
      text = .str s!"Did you mean '{(j.side side).source}.{name}'?" ∧
      name ≠ (j.side side).name ∧ (∃ g, q.FirstNearest (j.side side) g ∧ g.name = name) ∧
      ((q.nameSide n side name).findSelected ((j.side side).named name)).isSome ∧
      (validate options now' (q.nameSide n side name)).codes.count .invalidJoin + 1 =
        (validate options now q).codes.count .invalidJoin ∧
      ∀ c : Code, c ≠ .invalidJoin → c ≠ .incompatibleTypes → c ≠ .unknownSource →
        (validate options now' (q.nameSide n side name)).messages.filter (fun m => m.code = c) =
          (validate options now q).messages.filter (fun m => m.code = c) := by
  have hrule : m ∈ joinsResolve q := by
    have hmem := mem_messages_iff.1 hm
    rwa [hcode] at hmem
  obtain ⟨n, j, side, name, hj, hnone, hjoin, hside, htext, hname⟩ := exists_suggestion hrule htext
  obtain ⟨g, hnearest, rfl⟩ := firstNearest_of_suggestion hname
  have hfound := hnearest.isSome_findSelected
  refine ⟨n, j, side, g.name, hj, hnone, hjoin, hside, htext, hnearest.name_ne hnone,
    ⟨g, hnearest, rfl⟩, hfound, ?_, fun c hinvalid htypes hunknown => ?_⟩
  · rw [count_codes, count_codes, rule, rule]
    exact length_joinsResolve_nameSide hj hnone hfound
  · exact (filter_code options _ c).trans
      ((rule_nameSide options q n side g.name hinvalid htypes hunknown).trans
        (filter_code options q c).symm)

/-- The name on the left is as near to one field of its source as to another, and a field of the
other source has just this name. -/
def misnamed : Query :=
  let total := Field.plain "a" "total" .number
  let first := Field.plain "a" "aX" .number
  let second := Field.plain "a" "xb" .number
  let other := Field.plain "b" "ab" .string
  { Query.new "q" "misnamed" ⟨0, 0⟩ with
    sources := [⟨"x", none, "a"⟩, ⟨"y", none, "b"⟩]
    selectedFields := [total, first, other, second]
    joins := [⟨.plain "a" "AB" .number, other, .inner⟩] }

theorem suggestion_is_a_fix_misnamed :
    ∃ m ∈ (validate .default ⟨0, 0⟩ misnamed).messages, m.code = .invalidJoin ∧
      m.member? "suggestion" = some (.str "Did you mean 'a.aX'?") ∧
      ((misnamed.nameSide 0 .left "aX").findSelected (.plain "a" "aX" .number)).isSome ∧
      (validate .default ⟨0, 0⟩ (misnamed.nameSide 0 .left "aX")).codes.count .invalidJoin + 1 =
        (validate .default ⟨0, 0⟩ misnamed).codes.count .invalidJoin := by
  have hrule : joinsResolve misnamed =
      [notSelected misnamed 0 .left (.plain "a" "AB" .number)] := rfl
  have hhint : hint misnamed (.plain "a" "AB" .number) = some "Did you mean 'a.aX'?" := by
    decide +kernel
  obtain ⟨hjoin, hside, hsuggestion⟩ :=
    member?_notSelected misnamed 0 .left (.plain "a" "AB" .number)
  rw [hhint, Option.map_some] at hsuggestion
  have hm : notSelected misnamed 0 .left (.plain "a" "AB" .number) ∈
      (validate .default ⟨0, 0⟩ misnamed).messages := by
    refine mem_messages_iff.2 ?_
    show _ ∈ joinsResolve misnamed
    rw [hrule]
    exact List.mem_singleton_self _
  obtain ⟨n, j, side, name, hj, -, hjoin', hside', htext, -, -, hfound, hcount, -⟩ :=
    suggestion_is_a_fix .default ⟨0, 0⟩ ⟨0, 0⟩ misnamed _ _ hm rfl hsuggestion
  obtain rfl : n = 0 := by simpa [hjoin] using hjoin'.symm
  obtain rfl : side = .left := by
    cases side with
    | left => rfl
    | right => simp [hside, Side.name] at hside'
  obtain rfl : j = ⟨.plain "a" "AB" .number, .plain "b" "ab" .string, .inner⟩ :=
    (Option.some.inj hj).symm
  have hname : name = "aX" := by
    have hlist := congrArg String.toList (Value.str.inj htext)
    have hends : name.toList ++ "'?".toList = "aX".toList ++ "'?".toList := by
      simpa [Join.side, Field.plain, toString] using hlist.symm
    exact String.toList_injective (List.append_cancel_right hends)
  rw [hname] at hfound hcount
  exact ⟨_, hm, rfl, hsuggestion, hfound, hcount⟩

end Validation

end CrossSource
