import CrossSource.Partition
import Mathlib.Data.Finset.Card
import Mathlib.Data.Finset.Range
import Mathlib.Logic.Relation
/-!
# Partitions keep the classes they are told to unite

Every link of a partition goes up in some rank, so a way up ends at a root. Looking for a root
shortens ways but changes no root (`root_find`), uniting two classes redirects exactly the roots of
the second one (`root_union`), and after any list of unions two positions have one root just when
the pairs united connect them (`root_unionAll`).
-/

namespace CrossSource.Partition

variable {p : Partition} {rank : Nat → Nat}

/-! ## Links -/

@[simp] theorem size_setParent (p : Partition) (x y : Nat) : (p.setParent x y).size = p.size := by
  simp [size, setParent]

/-- Positions that the partition does not have are their own parents. -/
theorem parent_of_size_le {x : Nat} (hx : p.size ≤ x) : p.parent x = x := by
  simp only [parent, size, List.getD_eq_getElem?_getD] at *
  rw [List.getElem?_eq_none hx, Option.getD_none]

theorem parent_setParent {x : Nat} (hx : x < p.size) (y z : Nat) :
    (p.setParent x y).parent z = if z = x then y else p.parent z := by
  simp only [parent, setParent, size] at *
  by_cases hz : z = x
  · subst hz
    simp [List.getD_eq_getElem?_getD, hx]
  · simp [List.getD_eq_getElem?_getD, List.getElem?_set_ne (Ne.symm hz), hz]

@[simp] theorem parent_discrete (size x : Nat) : (discrete size).parent x = x := by
  simp only [parent, discrete, List.getD_eq_getElem?_getD]
  by_cases hx : x < size
  · simp [hx]
  · simp [Nat.not_lt.1 hx]

@[simp] theorem size_discrete (size : Nat) : (discrete size).size = size := by
  simp [Partition.size, discrete]

/-- Links stay inside the partition, and the rank grows along each of them. -/
structure Ranked (p : Partition) (rank : Nat → Nat) : Prop where
  below : ∀ x < p.size, p.parent x < p.size
  grows : ∀ x, p.parent x ≠ x → rank x < rank (p.parent x)

/-- Links stay inside the partition, and no chain of them comes back to its start. -/
def Forest (p : Partition) : Prop := ∃ rank, Ranked p rank

theorem forest_discrete (size : Nat) : Forest (discrete size) :=
  ⟨fun _ => 0, fun x hx => by simpa using hx, fun x hx => absurd (parent_discrete size x) hx⟩

/-- Only a root is its own grandparent. -/
theorem Ranked.parent_eq_of_grandparent_eq (h : Ranked p rank) {x : Nat}
    (hx : p.parent (p.parent x) = x) : p.parent x = x := by
  by_contra hne
  have hup := h.grows x hne
  have hne' : p.parent (p.parent x) ≠ p.parent x := by rw [hx]; exact Ne.symm hne
  have hup' := h.grows _ hne'
  rw [hx] at hup'
  omega

/-! ## Ways up -/

/-- The root that the links from a position lead to. -/
inductive Climbs (p : Partition) : Nat → Nat → Prop
  | stop {x : Nat} : p.parent x = x → Climbs p x x
  | up {x r : Nat} : Climbs p (p.parent x) r → Climbs p x r

theorem Climbs.parent_root {x r : Nat} (h : Climbs p x r) : p.parent r = r := by
  induction h with
  | stop hx => exact hx
  | up _ ih => exact ih

theorem Climbs.eq_of_parent_eq {x r : Nat} (h : Climbs p x r) (hx : p.parent x = x) : r = x := by
  induction h with
  | stop _ => rfl
  | up _ ih => rw [ih (by rw [hx, hx]), hx]

theorem Climbs.parent {x r : Nat} (h : Climbs p x r) : Climbs p (p.parent x) r := by
  cases h with
  | stop hx => rw [hx]; exact .stop hx
  | up h => exact h

theorem Climbs.unique {x r r' : Nat} (h : Climbs p x r) (h' : Climbs p x r') : r = r' := by
  induction h with
  | stop hx => exact (h'.eq_of_parent_eq hx).symm
  | up _ ih => exact ih h'.parent

theorem Climbs.root_lt (h : Ranked p rank) {x r : Nat} (hc : Climbs p x r) (hx : x < p.size) :
    r < p.size := by
  induction hc with
  | stop _ => exact hx
  | up _ ih => exact ih (h.below _ hx)

/-! ## Looking for a root -/

/-- Pointing a position to its grandparent. -/
def halve (p : Partition) (x : Nat) : Partition := p.setParent x (p.parent (p.parent x))

@[simp] theorem size_halve (p : Partition) (x : Nat) : (p.halve x).size = p.size := by simp [halve]

theorem parent_halve {x : Nat} (hx : x < p.size) (z : Nat) :
    (p.halve x).parent z = if z = x then p.parent (p.parent x) else p.parent z :=
  parent_setParent hx _ z

theorem Ranked.halve (h : Ranked p rank) {x : Nat} (hx : x < p.size) :
    Ranked (p.halve x) rank := by
  refine ⟨fun z hz => ?_, fun z hz => ?_⟩
  · rw [size_halve] at hz ⊢
    rw [parent_halve hx]
    split
    · exact h.below _ (h.below _ hx)
    · exact h.below z hz
  · rw [parent_halve hx] at hz ⊢
    split at hz
    · next hzx =>
      subst hzx
      have hne : p.parent z ≠ z := fun he => hz (by rw [he, he])
      have hup := h.grows z hne
      rw [if_pos rfl]
      by_cases hroot : p.parent (p.parent z) = p.parent z
      · rw [hroot]; exact hup
      · exact hup.trans (h.grows _ hroot)
    · next hzx => rw [if_neg hzx]; exact h.grows z hz

/-- A shorter way leads to the same root. -/
theorem climbs_halve_iff (h : Ranked p rank) {x : Nat} (hx : x < p.size) {y r : Nat} :
    Climbs (p.halve x) y r ↔ Climbs p y r := by
  constructor
  · intro hc
    induction hc with
    | @stop y hy =>
      rw [parent_halve hx] at hy
      split at hy
      · next hyx => subst hyx; exact .stop (h.parent_eq_of_grandparent_eq hy)
      · exact .stop hy
    | @up y r _ ih =>
      rw [parent_halve hx] at ih
      split at ih
      · next hyx => subst hyx; exact .up (.up ih)
      · exact .up ih
  · intro hc
    induction hc with
    | @stop y hy =>
      refine .stop ?_
      rw [parent_halve hx]
      split
      · next hyx => subst hyx; rw [hy, hy]
      · exact hy
    | @up y r _ ih =>
      by_cases hyx : y = x
      · subst hyx
        by_cases hroot : p.parent y = y
        · rw [hroot] at ih; exact ih
        · -- The way went on from the parent, so it also goes on from the grandparent.
          have hup := ih.parent
          rw [parent_halve hx, if_neg hroot] at hup
          refine .up ?_
          rw [parent_halve hx, if_pos rfl]
          exact hup
      · refine .up ?_
        rw [parent_halve hx, if_neg hyx]
        exact ih

/-- The positions of a higher rank: no way up has more steps. -/
def higher (p : Partition) (rank : Nat → Nat) (x : Nat) : Finset Nat :=
  (Finset.range p.size).filter fun y => rank x < rank y

theorem card_higher_le (p : Partition) (rank : Nat → Nat) (x : Nat) :
    (p.higher rank x).card ≤ p.size :=
  (Finset.card_filter_le _ _).trans (by simp)

theorem Ranked.card_higher_parent (h : Ranked p rank) {x : Nat} (hx : x < p.size)
    (hne : p.parent x ≠ x) : (p.higher rank (p.parent x)).card < (p.higher rank x).card := by
  have hup := h.grows x hne
  refine Finset.card_lt_card ⟨fun y hy => ?_, fun hsub => ?_⟩
  · simp only [higher, Finset.mem_filter] at hy ⊢
    exact ⟨hy.1, hup.trans hy.2⟩
  · have hmem : p.parent x ∈ p.higher rank x := by
      simp only [higher, Finset.mem_filter, Finset.mem_range]
      exact ⟨h.below x hx, hup⟩
    have := hsub hmem
    simp [higher] at this

theorem Ranked.card_higher_parent_le (h : Ranked p rank) {x : Nat} (hx : x < p.size) :
    (p.higher rank (p.parent x)).card ≤ (p.higher rank x).card := by
  by_cases hne : p.parent x = x
  · rw [hne]
  · exact (h.card_higher_parent hx hne).le

/-- Where nothing ranks higher there is no link to go up. -/
theorem Ranked.parent_eq_of_card_higher (h : Ranked p rank) {x : Nat} (hx : x < p.size)
    (hnone : (p.higher rank x).card = 0) : p.parent x = x := by
  by_contra hne
  have := h.card_higher_parent hx hne
  omega

/-- From the grandparent on, fewer steps are needed. -/
theorem Ranked.card_higher_halve (h : Ranked p rank) {x steps : Nat} (hx : x < p.size)
    (hne : p.parent x ≠ x) (hs : (p.higher rank x).card ≤ steps + 1) :
    ((p.halve x).higher rank (p.parent (p.parent x))).card ≤ steps := by
  have h1 := h.card_higher_parent hx hne
  have h2 := h.card_higher_parent_le (h.below x hx)
  simp only [higher, size_halve] at h1 h2 hs ⊢
  omega

/-- What a search for a root comes to, if it may take enough steps. -/
theorem findWithin_spec (steps : Nat) : ∀ {p : Partition} {x : Nat}, Ranked p rank → x < p.size →
    (p.higher rank x).card ≤ steps →
    Ranked (findWithin steps p x).1 rank ∧ (findWithin steps p x).1.size = p.size ∧
      Climbs p x (findWithin steps p x).2 ∧
      ∀ y r, Climbs (findWithin steps p x).1 y r ↔ Climbs p y r := by
  induction steps with
  | zero =>
    intro p x h hx hs
    have hroot := h.parent_eq_of_card_higher hx (Nat.le_zero.1 hs)
    exact ⟨h, rfl, .stop hroot, fun _ _ => .rfl⟩
  | succ steps ih =>
    intro p x h hx hs
    by_cases hroot : p.parent x = x
    · simp only [findWithin, hroot, if_true]
      exact ⟨h, trivial, .stop hroot, fun _ _ => trivial⟩
    · have hfewer := h.card_higher_halve hx hroot hs
      have hup : p.parent (p.parent x) < (p.halve x).size := by
        rw [size_halve]; exact h.below _ (h.below _ hx)
      obtain ⟨hr, hsize, hc, hsame⟩ := ih (h.halve hx) hup hfewer
      simp only [findWithin, if_neg hroot]
      rw [size_halve] at hsize
      refine ⟨hr, hsize, .up (.up ((climbs_halve_iff h hx).1 hc)), fun y r => ?_⟩
      exact (hsame y r).trans (climbs_halve_iff h hx)

theorem Forest.find_spec (h : Forest p) {x : Nat} (hx : x < p.size) :
    Forest (p.find x).1 ∧ (p.find x).1.size = p.size ∧ Climbs p x (p.find x).2 ∧
      ∀ y r, Climbs (p.find x).1 y r ↔ Climbs p y r := by
  obtain ⟨rank, hr⟩ := h
  obtain ⟨hr', hsize, hc, hsame⟩ := findWithin_spec p.size hr hx (card_higher_le p rank x)
  exact ⟨⟨rank, hr'⟩, hsize, hc, hsame⟩

/-! ## Roots -/

theorem root_eq_self {x : Nat} (hx : p.parent x = x) : p.root x = x := by
  simp only [root, find]
  cases p.size <;> simp [findWithin, hx]

theorem Forest.climbs_root (h : Forest p) (x : Nat) : Climbs p x (p.root x) := by
  by_cases hx : x < p.size
  · exact (h.find_spec hx).2.2.1
  · have hpar := parent_of_size_le (Nat.not_lt.1 hx)
    rw [root_eq_self hpar]
    exact .stop hpar

theorem Forest.root_eq_iff (h : Forest p) {x r : Nat} : p.root x = r ↔ Climbs p x r := by
  constructor
  · rintro rfl
    exact h.climbs_root x
  · exact fun hc => (h.climbs_root x).unique hc

theorem Forest.parent_root (h : Forest p) (x : Nat) : p.parent (p.root x) = p.root x :=
  (h.climbs_root x).parent_root

theorem Forest.root_lt (h : Forest p) {x : Nat} (hx : x < p.size) : p.root x < p.size := by
  obtain ⟨rank, hr⟩ := h
  exact (Forest.climbs_root ⟨rank, hr⟩ x).root_lt hr hx

@[simp] theorem root_discrete (size x : Nat) : (discrete size).root x = x :=
  root_eq_self (parent_discrete size x)

/-- Looking for a root changes no root. -/
theorem Forest.root_find (h : Forest p) {x : Nat} (hx : x < p.size) (y : Nat) :
    (p.find x).1.root y = p.root y := by
  obtain ⟨hf, -, -, hsame⟩ := h.find_spec hx
  exact hf.root_eq_iff.2 ((hsame y _).2 (h.climbs_root y))

/-! ## Uniting classes -/

/-- A link from one root to another one leads the whole class there. -/
theorem climbs_link {a b : Nat} (hb : b < p.size) (hra : p.parent a = a) (hrb : p.parent b = b)
    (hne : a ≠ b) {y r : Nat} (hc : Climbs p y r) :
    Climbs (p.setParent b a) y (if r = b then a else r) := by
  induction hc with
  | @stop y hy =>
    by_cases hyb : y = b
    · subst hyb
      have hlink : (p.setParent y a).parent y = a := by rw [parent_setParent hb, if_pos rfl]
      have hstop : (p.setParent y a).parent a = a := by
        rw [parent_setParent hb, if_neg hne, hra]
      rw [if_pos rfl]
      exact .up (by rw [hlink]; exact .stop hstop)
    · rw [if_neg hyb]
      exact .stop (by rw [parent_setParent hb, if_neg hyb, hy])
  | @up y r _ ih =>
    by_cases hyb : y = b
    · subst hyb
      rw [hrb] at ih
      exact ih
    · refine .up ?_
      rw [parent_setParent hb, if_neg hyb]
      exact ih

/-- The first root, as it gets links from the second one, moves up in rank. -/
theorem Ranked.link (h : Ranked p rank) {a b : Nat} (ha : a < p.size) (hb : b < p.size)
    (hra : p.parent a = a) (hne : a ≠ b) :
    Ranked (p.setParent b a) (Function.update rank a (rank a + rank b + 1)) := by
  refine ⟨fun z hz => ?_, fun z hz => ?_⟩
  · rw [size_setParent] at hz ⊢
    rw [parent_setParent hb]
    split
    · exact ha
    · exact h.below z hz
  · rw [parent_setParent hb] at hz ⊢
    by_cases hzb : z = b
    · subst hzb
      simp only [if_true, Function.update_self, Function.update_of_ne (Ne.symm hne)]
      omega
    · rw [if_neg hzb] at hz ⊢
      have hza : z ≠ a := by rintro rfl; exact hz hra
      have hup := h.grows z hz
      rw [Function.update_of_ne hza]
      by_cases hpa : p.parent z = a
      · rw [hpa, Function.update_self]
        rw [hpa] at hup
        omega
      · rw [Function.update_of_ne hpa]
        exact hup

theorem Forest.link (h : Forest p) {a b : Nat} (ha : a < p.size) (hb : b < p.size)
    (hra : p.parent a = a) (hrb : p.parent b = b) (hne : a ≠ b) :
    Forest (p.setParent b a) ∧
      ∀ y, (p.setParent b a).root y = if p.root y = b then a else p.root y := by
  obtain ⟨rank, hr⟩ := h
  have hf : Forest (p.setParent b a) := ⟨_, hr.link ha hb hra hne⟩
  refine ⟨hf, fun y => hf.root_eq_iff.2 ?_⟩
  exact climbs_link hb hra hrb hne (Forest.climbs_root ⟨rank, hr⟩ y)

theorem Forest.union_spec (h : Forest p) {a b : Nat} (ha : a < p.size) (hb : b < p.size) :
    Forest (p.union a b) ∧ (p.union a b).size = p.size ∧
      ∀ y, (p.union a b).root y = if p.root y = p.root b then p.root a else p.root y := by
  obtain ⟨hf1, hsize1, -, -⟩ := h.find_spec ha
  have hb1 : b < (p.find a).1.size := by rw [hsize1]; exact hb
  obtain ⟨hf2, hsize2, -, -⟩ := hf1.find_spec hb1
  have hroot : ∀ y, ((p.find a).1.find b).1.root y = p.root y := fun y =>
    (hf1.root_find hb1 y).trans (h.root_find ha y)
  have hrb : ((p.find a).1.find b).2 = p.root b := h.root_find ha b
  have hunion : p.union a b = if p.root a = p.root b then ((p.find a).1.find b).1
      else ((p.find a).1.find b).1.setParent (p.root b) (p.root a) := by
    rw [← hrb]; rfl
  rw [hunion]
  split
  · next heq =>
    refine ⟨hf2, hsize2.trans hsize1, fun y => ?_⟩
    rw [hroot, heq]
    split
    · next hy => exact hy
    · rfl
  · next hne =>
    have hfix : ∀ x, ((p.find a).1.find b).1.parent (p.root x) = p.root x := fun x => by
      rw [← hroot x]; exact hf2.parent_root x
    obtain ⟨hf, hlink⟩ := hf2.link (by rw [hsize2, hsize1]; exact h.root_lt ha)
      (by rw [hsize2, hsize1]; exact h.root_lt hb) (hfix a) (hfix b) hne
    refine ⟨hf, by rw [size_setParent, hsize2, hsize1], fun y => ?_⟩
    rw [hlink, hroot]

/-- Uniting two positions redirects the roots of the second class to the root of the first one. -/
theorem Forest.root_union (h : Forest p) {a b : Nat} (ha : a < p.size) (hb : b < p.size) (y : Nat) :
    (p.union a b).root y = if p.root y = p.root b then p.root a else p.root y :=
  (h.union_spec ha hb).2.2 y

/-! ## Uniting along a list of pairs -/

/-- The classes of a partition along the pairs of a list. -/
def unionAll (p : Partition) (es : List (Nat × Nat)) : Partition :=
  es.foldl (fun p e => p.union e.1 e.2) p

/-- Two positions are in one class, or a listed pair connects them. -/
def Tied (p : Partition) (es : List (Nat × Nat)) (x y : Nat) : Prop :=
  p.root x = p.root y ∨ (x, y) ∈ es

theorem Forest.tied_union (h : Forest p) {e : Nat × Nat} {es : List (Nat × Nat)}
    (ha : e.1 < p.size) (hb : e.2 < p.size) {x y : Nat} (hxy : Tied (p.union e.1 e.2) es x y) :
    Relation.EqvGen (Tied p (e :: es)) x y := by
  have hsame : ∀ u v, p.root u = p.root v → Relation.EqvGen (Tied p (e :: es)) u v :=
    fun u v huv => .rel _ _ (.inl huv)
  have hpair : Relation.EqvGen (Tied p (e :: es)) e.1 e.2 := .rel _ _ (.inr (by simp))
  rcases hxy with hroot | hmem
  · rw [h.root_union ha hb, h.root_union ha hb] at hroot
    split at hroot <;> split at hroot
    · next hx hy => exact hsame _ _ (hx.trans hy.symm)
    · next hx _ => exact .trans _ _ _ (hsame _ _ hx) (.trans _ _ _ hpair.symm (hsame _ _ hroot))
    · next _ hy => exact .trans _ _ _ (hsame _ _ hroot) (.trans _ _ _ hpair (hsame _ _ hy.symm))
    · exact hsame _ _ hroot
  · exact .rel _ _ (.inr (List.mem_cons_of_mem _ hmem))

theorem Forest.tied_of_cons (h : Forest p) {e : Nat × Nat} {es : List (Nat × Nat)}
    (ha : e.1 < p.size) (hb : e.2 < p.size) {x y : Nat} (hxy : Tied p (e :: es) x y) :
    Tied (p.union e.1 e.2) es x y := by
  rcases hxy with hroot | hmem
  · exact .inl (by rw [h.root_union ha hb, h.root_union ha hb, hroot])
  · rcases List.mem_cons.1 hmem with he | hmem
    · subst he
      refine .inl ?_
      rw [h.root_union ha hb, h.root_union ha hb, if_pos rfl]
      split <;> rfl
    · exact .inr hmem

/-- After uniting along a list, two positions have one root just when classes and listed pairs
connect them. -/
theorem Forest.root_unionAll (es : List (Nat × Nat)) : ∀ {p : Partition}, Forest p →
    (∀ e ∈ es, e.1 < p.size ∧ e.2 < p.size) → ∀ x y,
    (p.unionAll es).root x = (p.unionAll es).root y ↔ Relation.EqvGen (Tied p es) x y := by
  induction es with
  | nil =>
    intro p _ _ x y
    constructor
    · exact fun hroot => .rel _ _ (.inl hroot)
    · intro hxy
      induction hxy with
      | rel _ _ hj => exact hj.resolve_right (by simp)
      | refl _ => rfl
      | symm _ _ _ ih => exact ih.symm
      | trans _ _ _ _ _ ih ih' => exact ih.trans ih'
  | cons e es ih =>
    intro p h hes x y
    obtain ⟨ha, hb⟩ := hes e (by simp)
    obtain ⟨hf, hsize, -⟩ := h.union_spec ha hb
    have hes' : ∀ e' ∈ es, e'.1 < (p.union e.1 e.2).size ∧ e'.2 < (p.union e.1 e.2).size :=
      fun e' he' => by rw [hsize]; exact hes e' (List.mem_cons_of_mem _ he')
    rw [show p.unionAll (e :: es) = (p.union e.1 e.2).unionAll es from rfl, ih hf hes' x y]
    constructor
    · intro hxy
      induction hxy with
      | rel _ _ hj => exact h.tied_union ha hb hj
      | refl _ => exact .refl _
      | symm _ _ _ ih => exact ih.symm
      | trans _ _ _ _ _ ih ih' => exact ih.trans _ _ _ ih'
    · exact Relation.EqvGen.mono (fun u v hj => h.tied_of_cons ha hb hj) x y

example : ((discrete 5).unionAll [(0, 1), (2, 3), (3, 1)]).root 0 = 2 := by decide

end CrossSource.Partition
