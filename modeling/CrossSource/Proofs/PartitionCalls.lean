import CrossSource.Proofs.PartitionCells
/-!
# Partitions under any calls

Searches and unions come one after the other, in any order, on the cells of a partition. Each call
keeps the links a forest (`Forest.call_spec`), so a run of calls never reads beyond the cells and
each of its searches ends (`Forest.callAll_spec`). Searches shorten ways only, so a run leaves the
roots that its unions alone would leave (`Forest.root_callAll`). Both are put together in
`calls_keep_classes`.
-/

namespace CrossSource.Partition

variable {p : Partition} {rank : Nat → Nat}

/-! ## Chains of links -/

/-- A position that is no root points to another one. -/
def Link (p : Partition) (x y : Nat) : Prop := p.parent x = y ∧ y ≠ x

/-- No chain of links comes back to its start. -/
def Acyclic (p : Partition) : Prop := ∀ x, ¬ Relation.TransGen p.Link x x

theorem Ranked.lt_of_transGen (h : Ranked p rank) {x y : Nat} (hxy : Relation.TransGen p.Link x y) :
    rank x < rank y := by
  have hlink : ∀ {u v}, p.Link u v → rank u < rank v := by
    rintro u _ ⟨rfl, hne⟩
    exact h.grows u hne
  induction hxy with
  | single hlast => exact hlink hlast
  | tail _ hlast ih => exact ih.trans (hlink hlast)

theorem Forest.acyclic (h : Forest p) : p.Acyclic := by
  obtain ⟨rank, hr⟩ := h
  intro x hcycle
  exact Nat.lt_irrefl _ (hr.lt_of_transGen hcycle)

/-- The cells of a forest hold positions that have cells. -/
theorem Forest.lt_of_mem_parents (h : Forest p) {y : Nat} (hy : y ∈ p.parents) : y < p.size := by
  obtain ⟨rank, hr⟩ := h
  obtain ⟨x, hx, rfl⟩ := List.getElem_of_mem hy
  have hparent : p.parent x = p.parents[x] := by
    rw [parent, List.getD_eq_getElem?_getD, List.getElem?_eq_getElem hx, Option.getD_some]
  rw [← hparent]
  exact hr.below x hx

/-! ## Searches without a bound -/

/-- A search that ends would also end with more rounds. -/
theorem climbInCells_mono {rounds more : Nat} (hmore : rounds ≤ more) : ∀ {p : Partition} {x : Nat}
    {found : Partition × Nat}, climbInCells rounds p x = some found →
    climbInCells more p x = some found := by
  induction rounds generalizing more with
  | zero =>
    intro p x found hfound
    cases hfound
  | succ rounds ih =>
    intro p x found hfound
    -- Both searches have a round to begin with, and then one round fewer each.
    obtain ⟨more, rfl⟩ : ∃ k, more = k + 1 := ⟨more - 1, by omega⟩
    simp only [climbInCells, Option.bind_eq_bind, Option.bind_eq_some_iff] at hfound ⊢
    obtain ⟨up, hup, hfound⟩ := hfound
    refine ⟨up, hup, ?_⟩
    split at hfound
    · next hroot => rwa [if_pos hroot]
    · next hroot =>
      rw [if_neg hroot]
      simp only [Option.bind_eq_some_iff] at hfound ⊢
      obtain ⟨grand, hgrand, q, hq, z, hz, hrest⟩ := hfound
      exact ⟨grand, hgrand, q, hq, z, hz, ih (by omega) hrest⟩

/-- The search for the root of a position ends, within as many rounds as there are cells and one
more, and leaves a partition and a root. -/
def Finds (p : Partition) (x : Nat) (after : Partition) (r : Nat) : Prop :=
  ∀ rounds > p.size, climbInCells rounds p x = some (after, r)

theorem Forest.finds (h : Forest p) {x : Nat} (hx : x < p.size) :
    p.Finds x (p.find x).1 (p.root x) := by
  intro rounds hrounds
  exact climbInCells_mono hrounds (h.findInCells_eq hx)

/-! ## Calls -/

inductive Call where
  | union (a b : Nat)
  | find (x : Nat)

namespace Call

/-- The positions that the call names have cells. -/
def Within (size : Nat) : Call → Prop
  | union a b => a < size ∧ b < size
  | find x => x < size

/-- The pair that the call unites, if it unites any. -/
def pair? : Call → Option (Nat × Nat)
  | union a b => some (a, b)
  | find _ => none

end Call

/-- The pairs that calls unite. -/
def united (calls : List Call) : List (Nat × Nat) := calls.filterMap Call.pair?

def call (p : Partition) : Call → Partition
  | .union a b => p.union a b
  | .find x => (p.find x).1

def callInCells (p : Partition) : Call → Option Partition
  | .union a b => p.unionInCells a b
  | .find x => (p.findInCells x).map Prod.fst

/-- One call after the other. -/
def callAll (p : Partition) (calls : List Call) : Partition := calls.foldl call p

def callAllInCells (p : Partition) (calls : List Call) : Option Partition :=
  calls.foldlM callInCells p

/-- What a call keeps, and that it comes to an end. -/
theorem Forest.call_spec (h : Forest p) {c : Call} (hc : c.Within p.size) :
    Forest (p.call c) ∧ (p.call c).size = p.size ∧ p.callInCells c = some (p.call c) := by
  cases c with
  | union a b =>
    obtain ⟨hf, hsize, -⟩ := h.union_spec hc.1 hc.2
    exact ⟨hf, hsize, h.unionInCells_eq hc.1 hc.2⟩
  | find x =>
    obtain ⟨hf, hsize, -⟩ := h.find_spec hc
    refine ⟨hf, hsize, ?_⟩
    rw [callInCells, h.findInCells_eq hc]
    rfl

theorem Forest.callAll_spec (calls : List Call) : ∀ {p : Partition}, Forest p →
    (∀ c ∈ calls, c.Within p.size) →
    Forest (p.callAll calls) ∧ (p.callAll calls).size = p.size ∧
      p.callAllInCells calls = some (p.callAll calls) := by
  induction calls with
  | nil => exact fun h _ => ⟨h, rfl, rfl⟩
  | cons c calls ih =>
    intro p h hcalls
    obtain ⟨hf, hsize, hcell⟩ := h.call_spec (hcalls c (by simp))
    obtain ⟨hforest, hsize', hcells⟩ := ih hf fun d hd => by
      rw [hsize]
      exact hcalls d (List.mem_cons_of_mem _ hd)
    refine ⟨hforest, hsize'.trans hsize, ?_⟩
    rw [callAllInCells, List.foldlM_cons, hcell]
    exact hcells

/-! ## Classes -/

theorem within_of_mem_united {size : Nat} {calls : List Call} (h : ∀ c ∈ calls, c.Within size) :
    ∀ e ∈ united calls, e.1 < size ∧ e.2 < size := by
  intro e he
  obtain ⟨c, hc, hpair⟩ := List.mem_filterMap.1 he
  cases c with
  | union a b =>
    cases hpair
    exact h _ hc
  | find x => cases hpair

theorem callAll_concat (p : Partition) (calls : List Call) (c : Call) :
    p.callAll (calls ++ [c]) = (p.callAll calls).call c := by
  simp [callAll]

theorem unionAll_concat (p : Partition) (es : List (Nat × Nat)) (a b : Nat) :
    p.unionAll (es ++ [(a, b)]) = (p.unionAll es).union a b := by
  simp [unionAll]

/-- Calls leave the roots that the unions among them leave. -/
theorem Forest.root_callAll (h : Forest p) {calls : List Call}
    (hcalls : ∀ c ∈ calls, c.Within p.size) (y : Nat) :
    (p.callAll calls).root y = (p.unionAll (united calls)).root y := by
  induction calls using List.reverseRecOn generalizing y with
  | nil => rfl
  | append_singleton calls c ih =>
    rw [List.forall_mem_append, List.forall_mem_singleton] at hcalls
    obtain ⟨hbefore, hc⟩ := hcalls
    obtain ⟨hf, hsize, -⟩ := h.callAll_spec calls hbefore
    obtain ⟨hf', hsize', -⟩ := h.unionAll_spec (united calls) (within_of_mem_united hbefore)
    rw [callAll_concat]
    cases c with
    | union a b =>
      have hunited : united (calls ++ [.union a b]) = united calls ++ [(a, b)] := by
        simp [united, Call.pair?]
      -- Both unions come to their new roots in the same way.
      rw [hunited, unionAll_concat, call, hf.root_union (hsize ▸ hc.1) (hsize ▸ hc.2),
        hf'.root_union (hsize' ▸ hc.1) (hsize' ▸ hc.2), ih hbefore, ih hbefore, ih hbefore]
    | find x =>
      have hunited : united (calls ++ [.find x]) = united calls := by simp [united, Call.pair?]
      rw [hunited, call, hf.root_find (hsize ▸ hc), ih hbefore]

/-- In the beginning a position is in a class of its own, so only the pairs tie. -/
theorem eqvGen_tied_discrete_iff {size : Nat} {es : List (Nat × Nat)} {x y : Nat} :
    Relation.EqvGen (Tied (discrete size) es) x y ↔
      Relation.EqvGen (fun a b => (a, b) ∈ es) x y := by
  constructor
  · intro hxy
    induction hxy with
    | rel u v huv =>
      rcases huv with hroot | hmem
      · rw [root_discrete, root_discrete] at hroot
        exact hroot ▸ .refl u
      · exact .rel _ _ hmem
    | refl u => exact .refl u
    | symm _ _ _ ih => exact ih.symm
    | trans _ _ _ _ _ ih ih' => exact ih.trans _ _ _ ih'
  · exact Relation.EqvGen.mono (fun _ _ hmem => .inr hmem) x y

theorem root_callAll_discrete_eq_iff {size : Nat} {calls : List Call}
    (h : ∀ c ∈ calls, c.Within size) (x y : Nat) :
    ((discrete size).callAll calls).root x = ((discrete size).callAll calls).root y ↔
      Relation.EqvGen (fun a b => (a, b) ∈ united calls) x y := by
  have hforest := forest_discrete size
  have hwithin : ∀ c ∈ calls, c.Within (discrete size).size := by rwa [size_discrete]
  rw [hforest.root_callAll hwithin, hforest.root_callAll hwithin,
    hforest.root_unionAll _ (within_of_mem_united hwithin), eqvGen_tied_discrete_iff]

/-- Any calls on positions that have cells, from all positions apart, come to an end. The cells then
hold positions that have cells, and no chain of links comes back to its start. A search from any
position ends as well, it comes to the root that the links lead to, and it leaves all roots as they
are. Two searches, one after the other, come to one root just when the pairs united so far connect
the two positions. -/
theorem calls_keep_classes (size : Nat) (calls : List Call) (hcalls : ∀ c ∈ calls, c.Within size) :
    ∃ p, (discrete size).callAllInCells calls = some p ∧
      p.parents.length = size ∧ (∀ y ∈ p.parents, y < size) ∧ p.Acyclic ∧
      ∀ x < size, ∃ after r, p.Finds x after r ∧ Climbs p x r ∧
        (∀ z s, Climbs after z s ↔ Climbs p z s) ∧
        ∀ y < size, ∃ last s, after.Finds y last s ∧
          (r = s ↔ Relation.EqvGen (fun a b => (a, b) ∈ united calls) x y) := by
  have hwithin : ∀ c ∈ calls, c.Within (discrete size).size := by rwa [size_discrete]
  obtain ⟨hf, hsize, hcells⟩ := (forest_discrete size).callAll_spec calls hwithin
  rw [size_discrete] at hsize
  refine ⟨(discrete size).callAll calls, hcells, hsize, ?_, hf.acyclic, ?_⟩
  · intro y hy
    rw [← hsize]
    exact hf.lt_of_mem_parents hy
  · intro x hx
    rw [← hsize] at hx
    obtain ⟨hf', hsize', hclimbs, hsame⟩ := hf.find_spec hx
    refine ⟨_, _, hf.finds hx, hclimbs, hsame, ?_⟩
    intro y hy
    have hy' : y < (((discrete size).callAll calls).find x).1.size := by rwa [hsize', hsize]
    refine ⟨_, _, hf'.finds hy', ?_⟩
    -- The first search has changed no root, so both roots are those that the calls have left.
    rw [hf.root_find hx]
    exact root_callAll_discrete_eq_iff hcalls x y

/-- Unions that link a root twice below others, with a search between them. -/
def chained : List Call := [.union 0 1, .union 2 0, .find 1, .union 3 2, .union 4 4]

theorem calls_keep_classes_chained :
    (∀ c ∈ chained, c.Within 6) ∧
      ∃ p, (discrete 6).callAllInCells chained = some p ∧ p.Acyclic ∧
        ∃ after r, p.Finds 1 after r ∧ Climbs p 1 r ∧ ∃ last, after.Finds 3 last r := by
  have hwithin : ∀ c ∈ chained, c.Within 6 := by simp [chained, Call.Within]
  obtain ⟨p, hcells, -, -, hacyclic, hsearch⟩ := calls_keep_classes 6 chained hwithin
  obtain ⟨after, r, hfinds, hclimbs, -, hnext⟩ := hsearch 1 (by decide)
  obtain ⟨last, s, hfinds', hsame⟩ := hnext 3 (by decide)
  have hconnected : Relation.EqvGen (fun a b => (a, b) ∈ united chained) 1 3 := by
    have hpair : ∀ a b, (a, b) ∈ united chained →
        Relation.EqvGen (fun a b => (a, b) ∈ united chained) a b := fun a b h => .rel a b h
    have h01 := hpair 0 1 (by simp [united, chained, Call.pair?])
    have h20 := hpair 2 0 (by simp [united, chained, Call.pair?])
    have h32 := hpair 3 2 (by simp [united, chained, Call.pair?])
    exact (h32.trans _ _ _ (h20.trans _ _ _ h01)).symm
  rw [← hsame.2 hconnected] at hfinds'
  exact ⟨hwithin, p, hcells, hacyclic, after, r, hfinds, hclimbs, last, hfinds'⟩

end CrossSource.Partition
