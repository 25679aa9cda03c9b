/-!
# Documents as values

A document is a tree of scalars, lists and objects. Integers and floating-point numbers are kept
apart. The members of an object stand in ascending order of their names, each name once;
`Value.object` brings a list of members into that form.
-/

namespace CrossSource.Document

inductive Value where
  | null
  | bool (b : Bool)
  | int (n : Int)
  | float (x : Float)
  | str (s : String)
  | arr (items : List Value)
  | obj (members : List (String × Value))

instance : Inhabited Value := ⟨.null⟩

/-! ## Members in order -/

variable {α : Type}

/-- Puts a member in its place by name; a member of that name is replaced. -/
def insertMember (k : String) (a : α) : List (String × α) → List (String × α)
  | [] => [(k, a)]
  | e :: es =>
    if k = e.1 then (k, a) :: es
    else if k < e.1 then (k, a) :: e :: es
    else e :: insertMember k a es

/-- The members in ascending order of names; of several of one name the last counts. -/
def sortMembers (ms : List (String × α)) : List (String × α) :=
  ms.foldl (fun sorted m => insertMember m.1 m.2 sorted) []

theorem lookup_member (k n : String) (b : α) (es : List (String × α)) :
    ((n, b) :: es).lookup k = if k = n then some b else es.lookup k := by
  by_cases h : k = n
  · simp [h]
  · have h' : (k == n) = false := by simpa using h
    simp [List.lookup_cons, h, h']

theorem lookup_insertMember (k k' : String) (a : α) (es : List (String × α)) :
    (insertMember k a es).lookup k' = if k' = k then some a else es.lookup k' := by
  induction es with
  | nil => simp only [insertMember, lookup_member]
  | cons e es ih =>
    obtain ⟨n, b⟩ := e
    simp only [insertMember]
    split
    · next h =>
      subst h
      simp only [lookup_member]
      split <;> rfl
    · next hne =>
      split
      · simp only [lookup_member]
      · simp only [lookup_member, ih]
        by_cases h : k' = n
        · subst h
          simp [Ne.symm hne]
        · simp [h]

/-- Of several members of one name the last one counts. -/
theorem lookup_sortMembers (k : String) (ms : List (String × α)) :
    (sortMembers ms).lookup k = ms.reverse.lookup k := by
  suffices hfold : ∀ sorted : List (String × α),
      (ms.foldl (fun sorted m => insertMember m.1 m.2 sorted) sorted).lookup k =
        (ms.reverse.lookup k).or (sorted.lookup k) by
    simpa [sortMembers] using hfold []
  induction ms with
  | nil => intro sorted; rfl
  | cons m ms ih =>
    intro sorted
    obtain ⟨n, a⟩ := m
    rw [List.foldl_cons, ih, lookup_insertMember, List.reverse_cons, List.lookup_append,
      lookup_member, Option.or_assoc]
    split <;> rfl

/-- An object of the given members, in any order. -/
def Value.object (ms : List (String × Value)) : Value := .obj (sortMembers ms)

/-! ## Equality -/

mutual
/-- Whether two documents are the same, numbers of one kind by value. -/
def Value.same : Value → Value → Bool
  | .null, .null => true
  | .bool a, .bool b => a == b
  | .int a, .int b => a == b
  | .float a, .float b => a == b
  | .str a, .str b => a == b
  | .arr as, .arr bs => sameItems as bs
  | .obj as, .obj bs => sameMembers as bs
  | _, _ => false

def sameItems : List Value → List Value → Bool
  | [], [] => true
  | a :: as, b :: bs => a.same b && sameItems as bs
  | _, _ => false

def sameMembers : List (String × Value) → List (String × Value) → Bool
  | [], [] => true
  | (k, a) :: as, (l, b) :: bs => k == l && a.same b && sameMembers as bs
  | _, _ => false
end

end CrossSource.Document
