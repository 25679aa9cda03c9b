import CrossSource.Validation.Rules
import Mathlib.Data.List.Basic
/-!
# Each rule speaks under a code of its own

The messages of a report are those of nine rules, one for each code, so what a report says under a
code is what the code's rule says (`filter_code`), and a query is valid just when the rules whose
messages are errors say nothing (`isValid_iff`).
-/

namespace CrossSource.Validation

variable {options : Options} {q : Query}

/-- The severity that the messages of a code have. -/
def Code.severity : Code → Severity
  | .performanceWarning | .unknownSource => .warning
  | _ => .error

/-- The codes in the order of their rules. -/
def Code.inOrder : List Code :=
  [.noSources, .noFields, .missingJoins, .invalidJoin, .incompatibleTypes, .invalidOperator,
    .performanceWarning, .duplicateAlias, .unknownSource]

theorem Code.mem_inOrder (c : Code) : c ∈ inOrder := by cases c <;> decide

/-- What the rule of a code has to say. -/
def rule (options : Options) (q : Query) : Code → List Message
  | .noSources => sourcesPresent q
  | .noFields => fieldsPresent q
  | .missingJoins => sourcesJoined q
  | .invalidJoin => joinsResolve q
  | .incompatibleTypes => joinsCompatible q
  | .invalidOperator => operatorsAllowed q
  | .performanceWarning => costs options q
  | .duplicateAlias => aliasesDiffer q
  | .unknownSource => sourcesKnown q

theorem messages_eq_flatMap_rule (options : Options) (q : Query) :
    messages options q = Code.inOrder.flatMap (rule options q) := by
  simp [messages, Code.inOrder, rule]

/-! ## The code and the severity of a message -/

/-- Whether all messages of a list have a code and the severity that goes with it. -/
def Under (c : Code) (ms : List Message) : Prop :=
  ∀ m ∈ ms, m.code = c ∧ m.severity = c.severity

@[simp] theorem under_nil (c : Code) : Under c [] := by simp [Under]

theorem under_singleton {c : Code} {m : Message} (hc : m.code = c) (hs : m.severity = c.severity) :
    Under c [m] := by
  intro m' hm'
  rw [List.mem_singleton] at hm'
  subst hm'
  exact ⟨hc, hs⟩

theorem Under.append {c : Code} {ms ms' : List Message} (h : Under c ms) (h' : Under c ms') :
    Under c (ms ++ ms') := by
  intro m hm
  rcases List.mem_append.1 hm with hm | hm
  · exact h m hm
  · exact h' m hm

theorem under_flatMap {α : Type} {c : Code} {as : List α} {f : α → List Message}
    (h : ∀ a ∈ as, Under c (f a)) : Under c (as.flatMap f) := by
  intro m hm
  obtain ⟨a, ha, hm⟩ := List.mem_flatMap.1 hm
  exact h a ha m hm

theorem under_ite {c : Code} {b : Prop} [Decidable b] {ms ms' : List Message} (h : Under c ms)
    (h' : Under c ms') : Under c (if b then ms else ms') := by
  split
  · exact h
  · exact h'

theorem under_sourcesJoined (q : Query) : Under .missingJoins (sourcesJoined q) := by
  unfold sourcesJoined
  refine under_ite (under_nil _) (under_ite (under_singleton rfl rfl) ?_)
  split
  · exact under_nil _
  · exact under_singleton rfl rfl

theorem under_joinsResolve (q : Query) : Under .invalidJoin (joinsResolve q) := by
  have hside : ∀ i s f, Under .invalidJoin (sideSelected q i s f) := fun i s f =>
    under_ite (under_singleton rfl rfl) (under_nil _)
  refine under_flatMap fun a _ => ((hside _ _ _).append (hside _ _ _)).append ?_
  exact under_ite (under_singleton rfl rfl) (under_nil _)

theorem under_joinsCompatible (q : Query) : Under .incompatibleTypes (joinsCompatible q) := by
  refine under_flatMap fun a _ => ?_
  simp only [joinTypes]
  split
  · exact under_ite (under_nil _) (under_singleton rfl rfl)
  · exact under_nil _

theorem under_operatorsAllowed (q : Query) : Under .invalidOperator (operatorsAllowed q) := by
  refine under_flatMap fun a _ => ?_
  simp only [operatorAllowed]
  split
  · exact under_nil _
  · exact under_ite (under_nil _) (under_singleton rfl rfl)

/-- The rule of a code speaks under that code only. -/
theorem under_rule (options : Options) (q : Query) (c : Code) : Under c (rule options q c) := by
  cases c with
  | noSources => exact under_ite (under_singleton rfl rfl) (under_nil _)
  | noFields => exact under_ite (under_singleton rfl rfl) (under_nil _)
  | missingJoins => exact under_sourcesJoined q
  | invalidJoin => exact under_joinsResolve q
  | incompatibleTypes => exact under_joinsCompatible q
  | invalidOperator => exact under_operatorsAllowed q
  | performanceWarning =>
    exact (under_ite (under_singleton rfl rfl) (under_nil _)).append
      (under_ite (under_singleton rfl rfl) (under_nil _))
  | duplicateAlias =>
    exact under_flatMap fun _ _ => under_ite (under_singleton rfl rfl) (under_nil _)
  | unknownSource =>
    exact under_ite (under_nil _)
      (under_flatMap fun _ _ => under_ite (under_nil _) (under_singleton rfl rfl))

/-! ## What a report says under a code -/

theorem mem_messages_iff {m : Message} : m ∈ messages options q ↔ m ∈ rule options q m.code := by
  rw [messages_eq_flatMap_rule, List.mem_flatMap]
  constructor
  · rintro ⟨c, -, hm⟩
    rw [(under_rule options q c m hm).1]
    exact hm
  · exact fun hm => ⟨m.code, Code.mem_inOrder _, hm⟩

theorem filter_rule (options : Options) (q : Query) (c c' : Code) :
    (rule options q c').filter (fun m => m.code = c) = if c' = c then rule options q c else [] := by
  split
  · next hc =>
    subst hc
    exact List.filter_eq_self.2 fun m hm => by simp [(under_rule options q c' m hm).1]
  · next hc =>
    refine List.filter_eq_nil_iff.2 fun m hm => ?_
    simp [(under_rule options q c' m hm).1, hc]

/-- Under a code a report says what the code's rule says. -/
theorem filter_code (options : Options) (q : Query) (c : Code) :
    (messages options q).filter (fun m => m.code = c) = rule options q c := by
  rw [messages_eq_flatMap_rule, List.filter_flatMap]
  simp only [filter_rule]
  cases c <;> simp [Code.inOrder]

theorem count_codes (options : Options) (now : Timestamp) (q : Query) (c : Code) :
    (validate options now q).codes.count c = (rule options q c).length := by
  have hcount : (validate options now q).codes.count c =
      ((messages options q).filter (fun m => m.code = c)).length := by
    rw [← List.countP_eq_length_filter]
    exact List.countP_map
  rw [hcount, filter_code]

theorem mem_codes_iff (options : Options) (now : Timestamp) (q : Query) (c : Code) :
    c ∈ (validate options now q).codes ↔ rule options q c ≠ [] := by
  rw [← List.count_pos_iff, count_codes, List.length_pos_iff]

/-- A query is valid just when no rule finds an error. -/
theorem isValid_iff (options : Options) (now : Timestamp) (q : Query) :
    (validate options now q).isValid = true ↔
      ∀ c : Code, c.severity = .error → rule options q c = [] := by
  simp only [validate, Report.ofMessages, List.all_eq_true, Message.isError, Bool.not_eq_true',
    decide_eq_false_iff_not]
  constructor
  · intro h c hc
    refine List.eq_nil_iff_forall_not_mem.2 fun m hm => ?_
    obtain ⟨hcode, hsev⟩ := under_rule options q c m hm
    refine h m (mem_messages_iff.2 (by rw [hcode]; exact hm)) ?_
    rw [hsev, hc]
  · intro h m hm herror
    rw [mem_messages_iff] at hm
    have hsev := (under_rule options q m.code m hm).2
    rw [h m.code (hsev ▸ herror)] at hm
    cases hm

end CrossSource.Validation
