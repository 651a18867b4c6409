import ManagedBinding.Eligibility

/-!
# The rules against a member

The rules are listed here as tables, apart from the cascade of tests that the
renderer runs, and the two are shown to agree.  A member is kept exactly if no
rule speaks against it, and what leaves a member out is said by its flags, its
kind and its access alone.
-/

namespace ManagedBinding

/-- The rules against a method in the order in which they are tried, each with
whether it applies. -/
def Method.exclusionRules (owner : Class) (method : Method) :
    List (Exclusion × Bool) :=
  [(.ignored, method.declaration.ignored),
    (.implicitDefaultConstructor,
      owner.isValueType && method.isConstructor &&
        method.parameters.isEmpty),
    (.copyOrMoveConstructor,
      method.kind == .copyConstructor || method.kind == .moveConstructor),
    (.destructor, method.kind == .destructor),
    (.equalityOperator, method.operator == some .equalEqual),
    (.conversionOperator, method.kind == .conversion),
    (.notPublic, method.declaration.access != .publicAccess)]

/-- The rules against a field in the order in which they are tried. -/
def Field.exclusionRules (field : Field) : List (Exclusion × Bool) :=
  [(.ignored, field.declaration.ignored),
    (.notPublic, field.declaration.access != .publicAccess)]

/-- The reason of the first rule that applies. -/
def firstReason (rules : List (Exclusion × Bool)) : Option Exclusion :=
  (rules.find? Prod.snd).map Prod.fst

private theorem firstReason_cons
    (reason : Exclusion) (applies : Bool)
    (rest : List (Exclusion × Bool)) :
    firstReason ((reason, applies) :: rest) =
      if applies then some reason else firstReason rest := by
  cases applies <;> rfl

theorem Method.exclusion?_eq_firstReason (owner : Class) (method : Method) :
    method.exclusion? owner = firstReason (method.exclusionRules owner) := by
  simp only [exclusionRules, firstReason_cons, exclusion?,
    isCopyConstructor, isMoveConstructor, isDestructor,
    isConversionOperator, Access.isPublic, beq_iff_eq]
  rfl

theorem Field.exclusion?_eq_firstReason (field : Field) :
    field.exclusion? = firstReason field.exclusionRules := by
  simp only [exclusionRules, firstReason_cons, exclusion?, Access.isPublic]
  rfl

/-- There is a first reason exactly where some rule applies. -/
theorem firstReason_isSome_iff (rules : List (Exclusion × Bool)) :
    (firstReason rules).isSome = true ↔ ∃ rule ∈ rules, rule.2 = true := by
  rw [firstReason, Option.isSome_map, List.find?_isSome]

/-- A method is left out exactly if it is ignored, is a parameterless
constructor of a value type, is a special member that the output dialect
provides, or is not public. -/
theorem Method.isExcluded_iff (owner : Class) (method : Method) :
    method.isExcluded owner = true ↔
      method.declaration.ignored = true ∨
        (owner.isValueType = true ∧ method.isConstructor = true ∧
          method.parameters = []) ∨
        (method.kind = .copyConstructor ∨
          method.kind = .moveConstructor) ∨
        method.kind = .destructor ∨
        method.operator = some .equalEqual ∨
        method.kind = .conversion ∨
        method.declaration.access ≠ .publicAccess := by
  rw [isExcluded, exclusion?_eq_firstReason, firstReason_isSome_iff]
  simp [exclusionRules, and_assoc]

theorem Field.isExcluded_iff (field : Field) :
    field.isExcluded = true ↔
      field.declaration.ignored = true ∨
        field.declaration.access ≠ .publicAccess := by
  rw [isExcluded, exclusion?_eq_firstReason, firstReason_isSome_iff]
  simp [exclusionRules]

/-- Being kept is the same as having no rule against oneself. -/
private theorem not_excluded_eq_decide
    {reason : Option Exclusion} {rules : List (Exclusion × Bool)}
    (first : reason = firstReason rules) :
    (!reason.isSome) = decide (∀ rule ∈ rules, rule.2 = false) := by
  rw [first, Bool.eq_iff_iff, decide_eq_true_iff, Bool.not_eq_true',
    ← Bool.not_eq_true, firstReason_isSome_iff]
  simp only [not_exists, not_and, Bool.not_eq_true]

theorem Class.filter_methodRules (owner : Class) :
    (owner.methods.filter fun method =>
        ∀ rule ∈ method.exclusionRules owner, rule.2 = false) =
      owner.eligibleMethods := by
  apply List.filter_congr
  intro method _
  exact (not_excluded_eq_decide
    (method.exclusion?_eq_firstReason owner)).symm

theorem Class.filter_fieldRules (owner : Class) :
    (owner.fields.filter fun field =>
        ∀ rule ∈ field.exclusionRules, rule.2 = false) =
      owner.eligibleFields := by
  apply List.filter_congr
  intro field _
  exact (not_excluded_eq_decide field.exclusion?_eq_firstReason).symm

end ManagedBinding
