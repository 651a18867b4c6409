import ManagedBinding.Model.NativeType

/-!
# Chains of types

A type is built from a builtin type or a tag by steps: a pointer or a reference
to what has been built so far, or a qualifier for it.  The spelling is found
from the outermost level inwards, and every level decides on which side its
qualifier stands.

Here the spelling is written in the order of the steps.  The writer only adds
text in front or behind, and it remembers whether something has been wrapped
and whether the outermost level has its qualifier.
-/

namespace ManagedBinding

/-- A step in the construction of a type. -/
inductive TypeStep
  | pointerTo
  | referenceTo
  | rvalueReferenceTo
  | asConst
  deriving DecidableEq, Repr

namespace TypeStep

/-- The type that the step makes of another one. -/
def apply (type : QualifiedType) : TypeStep → QualifiedType
  | .pointerTo => type.pointerTo
  | .referenceTo => type.referenceTo
  | .rvalueReferenceTo => type.rvalueReferenceTo
  | .asConst => type.asConst

/-- The step that leads to a type. -/
def wrapping : Indirection → TypeStep
  | .pointer => .pointerTo
  | .reference => .referenceTo
  | .rvalueReference => .rvalueReferenceTo

theorem apply_wrapping (type : QualifiedType) (via : Indirection) :
    apply type (wrapping via) = .indirect via type := by
  cases via with
  | pointer => rfl
  | reference => rfl
  | rvalueReference => rfl

end TypeStep

/-- The type that steps make of another one, first step first. -/
def QualifiedType.chain (start : QualifiedType) (steps : List TypeStep) :
    QualifiedType :=
  steps.foldl TypeStep.apply start

/-- A spelling that is being written. -/
structure ChainText where
  text : String
  isWrapped : Bool
  isConst : Bool

namespace ChainText

/-- Only the spelling of a builtin type or of a tag. -/
def start (spelling : String) : ChainText := ⟨spelling, false, false⟩

/-- Write a mark at the end. -/
def wrap (written : ChainText) (mark : String) : ChainText :=
  ⟨written.text ++ mark, true, false⟩

/-- Write the qualifier, unless it is there: behind the marks, or in front if
there are none. -/
def qualify (written : ChainText) : ChainText :=
  if written.isConst then
    written
  else if written.isWrapped then
    ⟨written.text ++ " const", true, true⟩
  else
    ⟨"const " ++ written.text, false, true⟩

def write (written : ChainText) : TypeStep → ChainText
  | .pointerTo => written.wrap "*"
  | .referenceTo => written.wrap "&"
  | .rvalueReferenceTo => written.wrap "&&"
  | .asConst => written.qualify

/-- Write all steps, first step first. -/
def writeAll (written : ChainText) (steps : List TypeStep) : ChainText :=
  steps.foldl write written

end ChainText

namespace QualifiedType

/-- What a writer has written and remembers when it is done with a type. -/
def chainText (type : QualifiedType) : ChainText :=
  ⟨type.spelling, type.type.isIndirection, type.isConst⟩

theorem chainText_indirect (via : Indirection) (target : QualifiedType) :
    (indirect via target).chainText = target.chainText.wrap via.mark :=
  rfl

theorem chainText_asConst (type : QualifiedType) :
    type.asConst.chainText = type.chainText.qualify := by
  obtain ⟨bare, isConst⟩ := type
  cases isConst with
  | true => rfl
  | false =>
      cases bare with
      | builtin primitive => rfl
      | tag name => rfl
      | indirect via target targetIsConst => rfl

theorem chainText_apply (type : QualifiedType) (step : TypeStep) :
    (step.apply type).chainText = type.chainText.write step := by
  cases step with
  | pointerTo => exact chainText_indirect .pointer type
  | referenceTo => exact chainText_indirect .reference type
  | rvalueReferenceTo => exact chainText_indirect .rvalueReference type
  | asConst => exact chainText_asConst type

theorem chainText_chain (start : QualifiedType) (steps : List TypeStep) :
    (start.chain steps).chainText = start.chainText.writeAll steps := by
  induction steps generalizing start with
  | nil => rfl
  | cons step rest inductionHypothesis =>
      have later := inductionHypothesis (step.apply start)
      rw [chainText_apply] at later
      exact later

/-- The type is made by steps from a builtin type or from a tag. -/
def IsChain (type : QualifiedType) : Prop :=
  (∃ primitive steps, (builtin primitive).chain steps = type) ∨
    ∃ name steps, (tag name).chain steps = type

theorem IsChain.apply {type : QualifiedType} (isChain : type.IsChain)
    (step : TypeStep) :
    (step.apply type).IsChain := by
  have chain_concat (start : QualifiedType) (steps : List TypeStep) :
      start.chain (steps ++ [step]) = step.apply (start.chain steps) := by
    rw [chain, List.foldl_append]
    rfl
  rcases isChain with ⟨primitive, steps, rfl⟩ | ⟨name, steps, rfl⟩
  · exact .inl ⟨primitive, steps ++ [step], chain_concat _ steps⟩
  · exact .inr ⟨name, steps ++ [step], chain_concat _ steps⟩

theorem isChain (type : QualifiedType) : type.IsChain := by
  obtain ⟨bare, isConst⟩ := type
  have qualified {unqualified : NativeType}
      (isChain : IsChain ⟨unqualified, false⟩) (isConst : Bool) :
      IsChain ⟨unqualified, isConst⟩ := by
    cases isConst with
    | false => exact isChain
    | true => exact isChain.apply .asConst
  induction bare generalizing isConst with
  | builtin primitive => exact qualified (.inl ⟨primitive, [], rfl⟩) isConst
  | tag name => exact qualified (.inr ⟨name, [], rfl⟩) isConst
  | indirect via target targetIsConst inductionHypothesis =>
      have wrapped :=
        (inductionHypothesis targetIsConst).apply (.wrapping via)
      rw [TypeStep.apply_wrapping] at wrapped
      exact qualified wrapped isConst

end QualifiedType

/-- The spelling of a chain is written from left to right over its steps, and
every type is the end of a chain. -/
theorem spelling_of_chain :
    (∀ (primitive : Primitive) (steps : List TypeStep),
        ((QualifiedType.builtin primitive).chain steps).spelling =
          ((ChainText.start primitive.spelling).writeAll steps).text) ∧
      (∀ (name : String) (steps : List TypeStep),
        ((QualifiedType.tag name).chain steps).spelling =
          ((ChainText.start name).writeAll steps).text) ∧
      ∀ type : QualifiedType, type.IsChain := by
  refine ⟨?builtin, ?tag, QualifiedType.isChain⟩
  case builtin =>
    intro primitive steps
    exact congrArg ChainText.text
      (QualifiedType.chainText_chain (.builtin primitive) steps)
  case tag =>
    intro name steps
    exact congrArg ChainText.text
      (QualifiedType.chainText_chain (.tag name) steps)

/-- A qualifier on both levels, each given twice. -/
example :
    ((QualifiedType.tag "gfx::Point").chain
        [.asConst, .asConst, .pointerTo, .asConst, .asConst,
          .rvalueReferenceTo]).spelling =
      "const gfx::Point* const&&" := by
  decide

end ManagedBinding
