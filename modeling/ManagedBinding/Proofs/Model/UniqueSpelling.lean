import ManagedBinding.Render.TypePrinter
import ManagedBinding.Schema.Vocabulary
import Mathlib.Data.List.Nodup
import Mathlib.Data.Set.Function

/-!
# Unique spellings

A spelling is read from its end.  A type with a qualifier behind a mark ends
with the last letter of the qualifier, an indirection without one ends with
its mark, and only builtin types and tags have no mark at all.  So the
outermost level is known, and what stands in front of it is the spelling of
the target.

Two things have to be excluded.  A tag may hold no character of the marks and
no space, and may not be named like a builtin type.  And since `&&` is both a
mark and two marks, no reference may lead to a reference without a qualifier.
-/

namespace ManagedBinding

/-- No character of the text belongs to the mark of an indirection. -/
def Unmarked (chars : List Char) : Prop :=
  '*' ∉ chars ∧ '&' ∉ chars

instance (chars : List Char) : Decidable (Unmarked chars) :=
  inferInstanceAs (Decidable ('*' ∉ chars ∧ '&' ∉ chars))

/-- The name is not that of a builtin type, and none of its characters stands
for something else. -/
structure IsPlainName (name : String) : Prop where
  noSpace : ' ' ∉ name.toList
  unmarked : Unmarked name.toList
  notBuiltin : ∀ primitive : Primitive, name ≠ primitive.spelling

def Indirection.isReference : Indirection → Bool
  | .pointer => false
  | .reference => true
  | .rvalueReference => true

def NativeType.isReference : NativeType → Bool
  | .builtin _ => false
  | .tag _ => false
  | .indirect via _ _ => via.isReference

/-- All tags have plain names, and no reference leads to a reference that is
not `const`. -/
def NativeType.IsReadable : NativeType → Prop
  | .builtin _ => True
  | .tag name => IsPlainName name
  | .indirect via target targetIsConst =>
      target.IsReadable ∧
        ¬ (via.isReference = true ∧ target.isReference = true ∧
          targetIsConst = false)

def QualifiedType.IsReadable (type : QualifiedType) : Prop :=
  type.type.IsReadable

theorem unmarked_append (left right : List Char) :
    Unmarked (left ++ right) ↔ Unmarked left ∧ Unmarked right := by
  rw [Unmarked, Unmarked, Unmarked, List.mem_append, List.mem_append,
    not_or, not_or]
  exact and_and_and_comm

theorem Primitive.plain_spelling (primitive : Primitive) :
    Unmarked primitive.spelling.toList ∧
      ¬ "const ".toList <+: primitive.spelling.toList := by
  cases primitive <;> decide

private theorem injective_of_nodup_map
    {α β : Type} {values : List α} (complete : ∀ value, value ∈ values)
    {name : α → β} (distinct : (values.map name).Nodup) :
    Function.Injective name :=
  fun left right same =>
    List.inj_on_of_nodup_map distinct (complete left) (complete right) same

theorem Primitive.mem_values (primitive : Primitive) :
    primitive ∈ (Schema.Vocabulary.values : List Primitive) := by
  cases primitive <;> decide

theorem Primitive.spelling_injective :
    Function.Injective Primitive.spelling :=
  injective_of_nodup_map Primitive.mem_values (by decide)

theorem Indirection.mem_values (via : Indirection) :
    via ∈ (Schema.Vocabulary.values : List Indirection) := by
  cases via <;> decide

theorem Indirection.mark_injective : Function.Injective Indirection.mark :=
  injective_of_nodup_map Indirection.mem_values (by decide)

namespace NativeType

/-- Without a qualifier, a builtin type or a tag has no mark in its spelling
and does not start like a type with one. -/
theorem plain_spelling
    {type : NativeType} (readable : type.IsReadable)
    (isBase : type.isIndirection = false) :
    Unmarked type.spelling.toList ∧
      ¬ "const ".toList <+: type.spelling.toList := by
  cases type with
  | builtin primitive => exact primitive.plain_spelling
  | tag name =>
      have plain : IsPlainName name := readable
      exact ⟨plain.unmarked,
        fun startsConst => plain.noSpace (startsConst.subset (by decide))⟩
  | indirect via target targetIsConst => exact nomatch isBase

theorem eq_of_spelling_eq_of_isBase
    {left right : NativeType} (leftReadable : left.IsReadable)
    (rightReadable : right.IsReadable)
    (leftIsBase : left.isIndirection = false)
    (rightIsBase : right.isIndirection = false)
    (same : left.spelling = right.spelling) :
    left = right := by
  cases left with
  | builtin primitive =>
      cases right with
      | builtin other =>
          exact congrArg builtin (Primitive.spelling_injective same)
      | tag name => exact absurd same.symm (rightReadable.notBuiltin primitive)
      | indirect via target targetIsConst =>
          exact nomatch rightIsBase
  | tag name =>
      cases right with
      | builtin primitive => exact absurd same (leftReadable.notBuiltin primitive)
      | tag other => exact congrArg tag same
      | indirect via target targetIsConst =>
          exact nomatch rightIsBase
  | indirect via target targetIsConst => exact nomatch leftIsBase

end NativeType

namespace QualifiedType

theorem toList_spelling_of_isBase
    {type : NativeType} (isBase : type.isIndirection = false)
    (isConst : Bool) :
    (⟨type, isConst⟩ : QualifiedType).spelling.toList =
      (if isConst then "const ".toList else []) ++
        type.spelling.toList := by
  cases isConst with
  | true => simp [spelling, qualifySpelling, isBase]
  | false => simp [spelling, qualifySpelling]

theorem toList_spelling_indirect
    (via : Indirection) (target : NativeType)
    (targetIsConst isConst : Bool) :
    (⟨.indirect via target targetIsConst, isConst⟩ :
        QualifiedType).spelling.toList =
      (⟨target, targetIsConst⟩ : QualifiedType).spelling.toList ++
        via.mark.toList ++ (if isConst then " const".toList else []) := by
  cases isConst with
  | true => simp [spelling, qualifySpelling, NativeType.spelling,
      NativeType.isIndirection]
  | false => simp [spelling, qualifySpelling, NativeType.spelling]

/-- Marks tell an indirection from a builtin type and a tag. -/
theorem unmarked_spelling_iff
    {type : NativeType} (readable : type.IsReadable) (isConst : Bool) :
    Unmarked (⟨type, isConst⟩ : QualifiedType).spelling.toList ↔
      type.isIndirection = false := by
  constructor
  · intro unmarked
    cases type with
    | builtin primitive => rfl
    | tag name => rfl
    | indirect via target targetIsConst =>
        have marked : ¬ Unmarked via.mark.toList := by
          cases via <;> decide
        rw [toList_spelling_indirect, unmarked_append, unmarked_append]
          at unmarked
        exact absurd unmarked.1.2 marked
  · intro isBase
    rw [toList_spelling_of_isBase isBase, unmarked_append]
    refine ⟨?_, (NativeType.plain_spelling readable isBase).1⟩
    cases isConst <;> decide

/-- A builtin type or a tag is spelled like no other type, and a qualifier in
front of it is seen. -/
theorem eq_of_spelling_eq_of_isBase
    {left right : NativeType} (leftReadable : left.IsReadable)
    (rightReadable : right.IsReadable)
    (leftIsBase : left.isIndirection = false)
    {leftIsConst rightIsConst : Bool}
    (same :
      (⟨left, leftIsConst⟩ : QualifiedType).spelling.toList =
        (⟨right, rightIsConst⟩ : QualifiedType).spelling.toList) :
    left = right ∧ leftIsConst = rightIsConst := by
  have rightIsBase : right.isIndirection = false := by
    rw [← unmarked_spelling_iff rightReadable, ← same,
      unmarked_spelling_iff leftReadable]
    exact leftIsBase
  have leftPlain := (NativeType.plain_spelling leftReadable leftIsBase).2
  have rightPlain := (NativeType.plain_spelling rightReadable rightIsBase).2
  have sameBase
      (spellings : left.spelling.toList = right.spelling.toList) :
      left = right :=
    NativeType.eq_of_spelling_eq_of_isBase leftReadable rightReadable
      leftIsBase rightIsBase (String.toList_inj.mp spellings)
  rw [toList_spelling_of_isBase leftIsBase,
    toList_spelling_of_isBase rightIsBase] at same
  cases leftIsConst with
  | true =>
      cases rightIsConst with
      | true => exact ⟨sameBase (List.append_cancel_left same), rfl⟩
      | false => exact absurd ⟨_, same⟩ rightPlain
  | false =>
      cases rightIsConst with
      | true => exact absurd ⟨_, same.symm⟩ leftPlain
      | false => exact ⟨sameBase same, rfl⟩

/-! ## The outermost level -/

/-- Without a qualifier the mark is at the end, with one its last letter. -/
theorem isConst_eq_of_level_eq
    {leftVia rightVia : Indirection} {leftFront rightFront : List Char}
    {leftIsConst rightIsConst : Bool}
    (same :
      leftFront ++ leftVia.mark.toList ++
          (if leftIsConst then " const".toList else []) =
        rightFront ++ rightVia.mark.toList ++
          (if rightIsConst then " const".toList else [])) :
    leftIsConst = rightIsConst := by
  have ends_mark (front behind : List Char) (via : Indirection) :
      front ++ via.mark.toList ++ [] ≠ behind ++ " const".toList := by
    intro equality
    have atLast := congrArg List.getLast? equality
    cases via <;> simp [Indirection.mark] at atLast
  cases leftIsConst with
  | true =>
      cases rightIsConst with
      | true => rfl
      | false => exact absurd same.symm (ends_mark _ _ rightVia)
  | false =>
      cases rightIsConst with
      | true => exact absurd same (ends_mark _ _ leftVia)
      | false => rfl

/-- In front of `&&` there is one `&` more only if it belongs to the target. -/
theorem append_mark_ne
    {via : Indirection} (shorter : via ≠ .rvalueReference)
    {front : List Char}
    (noReference : via.isReference = true → front.getLast? ≠ some '&')
    (other : List Char) :
    front ++ via.mark.toList ≠
      other ++ Indirection.rvalueReference.mark.toList := by
  intro same
  have regroup :
      other ++ Indirection.rvalueReference.mark.toList =
        other ++ ['&'] ++ ['&'] := by
    simp [Indirection.mark]
  rw [regroup] at same
  cases via with
  | pointer =>
      have marks := (List.append_singleton_inj.mp same).2
      exact absurd marks (by decide)
  | reference =>
      have fronts := (List.append_singleton_inj.mp same).1
      rw [fronts] at noReference
      exact noReference rfl List.getLast?_concat
  | rvalueReference => exact shorter rfl

theorem via_eq_of_append_mark_eq
    {leftVia rightVia : Indirection} {leftFront rightFront : List Char}
    (leftNoReference :
      leftVia.isReference = true → leftFront.getLast? ≠ some '&')
    (rightNoReference :
      rightVia.isReference = true → rightFront.getLast? ≠ some '&')
    (same :
      leftFront ++ leftVia.mark.toList =
        rightFront ++ rightVia.mark.toList) :
    leftVia = rightVia ∧ leftFront = rightFront := by
  by_cases leftLong : leftVia = .rvalueReference
  · by_cases rightLong : rightVia = .rvalueReference
    · rw [leftLong, rightLong] at same
      exact ⟨leftLong.trans rightLong.symm, List.append_cancel_right same⟩
    · rw [leftLong] at same
      exact absurd same.symm
        (append_mark_ne rightLong rightNoReference leftFront)
  · by_cases rightLong : rightVia = .rvalueReference
    · rw [rightLong] at same
      exact absurd same (append_mark_ne leftLong leftNoReference rightFront)
    · have oneLetter {via : Indirection} (short : via ≠ .rvalueReference) :
          via.mark.toList.length = 1 := by
        cases via with
        | pointer => rfl
        | reference => rfl
        | rvalueReference => exact absurd rfl short
      obtain ⟨fronts, marks⟩ :=
        List.append_inj' same
          ((oneLetter leftLong).trans (oneLetter rightLong).symm)
      exact ⟨Indirection.mark_injective (String.toList_inj.mp marks), fronts⟩

/-- Only a reference without a qualifier ends with the mark of a reference. -/
theorem isReference_of_getLast?_spelling
    {type : NativeType} (readable : type.IsReadable) {isConst : Bool}
    (atLast :
      (⟨type, isConst⟩ : QualifiedType).spelling.toList.getLast? =
        some '&') :
    type.isReference = true ∧ isConst = false := by
  cases isBase : type.isIndirection with
  | false =>
      have unmarked := (unmarked_spelling_iff readable isConst).mpr isBase
      exact absurd (List.mem_of_getLast? atLast) unmarked.2
  | true =>
      cases type with
      | builtin primitive => exact nomatch isBase
      | tag name => exact nomatch isBase
      | indirect via target targetIsConst =>
          rw [toList_spelling_indirect] at atLast
          cases isConst with
          | true => simp at atLast
          | false =>
              cases via with
              | pointer => simp [Indirection.mark] at atLast
              | reference => exact ⟨rfl, rfl⟩
              | rvalueReference => exact ⟨rfl, rfl⟩

theorem getLast?_spelling_target_ne
    {via : Indirection} {target : NativeType} {targetIsConst : Bool}
    (readable : (NativeType.indirect via target targetIsConst).IsReadable)
    (isReference : via.isReference = true) :
    (⟨target, targetIsConst⟩ : QualifiedType).spelling.toList.getLast? ≠
      some '&' :=
  fun atLast => readable.2
    ⟨isReference, isReference_of_getLast?_spelling readable.1 atLast⟩

theorem eq_of_spelling_eq
    {left right : NativeType} (leftReadable : left.IsReadable)
    (rightReadable : right.IsReadable) {leftIsConst rightIsConst : Bool}
    (same :
      (⟨left, leftIsConst⟩ : QualifiedType).spelling.toList =
        (⟨right, rightIsConst⟩ : QualifiedType).spelling.toList) :
    left = right ∧ leftIsConst = rightIsConst := by
  induction left generalizing right leftIsConst rightIsConst with
  | builtin primitive =>
      exact eq_of_spelling_eq_of_isBase leftReadable rightReadable rfl same
  | tag name =>
      exact eq_of_spelling_eq_of_isBase leftReadable rightReadable rfl same
  | indirect leftVia leftTarget leftTargetIsConst inductionHypothesis =>
      cases rightIsBase : right.isIndirection with
      | false =>
          obtain ⟨sameType, sameQualifier⟩ :=
            eq_of_spelling_eq_of_isBase rightReadable leftReadable
              rightIsBase same.symm
          exact ⟨sameType.symm, sameQualifier.symm⟩
      | true =>
          cases right with
          | builtin primitive => exact nomatch rightIsBase
          | tag name => exact nomatch rightIsBase
          | indirect rightVia rightTarget rightTargetIsConst =>
              rw [toList_spelling_indirect, toList_spelling_indirect] at same
              obtain rfl := isConst_eq_of_level_eq same
              obtain ⟨rfl, sameTarget⟩ :=
                via_eq_of_append_mark_eq
                  (getLast?_spelling_target_ne leftReadable)
                  (getLast?_spelling_target_ne rightReadable)
                  (List.append_cancel_right same)
              obtain ⟨rfl, rfl⟩ :=
                inductionHypothesis leftReadable.1 rightReadable.1 sameTarget
              exact ⟨rfl, rfl⟩

theorem spelling_injOn :
    Set.InjOn QualifiedType.spelling {type | type.IsReadable} := by
  intro left leftReadable right rightReadable same
  obtain ⟨sameType, sameQualifier⟩ :=
    eq_of_spelling_eq leftReadable rightReadable (congrArg String.toList same)
  exact congr (congrArg QualifiedType.mk sameType) sameQualifier

end QualifiedType

/-- Readable types have the same spelling only if they are the same, so a
printer that looks up spellings can print them in any way that looks at the
types. -/
theorem spelling_determines_readable_type :
    (∀ left right : QualifiedType, left.IsReadable → right.IsReadable →
        (left.spelling = right.spelling ↔ left = right)) ∧
      ∀ printType : QualifiedType → String, ∃ lookup : String → String,
        ∀ type : QualifiedType, type.IsReadable →
          (TypePrinter.ofTypes fun printed =>
            lookup printed.spelling).printType type =
              printType type := by
  refine ⟨?unique, ?lookup⟩
  case unique =>
    intro left right leftReadable rightReadable
    exact QualifiedType.spelling_injOn.eq_iff leftReadable rightReadable
  case lookup =>
    intro printType
    have someType : Nonempty QualifiedType := ⟨.void⟩
    let readBack :=
      Function.invFunOn QualifiedType.spelling {type | type.IsReadable}
    have reads : ∀ type : QualifiedType, type.IsReadable →
        readBack type.spelling = type :=
      fun _ readable => QualifiedType.spelling_injOn.leftInvOn_invFunOn readable
    exact ⟨fun spelling => printType (readBack spelling),
      fun type readable => congrArg printType (reads type readable)⟩

/-- A reference to a reference that is `const`. -/
def lastingPoint : QualifiedType :=
  (QualifiedType.tag "gfx::Point").asConst.referenceTo.asConst.referenceTo

def movedPoint : QualifiedType :=
  (QualifiedType.tag "gfx::Point").asConst.rvalueReferenceTo.asConst

/-- A printer by spelling tells apart two types with overlapping marks. -/
theorem spelling_determines_references_to_point :
    (lastingPoint.IsReadable ∧ movedPoint.IsReadable) ∧
      lastingPoint.spelling = "const gfx::Point& const&" ∧
      movedPoint.spelling = "const gfx::Point&& const" ∧
      lastingPoint.spelling ≠ movedPoint.spelling ∧
      ∃ lookup : String → String,
        lookup lastingPoint.spelling = "lasting" ∧
          lookup movedPoint.spelling = "moved" := by
  have notBuiltin (primitive : Primitive) :
      "gfx::Point" ≠ primitive.spelling := by
    cases primitive <;> decide
  have plain : IsPlainName "gfx::Point" :=
    ⟨by decide, by decide, notBuiltin⟩
  have lastingReadable : lastingPoint.IsReadable :=
    ⟨⟨plain, by decide⟩, by decide⟩
  have movedReadable : movedPoint.IsReadable := ⟨plain, by decide⟩
  have different : lastingPoint ≠ movedPoint := by
    decide
  obtain ⟨unique, lookups⟩ := spelling_determines_readable_type
  obtain ⟨lookup, prints⟩ :=
    lookups fun type => if type = lastingPoint then "lasting" else "moved"
  refine ⟨⟨lastingReadable, movedReadable⟩, by decide, by decide, ?_,
    lookup, ?_, ?_⟩
  · exact mt (unique _ _ lastingReadable movedReadable).mp different
  · exact (prints lastingPoint lastingReadable).trans (if_pos rfl)
  · exact (prints movedPoint movedReadable).trans (if_neg different.symm)

/-- A reference to a reference takes the mark of another type. -/
example :
    (QualifiedType.builtin .int).referenceTo.referenceTo.spelling =
      (QualifiedType.builtin .int).rvalueReferenceTo.spelling := by
  decide

end ManagedBinding
