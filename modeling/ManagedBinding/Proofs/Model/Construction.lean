import ManagedBinding.Model.Declaration
import Mathlib.Data.List.Basic

/-!
# Construction by calls

A record of the model is built by calls, one after another.  Each call addresses
one part of the record, and there are three kinds of parts: the argument of a
call replaces what was there, a flag is set for good, or a list grows at its
end.

This module says once what all records have in common.  What a list of calls
leaves is found part by part, from the calls that address the part.  If that
holds of no call, of one call and of two lists in a row, it holds of every run,
and the order of calls on different parts does not matter.  The first record
with calls of its own is the declaration, which all the others contain.
-/

namespace ManagedBinding

/-- What a call may address. -/
inductive RecordPart
  | scopes
  | access
  | ignored
  | comment
  | kind
  | conversion
  | isStatic
  | parameters
  | isValueType
  | methods
  | fields
  | events
  deriving DecidableEq, Repr

section Calls

variable {ρ κ τ : Type}

/-- The calls that address a part, in order. -/
def addressing
    (part : κ → RecordPart) (calls : List κ) (place : RecordPart) : List κ :=
  calls.filter fun call => part call = place

@[simp]
theorem addressing_singleton
    (part : κ → RecordPart) (call : κ) (place : RecordPart) :
    addressing part [call] place = if part call = place then [call] else [] := by
  by_cases here : part call = place
  · simp [addressing, here]
  · simp [addressing, here]

theorem addressing_append
    (part : κ → RecordPart) (calls later : List κ) :
    addressing part (calls ++ later) =
      fun place => addressing part calls place ++ addressing part later place :=
  funext fun _ => List.filter_append calls later

/-- The same calls on every part, in the same order.  The order between calls
on different parts is free. -/
def Reordering (part : κ → RecordPart) (calls others : List κ) : Prop :=
  ∀ place, addressing part calls place = addressing part others place

/-- Neighbours on different parts may change places. -/
theorem Reordering.exchange
    {part : κ → RecordPart} {call other : κ} (apart : part call ≠ part other)
    (before after : List κ) :
    Reordering part (before ++ call :: other :: after)
      (before ++ other :: call :: after) := by
  intro place
  by_cases here : part call = place
  · have otherElsewhere : part other ≠ place := here ▸ apart.symm
    simp [addressing, here, otherElsewhere]
  · simp [addressing, List.filter_cons, here]

/-- What calls leave in a part that they replace: what the last of them gives,
or else what was there before. -/
def lastGiven (given? : κ → Option τ) (before : τ) (calls : List κ) : τ :=
  (calls.filterMap given?).getLastD before

@[simp]
theorem lastGiven_nil (given? : κ → Option τ) (before : τ) :
    lastGiven given? before [] = before :=
  rfl

@[simp]
theorem lastGiven_singleton
    (given? : κ → Option τ) (before : τ) (call : κ) :
    lastGiven given? before [call] = (given? call).getD before := by
  cases given : given? call with
  | none => simp [lastGiven, given]
  | some content => simp [lastGiven, given]

@[simp]
theorem lastGiven_append
    (given? : κ → Option τ) (before : τ) (calls later : List κ) :
    lastGiven given? before (calls ++ later) =
      lastGiven given? (lastGiven given? before calls) later := by
  simp only [lastGiven, List.filterMap_append, List.getLastD_eq_getLast?,
    List.getLast?_append, Option.getD_or]

/-- Only the calls on the part give something to it. -/
theorem lastGiven_addressing
    {part : κ → RecordPart} {place : RecordPart} {given? : κ → Option τ}
    (elsewhere : ∀ call, part call ≠ place → given? call = none)
    (before : τ) (calls : List κ) :
    lastGiven given? before (addressing part calls place) =
      lastGiven given? before calls := by
  have sameGiven :
      (addressing part calls place).filterMap given? =
        calls.filterMap given? := by
    rw [addressing, List.filterMap_filter]
    apply List.filterMap_congr
    intro call _
    by_cases here : part call = place
    · simp [here]
    · simp [here, elsewhere call here]
  rw [lastGiven, lastGiven, sameGiven]

/-- The outcome is found from the calls on each part, and it is the one of the
calls in a row. -/
structure Accumulates
    (perform : ρ → κ → ρ) (part : κ → RecordPart)
    (outcome : ρ → (RecordPart → List κ) → ρ) : Prop where
  nil : ∀ start, outcome start (fun _ => []) = start
  singleton : ∀ start call,
    outcome start (addressing part [call]) = perform start call
  append : ∀ start callsOn laterOn,
    outcome start (fun place => callsOn place ++ laterOn place) =
      outcome (outcome start callsOn) laterOn

/-- A run leaves the outcome, whatever its start.  Only the order of calls on
the same part matters: calls that are reordered between parts leave the same,
and neighbours on different parts may change places. -/
structure KeepsToParts
    (perform : ρ → κ → ρ) (part : κ → RecordPart)
    (outcome : ρ → (RecordPart → List κ) → ρ) : Prop where
  run : ∀ start calls,
    calls.foldl perform start = outcome start (addressing part calls)
  reordered : ∀ start calls others, Reordering part calls others →
    calls.foldl perform start = others.foldl perform start
  exchanged : ∀ start before call other after, part call ≠ part other →
    (before ++ call :: other :: after).foldl perform start =
      (before ++ other :: call :: after).foldl perform start

section Runs

variable
  {perform : ρ → κ → ρ} {part : κ → RecordPart}
  {outcome : ρ → (RecordPart → List κ) → ρ}
  (accumulates : Accumulates perform part outcome)
include accumulates

theorem Accumulates.foldl_eq (start : ρ) (calls : List κ) :
    calls.foldl perform start = outcome start (addressing part calls) := by
  induction calls generalizing start with
  | nil => exact (accumulates.nil start).symm
  | cons call rest inductionHypothesis =>
      -- The first call is a list of its own in front of the rest.
      calc
        (call :: rest).foldl perform start
        _ = outcome (perform start call) (addressing part rest) :=
          inductionHypothesis (perform start call)
        _ = outcome (outcome start (addressing part [call]))
              (addressing part rest) := by
          rw [accumulates.singleton]
        _ = outcome start (addressing part ([call] ++ rest)) := by
          rw [addressing_append, accumulates.append]

theorem Accumulates.keepsToParts : KeepsToParts perform part outcome := by
  have reordered (start : ρ) (calls others : List κ)
      (same : Reordering part calls others) :
      calls.foldl perform start = others.foldl perform start := by
    rw [accumulates.foldl_eq, accumulates.foldl_eq]
    exact congrArg (outcome start) (funext same)
  refine ⟨accumulates.foldl_eq, reordered, ?exchanged⟩
  case exchanged =>
    intro start before call other after apart
    exact reordered start _ _ (Reordering.exchange apart before after)

end Runs

end Calls

/-- A call that changes a declaration under construction. -/
inductive DeclarationCall
  | withScopes (scopes : List String)
  | withAccess (access : Access)
  | withComment (comment : String)
  | markIgnored
  deriving DecidableEq, Repr

namespace DeclarationCall

def perform (declaration : Declaration) : DeclarationCall → Declaration
  | .withScopes scopes => declaration.withScopes scopes
  | .withAccess access => declaration.withAccess access
  | .withComment comment => declaration.withComment comment
  | .markIgnored => declaration.markIgnored

/-- The part that the call addresses. -/
def part : DeclarationCall → RecordPart
  | .withScopes _ => .scopes
  | .withAccess _ => .access
  | .withComment _ => .comment
  | .markIgnored => .ignored

def scopes? : DeclarationCall → Option (List String)
  | .withScopes scopes => some scopes
  | _ => none

def access? : DeclarationCall → Option Access
  | .withAccess access => some access
  | _ => none

/-- The comment that the call gives, in the form in which a declaration holds
it. -/
def comment? : DeclarationCall → Option (Option String)
  | .withComment comment => some (some comment)
  | _ => none

/-- What the calls on each part leave of a declaration. -/
def outcome (start : Declaration)
    (callsOn : RecordPart → List DeclarationCall) : Declaration where
  name := start.name
  scopes := lastGiven scopes? start.scopes (callsOn .scopes)
  access := lastGiven access? start.access (callsOn .access)
  ignored := start.ignored || (callsOn .ignored).contains .markIgnored
  comment := lastGiven comment? start.comment (callsOn .comment)

@[simp]
theorem outcome_nil (start : Declaration) :
    outcome start (fun _ => []) = start := by
  simp [outcome]

theorem outcome_singleton (start : Declaration) (call : DeclarationCall) :
    outcome start (addressing part [call]) = perform start call := by
  cases call with
  | withScopes scopes =>
      simp [outcome, part, scopes?, perform, Declaration.withScopes]
  | withAccess access =>
      simp [outcome, part, access?, perform, Declaration.withAccess]
  | withComment comment =>
      simp [outcome, part, comment?, perform, Declaration.withComment]
  | markIgnored =>
      simp [outcome, part, perform, Declaration.markIgnored]

@[simp]
theorem outcome_append
    (start : Declaration) (callsOn laterOn : RecordPart → List DeclarationCall) :
    outcome start (fun place => callsOn place ++ laterOn place) =
      outcome (outcome start callsOn) laterOn := by
  simp [outcome, Bool.or_assoc]

theorem accumulates : Accumulates perform part outcome :=
  ⟨outcome_nil, outcome_singleton, outcome_append⟩

/-- One call on a record leaves of its declaration what the call that it passes
on makes of it, provided that both address the same part. -/
theorem outcome_passed
    {κ : Type} {partOf : κ → RecordPart} {pass? : κ → Option DeclarationCall}
    {call : κ}
    (keepsPart : ∀ passed, pass? call = some passed →
      passed.part = partOf call)
    (start : Declaration) :
    outcome start
        (fun place => (addressing partOf [call] place).filterMap pass?) =
      (pass? call).elim start (perform start) := by
  cases passes : pass? call with
  | none =>
      have nothing (place : RecordPart) :
          (addressing partOf [call] place).filterMap pass? = [] := by
        by_cases here : partOf call = place
        · simp [here, passes]
        · simp [here]
      simp only [nothing]
      exact outcome_nil start
  | some passed =>
      have passedOn (place : RecordPart) :
          (addressing partOf [call] place).filterMap pass? =
            addressing part [passed] place := by
        rw [addressing_singleton, addressing_singleton,
          keepsPart passed passes]
        by_cases here : partOf call = place
        · simp [here, passes]
        · simp [here]
      simp only [passedOn]
      exact outcome_singleton start passed

end DeclarationCall

end ManagedBinding
