import ManagedBinding.Eligibility
import ManagedBinding.Json.Basic

/-!
What rendering reports about itself: which unit it renders, which members it
leaves out and why, and when a hook takes over.
-/

namespace ManagedBinding

/-- How much a reader of the log has to care. -/
inductive LogLevel
  | debug
  | trace
  deriving DecidableEq, Repr

def LogLevel.name : LogLevel → String
  | .debug => "DEBUG"
  | .trace => "TRACE"

/-- One entry of the log. -/
inductive LogEvent
  | renderingUnit (unit extension : String) (hasHook : Bool)
  | delegatingStart (unit hook : String)
  | delegatingAfterNamespaces (unit hook : String)
  | skippingMethod (owner method : String) (reason : Exclusion)
  | skippingField (owner field : String) (reason : Exclusion)
  deriving DecidableEq, Repr

namespace LogEvent

/-- Taking over by a hook is traced; all else is for debugging. -/
def level : LogEvent → LogLevel
  | .delegatingStart _ _ => .trace
  | .delegatingAfterNamespaces _ _ => .trace
  | _ => .debug

def message : LogEvent → String
  | .renderingUnit _ _ _ => "rendering unit"
  | .delegatingStart _ _ => "delegating start to transform"
  | .delegatingAfterNamespaces _ _ =>
      "delegating after-namespaces to transform"
  | .skippingMethod _ _ _ => "skipping method"
  | .skippingField _ _ _ => "skipping field"

/-- The named values of an entry. -/
def fields : LogEvent → List (String × Json)
  | .renderingUnit unit extension hasHook =>
      [("unit", .string unit), ("file_extension", .string extension),
        ("transform", .boolean hasHook)]
  | .delegatingStart unit hook =>
      [("unit", .string unit), ("transform", .string hook)]
  | .delegatingAfterNamespaces unit hook =>
      [("unit", .string unit), ("transform", .string hook)]
  | .skippingMethod owner method reason =>
      [("class", .string owner), ("method", .string method),
        ("reason", .string reason.wording)]
  | .skippingField owner field reason =>
      [("class", .string owner), ("field", .string field),
        ("reason", .string reason.wording)]

def toJson (event : LogEvent) : Json :=
  .object <|
    [("level", .string event.level.name),
      ("message", .string event.message)] ++ event.fields

end LogEvent

end ManagedBinding
