import ManagedBinding.Options.Basic
import ManagedBinding.Proofs.Model.ExclusionRules
import ManagedBinding.Proofs.Render.Listing
import ManagedBinding.Render.TypePrinter
import ManagedBinding.Text.Wrap
import Mathlib.Data.List.DropRight

/-!
# The header as a listing

What a header looks like, without the steps in which it is written.  Every
declaration is one text, every text stands at its depth, and the members of a
class stand one level deeper than the class.  The texts are put together from
the fields of the unit and of the options; all that is shared with the writing
of a header is the wrapping of comments and the printing of types.
-/

namespace ManagedBinding.Header

open Listing (Item)

/-- A line of a comment behind its mark, without blanks at its end. -/
def markedLine (line : String) : String :=
  String.ofList (("/// " ++ line).toList.rdropWhile Text.isBlankChar)

/-- A comment as a block, wrapped to the columns behind the indentation and
the comment mark.  A blank comment has no lines. -/
def summaryItems (depth : Nat) : Option String → List Item
  | none => []
  | some comment =>
      if comment.toList.any fun char => !Text.isBlankChar char then
        let body := Text.wrap (80 - 4 * depth - 4) comment
        (["/// <summary>"] ++ body.map markedLine ++
          ["/// </summary>"]).map fun line => ⟨depth, line⟩
      else
        []

/-- A comment on one line.  A blank comment has no line. -/
def inlineSummaryItems (depth : Nat) : Option String → List Item
  | none => []
  | some comment =>
      if comment.toList.any fun char => !Text.isBlankChar char then
        [⟨depth, "/// <summary> " ++ comment ++ " </summary>"⟩]
      else
        []

/-- The declaration of a method: a constructor is named after its class and
has no return type, and the receiver of a converted function is not shown. -/
def methodText (printer : TypePrinter) (owner : Class) (method : Method) :
    String :=
  let qualifier :=
    if method.isStatic || method.conversion == .toStaticMethod then
      "static "
    else
      ""
  let head :=
    if method.isConstructor then
      owner.name
    else
      printer.printType method.returnType ++ " " ++ method.name
  let shown :=
    if method.conversion = .toInstanceMethod then
      method.parameters.tail
    else
      method.parameters
  qualifier ++ head ++ "(" ++
    ", ".intercalate (shown.map printer.printParameter) ++ ");"

def methodItems
    (printer : TypePrinter) (owner : Class) (depth : Nat)
    (method : Method) : List Item :=
  summaryItems depth method.declaration.comment ++
    [⟨depth, methodText printer owner method⟩]

def fieldItems
    (printer : TypePrinter) (depth : Nat) (field : Field) : List Item :=
  inlineSummaryItems depth field.declaration.comment ++
    [⟨depth, printer.printType field.type ++ " " ++ field.name ++ ";"⟩]

/-- An event is declared by the type of its handlers and by itself.  The
handlers have numbered parameters. -/
def eventItems
    (printer : TypePrinter) (depth : Nat) (event : Event) : List Item :=
  let parameters : List Parameter :=
    event.parameterTypes.zipIdx.map fun numbered =>
      ⟨"_" ++ toString numbered.2, numbered.1⟩
  let shown := parameters.map printer.printParameter
  summaryItems depth event.declaration.comment ++
    [⟨depth, "delegate void " ++ event.name ++ "Handler(" ++
        ", ".intercalate shown ++ ");"⟩,
      ⟨depth, "event " ++ event.name ++ "Handler^ " ++ event.name ++ ";"⟩]

/-- All that stands in front of the members of a class. -/
def classOpening (depth : Nat) (owner : Class) : List Item :=
  let kind := if owner.isValueType then "value struct " else "ref class "
  [⟨depth, ""⟩] ++ summaryItems depth owner.declaration.comment ++
    [⟨depth, "public " ++ kind ++ owner.name⟩, ⟨depth, "\x7b"⟩,
      ⟨depth, "public:"⟩]

/-- The methods and the fields that no rule speaks against, and the events that
are not dropped, in this order. -/
def memberItems
    (printer : TypePrinter) (depth : Nat) (owner : Class) : List Item :=
  (owner.methods.filter fun method =>
      ∀ rule ∈ method.exclusionRules owner, rule.2 = false).flatMap
        (methodItems printer owner depth) ++
    (owner.fields.filter fun field =>
      ∀ rule ∈ field.exclusionRules, rule.2 = false).flatMap
        (fieldItems printer depth) ++
    (owner.events.filter fun event => !event.declaration.ignored).flatMap
      (eventItems printer depth)

def classItems
    (printer : TypePrinter) (depth : Nat) (owner : Class) : List Item :=
  classOpening depth owner ++ memberItems printer (depth + 1) owner ++
    [⟨depth, "\x7d;"⟩]

/-- The lines at the top of a file. -/
def bannerLines : List String :=
  ["//----------------------------------------------------------------------------",
    "// This is autogenerated code by bindweave.",
    "// Do not edit this file or all your changes will be lost after re-generation.",
    "//----------------------------------------------------------------------------"]

/-- The banner, the guard and the include of the native header. -/
def topItems (unit : CompilationUnit) : List Item :=
  (bannerLines ++
    ["#pragma once", "", "#include \"" ++ unit.fileName ++ "\""]).map
    fun line => ⟨0, line⟩

/-- Items inside the library namespace, if there is one. -/
def namespaceItems (options : Options) (inside : List Item) : List Item :=
  if options.generateLibraryNamespace then
    [⟨0, ""⟩, ⟨0, "namespace " ++ options.outputNamespace⟩, ⟨0, "\x7b"⟩] ++
      inside ++ [⟨0, "\x7d"⟩]
  else
    inside

def classDepth (options : Options) : Nat :=
  if options.generateLibraryNamespace then 1 else 0

def headerItems
    (unit : CompilationUnit) (options : Options) (printer : TypePrinter) :
    List Item :=
  let emitted :=
    unit.classes.filter fun owner => !owner.declaration.ignored
  topItems unit ++
    namespaceItems options
      (emitted.flatMap (classItems printer (classDepth options)))

end ManagedBinding.Header
