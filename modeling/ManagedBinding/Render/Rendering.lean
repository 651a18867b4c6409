import ManagedBinding.Include
import ManagedBinding.Options.Basic
import ManagedBinding.Render.IndentedText
import ManagedBinding.Render.LogEvent
import ManagedBinding.Render.TypePrinter
import ManagedBinding.Text.Wrap

/-!
Rendering one compilation unit. A `RenderJob` says what is rendered and never
changes; a `Rendering` is what has been produced so far. A hook, if one is
attached, replaces the preamble and writes what follows the opened
namespaces.
-/

namespace ManagedBinding

/-- The unit to render, under which options, with which spelling of types, and
the extension of the file to write. -/
structure RenderJob where
  unit : CompilationUnit
  options : Options
  printer : TypePrinter
  extension : String

/-- A rendering in progress: the attached hook of type `η`, the output, the
includes that it depends on, and the log. -/
structure Rendering (η : Type) where
  hook : Option η
  output : IndentedText
  includes : IncludeSet
  log : List LogEvent

/-- A finished file: the unit that it wraps, its extension, its text, and the
includes that the text depends on. -/
structure RenderedUnit where
  unit : String
  extension : String
  body : String
  includes : IncludeSet
  deriving DecidableEq

/-- What a hook does at the points of the output where it takes over. -/
class Hook (η : Type) where
  name : η → String
  onStart : η → RenderJob → Rendering η → Rendering η
  onAfterNamespaces : η → RenderJob → Rendering η → Rendering η

namespace Rendering

variable {η : Type}

/-- Nothing written yet, with a hook or without one. -/
def start (hook : Option η) : Rendering η :=
  ⟨hook, .empty .standard, .empty, []⟩

/-- Attach a hook, or detach the one that is attached. -/
def setHook (rendering : Rendering η) (hook : Option η) : Rendering η :=
  { rendering with hook := hook }

def hasHook (rendering : Rendering η) : Bool := rendering.hook.isSome

def report (rendering : Rendering η) (event : LogEvent) : Rendering η :=
  { rendering with log := rendering.log ++ [event] }

def write (rendering : Rendering η) (text : String) : Rendering η :=
  { rendering with output := rendering.output.write text }

def writeLine (rendering : Rendering η) (text : String) : Rendering η :=
  { rendering with output := rendering.output.writeLine text }

def writeLines (rendering : Rendering η) (lines : List String) :
    Rendering η :=
  lines.foldl writeLine rendering

def newLine (rendering : Rendering η) : Rendering η :=
  { rendering with output := rendering.output.newLine }

def pushIndent (rendering : Rendering η) : Rendering η :=
  { rendering with output := rendering.output.pushIndent }

def popIndent (rendering : Rendering η) : Rendering η :=
  { rendering with output := rendering.output.popIndent }

def addInclude (rendering : Rendering η) (item : Include) :
    Rendering η :=
  { rendering with includes := rendering.includes.insert item }

/-- The columns of a line with its indentation, for wrapped comments. -/
def maxLineWidth : Nat := 80

/-- The mark in front of every line of a comment. -/
def commentMark : String := "/// "

/-- A line of a comment, without blanks at its end. -/
def commentLine (line : String) : String :=
  String.ofList (Text.trimEnd (commentMark ++ line).toList)

/-- The columns left for the text of a comment. -/
def commentWidth (rendering : Rendering η) : Nat :=
  maxLineWidth - rendering.output.indentWidth - commentMark.length

/-- A comment as a block, wrapped to the columns that are left. A blank
comment writes nothing. -/
def writeSummary (rendering : Rendering η) (comment : String) :
    Rendering η :=
  if Text.isBlank comment then
    rendering
  else
    let body := Text.wrap rendering.commentWidth comment
    rendering.writeLines <|
      ["/// <summary>"] ++ body.map commentLine ++ ["/// </summary>"]

/-- A comment on one line, as it is. A blank comment writes nothing. -/
def writeInlineSummary (rendering : Rendering η) (comment : String) :
    Rendering η :=
  if Text.isBlank comment then
    rendering
  else
    rendering.writeLine ("/// <summary> " ++ comment ++ " </summary>")

/-- Whether a method belongs in the output; a reason against it is
reported. -/
def admitsMethod
    (rendering : Rendering η) (owner : Class) (method : Method) :
    Bool × Rendering η :=
  match method.exclusion? owner with
  | none => (true, rendering)
  | some reason =>
      (false, rendering.report <|
        .skippingMethod owner.declaration.qualifiedName method.name reason)

/-- Whether a field belongs in the output; a reason against it is
reported. -/
def admitsField
    (rendering : Rendering η) (owner : Class) (field : Field) :
    Bool × Rendering η :=
  match field.exclusion? with
  | none => (true, rendering)
  | some reason =>
      (false, rendering.report <|
        .skippingField owner.declaration.qualifiedName field.name reason)

end Rendering

namespace RenderJob

variable {η : Type}

/-- The lines at the top of every generated file. -/
def banner : List String :=
  ["//" ++ "".pushn '-' 76,
    "// This is autogenerated code by bindweave.",
    "// Do not edit this file or all your changes will be lost after re-generation.",
    "//" ++ "".pushn '-' 76]

/-- The extension of native source files, which need the interop helpers. -/
def nativeSourceExtension : String := "cpp"

/-- The line that brings in the interop helpers. -/
def interopInclude : String :=
  "#include \"../interop.h\"          // marshalString"

/-- The lines of the preamble without a hook. -/
def preamble (job : RenderJob) : List String :=
  if job.extension = nativeSourceExtension then
    banner ++ [interopInclude]
  else
    banner

/-- Write the preamble of the file: what the hook writes, or else the banner,
with the interop helpers in a native source file. -/
def writeStart [Hook η] (job : RenderJob) (rendering : Rendering η) :
    Rendering η :=
  match rendering.hook with
  | some hook =>
      Hook.onStart hook job <|
        rendering.report <|
          .delegatingStart job.unit.fileName (Hook.name hook)
  | none => rendering.writeLines job.preamble

/-- Write what follows the opened namespaces; only a hook writes anything
here. -/
def writeAfterNamespaces [Hook η]
    (job : RenderJob) (rendering : Rendering η) : Rendering η :=
  match rendering.hook with
  | some hook =>
      Hook.onAfterNamespaces hook job <|
        rendering.report <|
          .delegatingAfterNamespaces job.unit.fileName (Hook.name hook)
  | none => rendering

/-- Hand over what has been written. -/
def finish (job : RenderJob) (rendering : Rendering η) : RenderedUnit where
  unit := job.unit.fileName
  extension := job.extension
  body := rendering.output.text
  includes := rendering.includes

end RenderJob

end ManagedBinding
