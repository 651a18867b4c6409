import ManagedBinding.Render.Layout

/-!
The header of a unit: one managed class for every native class, with its
eligible members and its events.
-/

namespace ManagedBinding.Header

variable {η : Type}

/-- Write the comment of a declaration as a block. -/
def writeComment (rendering : Rendering η) (declaration : Declaration) :
    Rendering η :=
  match declaration.comment with
  | some comment => rendering.writeSummary comment
  | none => rendering

/-- Write the comment of a declaration on one line. -/
def writeInlineComment
    (rendering : Rendering η) (declaration : Declaration) : Rendering η :=
  match declaration.comment with
  | some comment => rendering.writeInlineSummary comment
  | none => rendering

/-- The words in front of the parameters of a method: constructors are named
after their class and have no return type. -/
def methodHead (printer : TypePrinter) (owner : Class) (method : Method) :
    String :=
  if method.isConstructor then
    emittedIdentifier owner.name
  else
    printer.printType method.returnType ++ " " ++
      emittedIdentifier method.name

def isStaticMethod (method : Method) : Bool :=
  method.isStatic || method.conversion == .toStaticMethod

def writeMethod
    (printer : TypePrinter) (owner : Class)
    (rendering : Rendering η) (method : Method) : Rendering η :=
  let commented := writeComment rendering method.declaration
  let qualified :=
    if isStaticMethod method then commented.write "static " else commented
  let opened := (qualified.write (methodHead printer owner method)).write "("
  (opened.write (printer.methodParameters method)).writeLine ");"

/-- Write a method if it belongs in the output. -/
def writeEligibleMethod
    (printer : TypePrinter) (owner : Class)
    (rendering : Rendering η) (method : Method) : Rendering η :=
  match rendering.admitsMethod owner method with
  | (true, admitted) => writeMethod printer owner admitted method
  | (false, reported) => reported

def writeField
    (printer : TypePrinter) (rendering : Rendering η) (field : Field) :
    Rendering η :=
  (writeInlineComment rendering field.declaration).writeLine
    (printer.printType field.type ++ " " ++
      emittedIdentifier field.name ++ ";")

/-- Write a field if it belongs in the output. -/
def writeEligibleField
    (printer : TypePrinter) (owner : Class)
    (rendering : Rendering η) (field : Field) : Rendering η :=
  match rendering.admitsField owner field with
  | (true, admitted) => writeField printer admitted field
  | (false, reported) => reported

/-- The type of the handlers of an event. -/
def delegateLine (printer : TypePrinter) (event : Event) : String :=
  "delegate void " ++ emittedIdentifier event.name ++ "Handler(" ++
    printer.parameterList event.handlerParameters ++ ");"

def eventLine (event : Event) : String :=
  let name := emittedIdentifier event.name
  "event " ++ name ++ "Handler^ " ++ name ++ ";"

/-- Write the delegate of an event and the event itself. -/
def writeEvent
    (printer : TypePrinter) (rendering : Rendering η) (event : Event) :
    Rendering η :=
  (writeComment rendering event.declaration).writeLines
    [delegateLine printer event, eventLine event]

/-- The first line of a class. -/
def classHead (owner : Class) : String :=
  "public " ++ (if owner.isValueType then "value struct" else "ref class") ++
    " " ++ emittedIdentifier owner.name

def emittedEvents (owner : Class) : List Event :=
  owner.events.filter fun event => !event.declaration.ignored

/-- Write the members of a class: methods, fields, events. -/
def writeMembers
    (printer : TypePrinter) (rendering : Rendering η) (owner : Class) :
    Rendering η :=
  let afterMethods :=
    owner.methods.foldl (writeEligibleMethod printer owner) rendering
  let afterFields :=
    owner.fields.foldl (writeEligibleField printer owner) afterMethods
  (emittedEvents owner).foldl (writeEvent printer) afterFields

def writeClass
    (printer : TypePrinter) (rendering : Rendering η) (owner : Class) :
    Rendering η :=
  let commented := writeComment rendering owner.declaration
  let opened :=
    commented.writeLines [classHead owner, "\x7b", "public:"]
  let written := writeMembers printer opened.pushIndent owner
  written.popIndent.writeLine "\x7d;"

/-- The classes that are not dropped from the output. -/
def emittedClasses (unit : CompilationUnit) : List Class :=
  unit.classes.filter fun owner => !owner.declaration.ignored

def openNamespace (options : Options) (rendering : Rendering η) :
    Rendering η :=
  match options.libraryNamespace? with
  | some name =>
      (rendering.newLine.writeLines
        ["namespace " ++ name, "\x7b"]).pushIndent
  | none => rendering

def closeNamespace (options : Options) (rendering : Rendering η) :
    Rendering η :=
  match options.libraryNamespace? with
  | some _ => rendering.popIndent.writeLine "\x7d"
  | none => rendering

/-- Write the include of the unit's own native header, behind the includes
that have been recorded before. -/
def writeIncludes (unit : CompilationUnit) (rendering : Rendering η) :
    Rendering η :=
  let recorded := rendering.addInclude ⟨unit.fileName, .quoted⟩
  recorded.write recorded.includes.render

/-- Write the classes, each behind an empty line. -/
def writeClasses (job : RenderJob) (rendering : Rendering η) :
    Rendering η :=
  (emittedClasses job.unit).foldl
    (fun current owner => writeClass job.printer current.newLine owner)
    rendering

def generate [Hook η] (job : RenderJob) (rendering : Rendering η) :
    Rendering η :=
  let started := ((job.writeStart rendering).writeLine "#pragma once").newLine
  let opened :=
    openNamespace job.options (writeIncludes job.unit started)
  let declared := writeClasses job (job.writeAfterNamespaces opened)
  closeNamespace job.options declared

def layout [Hook η] : Layout η := ⟨"h", generate⟩

end ManagedBinding.Header
