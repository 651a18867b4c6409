import ManagedBinding.Render.HookTable

/-!
A layout writes one kind of file for a unit. `renderUnit` runs it with the
hook that is registered for the unit.
-/

namespace ManagedBinding

/-- One kind of output file, by its extension without the dot and the output
it writes. -/
structure Layout (η : Type) where
  extension : String
  generate : RenderJob → Rendering η → Rendering η

/-- Render a unit with a layout. The unit's hook, if there is one, is attached
before the layout runs. -/
def renderUnit {η : Type}
    (layout : Layout η) (unit : CompilationUnit) (options : Options)
    (printer : TypePrinter) (hooks : HookTable η) :
    RenderedUnit × List LogEvent :=
  let job : RenderJob := ⟨unit, options, printer, layout.extension⟩
  let started := Rendering.start (hooks.get? unit.fileName)
  let reported :=
    started.report <|
      .renderingUnit unit.fileName layout.extension started.hasHook
  let finished := layout.generate job reported
  (job.finish finished, finished.log)

end ManagedBinding
