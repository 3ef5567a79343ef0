import PenPlotter.AddressReader
import PenPlotter.RecordFormat
import PenPlotter.Template

/-!
# What the program is built on

Templates, settings files and addresses are each read by rules that are not the program's own.  The
program is written over any `Libraries` that know these rules.
-/

namespace PenPlotter

/-- A template language, a notation for settings and a reader of addresses. -/
structure Libraries where
  templates : TemplateEngine
  records : RecordFormat
  addresses : AddressReader

end PenPlotter
