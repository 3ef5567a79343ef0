import PenPlotter.Libraries
import PenPlotter.Notation.Record
import PenPlotter.Template.Plain
import PenPlotter.Uri

/-!
# The libraries that the program runs with

Plain templates, settings in object notation, and web addresses.
-/

namespace PenPlotter

/-- The libraries that the program runs with. -/
def Libraries.usual : Libraries where
  templates := .plain
  records := .objects
  addresses := Uri.read

end PenPlotter
