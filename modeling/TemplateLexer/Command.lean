import TemplateLexer.Command.Basic
import TemplateLexer.Output.Drawing

/-!
# The command line with its drawing

The commands draw reports as `Report.draw` does.
-/

namespace TemplateLexer.Command

/-- Runs the command that the arguments begin with. -/
def run : Environment → List Text → Except Fault Result := runWith Report.draw

end TemplateLexer.Command
