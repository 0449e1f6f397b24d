import SwapDesk.Text.Blank

namespace SwapDesk

abbrev Environment := List (String × String)

namespace Environment

def get? (env : Environment) (name : String) : Option String :=
  (env.reverse.find? fun v => v.1 == name).map (·.2)

/-- The trimmed value, unless the variable is absent or blank. -/
def nonBlank? (env : Environment) (name : String) : Option String :=
  (env.get? name).bind Text.nonBlank?

end Environment

end SwapDesk
