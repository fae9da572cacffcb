import Vicinity.Table

/-! # Environment variables -/

namespace Vicinity

/-- The variables that are set, each with its value. -/
abbrev Environment := Table String String

end Vicinity
