/-
Profiles: names of the variants of a configuration.
-/

import BotHost.Text.Blank
import BotHost.Text.Lowercase

namespace BotHost

/-- The name of a profile, in lower case. -/
structure Profile where
  name : String
deriving DecidableEq, Repr

namespace Profile

def development : Profile := ⟨"development"⟩
def production : Profile := ⟨"production"⟩

/-- The profile that a written name stands for. Blanks around it and case do not count, and the two
standard profiles have short names. -/
def ofName (written : String) : Profile :=
  let name := Text.lowercase (String.ofList (Text.trimBlank written.toList))
  if name = "" ∨ name = "dev" then development
  else if name = "prod" then production
  else ⟨name⟩

end Profile

end BotHost
