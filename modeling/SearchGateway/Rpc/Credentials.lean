import SearchGateway.Text.Quoted

/-!
# Credentials of a remote database

The address of a database and the key that opens it. The key is never shown. Both are taken from the
environment where nothing else provides them.
-/

namespace SearchGateway

/-- The variables of an environment. -/
abbrev Variables := List (String × String)

namespace Rpc

/-- Where a database is, and the key to it. -/
structure Credentials where
  url : String
  apiKey : String

namespace Credentials

/-- The credentials for diagnostic output. -/
def describe (c : Credentials) : String :=
  "Credentials \x7b url: " ++ Text.quoted c.url ++ ", api_key: \"<redacted>\" \x7d"

/-- The variable that holds the address. -/
def urlVariable : String := "SUPABASE_URL"

/-- The variable that holds the key. -/
def keyVariable : String := "SUPABASE_SERVICE_ROLE_KEY"

/-- The value of a variable, or the name of the missing variable. -/
def required (env : Variables) (name : String) : Except String String :=
  match env.lookup name with
  | some value => .ok value
  | none => .error name

/-- The credentials that the environment holds, or the name of the first missing variable. -/
def ofVariables (env : Variables) : Except String Credentials := do
  let url ← required env urlVariable
  let apiKey ← required env keyVariable
  return ⟨url, apiKey⟩

/-- The message for a missing variable. -/
def missing (name : String) : String := "Missing environment variable: " ++ name

end Credentials

end Rpc

end SearchGateway
