import ArchiveAccounts.Config.Dotenv
import ArchiveAccounts.Data.Counter
import ArchiveAccounts.Text.Decimal
import ArchiveAccounts.Text.Quoted

/-!
# The environment

Variables of a dotenv file over those of the process. A value of the file always wins; a blank value
of the process does not count.
-/

namespace ArchiveAccounts
set_option autoImplicit false

open Text

/-- Why settings cannot be used. -/
inductive ConfigError where
  /-- A variable holds something other than what it is for. -/
  | invalidVariable (key value : String)
  /-- The settings are not written as they should be. -/
  | parse
  deriving DecidableEq, Repr

/-- The error in words. -/
def ConfigError.message : ConfigError → String
  | invalidVariable key value => "invalid value for " ++ key ++ ": " ++ Quoted.quote value
  | parse => "invalid config"

/-- The variables of a dotenv file and of the process. -/
structure Environment where
  dotenv : SortedMap String String := ∅
  process : SortedMap String String := ∅
  deriving DecidableEq

namespace Environment

instance : Inhabited Environment := ⟨{}⟩

/-- The value of a variable. -/
def get? (env : Environment) (key : String) : Option String :=
  (env.dotenv.get? key).or ((env.process.get? key).filter fun value => !allBlank value)

/-- The value of a variable that holds a number, blanks around it aside. -/
def counter? (env : Environment) (key : String) : Except ConfigError (Option Counter) :=
  match env.get? key with
  | none => .ok none
  | some raw =>
    match Decimal.counter? (trimChars raw.toList) with
    | some n => .ok (some n)
    | none => .error (.invalidVariable key raw)

/-- The keys of the dotenv file, without their values. -/
def summary (env : Environment) : String :=
  "Env \x7b dotenv_keys: [" ++ joinWith ", " (env.dotenv.keys.map Quoted.quote) ++ "] \x7d"

end Environment

end ArchiveAccounts
