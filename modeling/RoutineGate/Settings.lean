import RoutineGate.Fault
import RoutineGate.Text.Blank
import RoutineGate.Text.LetterCase
import RoutineGate.Text.Split

/-!
# Settings

The environment of an application says where its database is, which procedures it serves,
where its hooks and validators are, and how tokens are checked.  What the environment does
not say has a default.
-/

namespace RoutineGate

/-- What an application is set up with. -/
structure Settings where
  host : String := "localhost"
  port : Int := 3306
  user : String := "root"
  password : String := ""
  database : String := ""
  /-- How many connections may be open. -/
  poolSize : Int := 10
  /-- What the names of served procedures start with. -/
  start : String := "api_"
  hooksDirectory : Option String := some "hooks"
  validatorsDirectory : Option String := some "validators"
  secret : Option String := none
  /-- The accepted algorithms of tokens. -/
  algorithms : List String := ["HS256"]
  /-- Whether documentation that cannot be read is an error. -/
  isStrict : Bool := true
  /-- The least level of the messages that are logged. -/
  logLevel : String := "INFO"
  deriving DecidableEq, Repr

namespace Settings

/-- The words that switch a setting on. -/
def onWords : List String := ["1", "true", "yes", "on"]

/-- Whether a text switches a setting on. -/
def isOn (content : String) : Bool :=
  onWords.contains (Text.lower (Text.trimmed content))

/-- A text, unless it is empty. -/
def nonEmpty? (content : String) : Option String :=
  if content.isEmpty then none else some content

/-- The items of a list between commas; empty ones do not count. -/
def items (content : String) : List String :=
  ((Text.splitAt ',' content.toList).map fun piece => String.ofList (Text.trim piece)).filter
    fun item => !item.isEmpty

/-- The items of a list, or other ones if it has none. -/
def itemsOr (content : String) (other : List String) : List String :=
  match items content with
  | [] => other
  | found => found

def readInteger (content : String) : Except Fault Int :=
  (Number.readInteger content).mapError .integer

/-- The settings that an environment tells. -/
def ofEnvironment (environment : List (String × String)) : Except Fault Settings := do
  let setting (name default : String) : String := (environment.lookup name).getD default
  let port ← readInteger (setting "DB_PORT" "3306")
  let poolSize ← readInteger (setting "DB_POOL_SIZE" "10")
  return {
    host := setting "DB_HOST" "localhost"
    port
    user := setting "DB_USER" "root"
    password := setting "DB_PASS" ""
    database := setting "DB_NAME" ""
    poolSize
    start := setting "PROC_PREFIX" "api_"
    hooksDirectory := nonEmpty? (setting "HOOKS_DIR" "hooks")
    validatorsDirectory := nonEmpty? (setting "VALIDATORS_DIR" "validators")
    secret := nonEmpty? (setting "JWT_SECRET" "")
    algorithms := itemsOr (setting "JWT_ALGORITHMS" "") ["HS256"]
    isStrict := isOn (setting "STRICT_METADATA" "true")
    logLevel :=
      (nonEmpty? (Text.upper (Text.trimmed (setting "LOG_LEVEL" "INFO")))).getD "INFO"
  }

end Settings
end RoutineGate
