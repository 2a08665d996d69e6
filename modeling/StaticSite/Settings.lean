import StaticSite.Number.Numeral
import StaticSite.Page.Source
import StaticSite.Storage.Session
import StaticSite.Text.Uppercase

/-!
Contract: the settings of the service.

Owns:
- the names and defaults of the settings in the environment;
- the options with which the service compiles.

Does not own: reading the environment of the process.
-/

namespace StaticSite

/-- The settings of the service. -/
structure Settings where
  storage : Storage.Account
  compileWorkers : Int
  environment : String
  logLevel : String
  publicUrl : String
  apiBaseUrl : String

namespace Settings

/-- The variables of an environment with their values. -/
abbrev Variables := List (String × String)

/-- The value of a variable, or else a default. -/
def valueOr (values : Variables) (name default : String) : String :=
  (values.lookup name).getD default

/-- The number of workers unless a whole number is set. -/
def defaultWorkers : Int := 4

/-- The largest number of digits of a number in the environment. -/
def digitLimit : Nat := 4300

def developmentEnvironment : String := "development"

def defaultPublicUrl (environment : String) : String :=
  if environment == developmentEnvironment then "http://localhost:8000"
  else "https://sites.example.com"

/-- The public address without slashes at its end. -/
def publicUrlOf (values : Variables) (environment : String) : String :=
  match Text.nonempty? (values.lookup "PUBLIC_URL") with
  | some address => Text.stripTrailing '/' address
  | none => defaultPublicUrl environment

/-- The account that holds the published files. -/
def storageOf (values : Variables) : Storage.Account :=
  { endpoint := valueOr values "R2_ENDPOINT" ""
    accessKey := valueOr values "R2_ACCESS_KEY" ""
    secretKey := valueOr values "R2_SECRET_KEY" ""
    bucketName := valueOr values "R2_PUBLISHED_BUCKET" "sites-published" }

def ofEnvironment (values : Variables) : Settings :=
  let environment := valueOr values "ENVIRONMENT" developmentEnvironment
  let publicUrl := publicUrlOf values environment
  { storage := storageOf values
    compileWorkers :=
      (Number.integer? digitLimit (valueOr values "COMPILE_MAX_WORKERS" "")).getD
        defaultWorkers
    environment := environment
    logLevel := Text.uppercase (valueOr values "LOG_LEVEL" "INFO")
    publicUrl := publicUrl
    apiBaseUrl :=
      Text.stripTrailing '/' (Text.firstOf [values.lookup "API_BASE_URL"] publicUrl) }

/-- The number of pages that may be compiled at once, at least one.  The compiled
site does not depend on it. -/
def workers (settings : Settings) : Int :=
  max 1 settings.compileWorkers

def options (settings : Settings) : Options :=
  { baseUrl := settings.publicUrl
    apiBaseUrl := some settings.apiBaseUrl }

end Settings

end StaticSite
