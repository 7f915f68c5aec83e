import CommandFlow.Condition
import CommandFlow.Schema.Reader

/-!
# Settings

* `Settings` : how the service is run;
* `Settings.read` : settings from named values; `Settings.ofEnvironment` : from environment variables;
* `Settings.missingCredentials` : the variables that the chat platform needs and that are empty;
* `Settings.describe` : the settings in words, without the token.
-/

namespace CommandFlow

open Schema

inductive Environment where
  | development
  | testing
  | production
  deriving DecidableEq

namespace Environment

def all : List Environment := [development, testing, production]

def name : Environment → String
  | development => "dev"
  | testing => "test"
  | production => "prod"

def ofName? (s : String) : Option Environment := all.find? (·.name = s)

theorem ofName?_name (e : Environment) : ofName? e.name = some e := by
  cases e <;> decide

end Environment

def environments : Vocabulary :=
  ⟨Environment, Environment.name, Environment.ofName?, Environment.ofName?_name⟩

structure Settings where
  environment : Environment
  serviceName : String
  logLevel : String
  host : String
  port : Int
  databaseUrl : String
  chatUrl : String
  applicationId : String
  botToken : String
  publicKey : String
  /-- The seconds that a run may take. -/
  timeLimit : Binary64
  /-- The longest delay of a simulation, in milliseconds. -/
  delayCap : Int
  /-- The most nodes that a run may visit. -/
  visitLimit : Int
  /-- The seconds between two looks for a reply. -/
  pollInterval : Binary64

/-- The settings by name, with what holds where nothing is given. -/
def settingsFields : Fields :=
  .cons "env" [] (.word environments .choice) (some (.text "dev")) <|
  .cons "service_name" [] .text (some (.text "botgraph")) <|
  .cons "log_level" [] .text (some (.text "INFO")) <|
  .cons "api_host" [] .text (some (.text "0.0.0.0")) <|
  .cons "api_port" [] .integer (some (.int 8080)) <|
  .cons "database_url" [] .text (some (.text "sqlite+aiosqlite:///./botgraph.db")) <|
  .cons "discord_api_base_url" [] .text (some (.text "https://discord.com/api/v10")) <|
  .cons "discord_application_id" [] .text (some (.text "")) <|
  .cons "discord_bot_token" [] .text (some (.text "")) <|
  .cons "discord_public_key" [] .text (some (.text "")) <|
  .cons "execution_timeout_seconds" [] .number (some (.int 5)) <|
  .cons "simulation_delay_cap_ms" [] .integer (some (.int 100)) <|
  .cons "max_node_visits" [] .integer (some (.int 1000)) <|
  .cons "await_reply_poll_seconds" [] .number (some (.int 1)) .nil

namespace Settings

def ofContent : settingsFields.Carrier → Settings
  | (environment, serviceName, logLevel, host, port, databaseUrl, chatUrl, applicationId, botToken,
      publicKey, timeLimit, delayCap, visitLimit, pollInterval, ()) =>
    { environment, serviceName, logLevel, host, port, databaseUrl, chatUrl, applicationId, botToken,
      publicKey, timeLimit, delayCap, visitLimit, pollInterval }

def read (values : Entries Value) : Checked Settings :=
  (settingsFields.read .store values).map ofContent

/-- The settings of a service for which nothing is set. -/
def usual : Settings where
  environment := .development
  serviceName := "botgraph"
  logLevel := "INFO"
  host := "0.0.0.0"
  port := 8080
  databaseUrl := "sqlite+aiosqlite:///./botgraph.db"
  chatUrl := "https://discord.com/api/v10"
  applicationId := ""
  botToken := ""
  publicKey := ""
  timeLimit := .ofInt 5
  delayCap := 100
  visitLimit := 1000
  pollInterval := .ofInt 1

/-! ## Environment variables -/

def variableStart : String := "botgraph_"

/-- A character in lower case; the Kelvin sign is a K. -/
def lowerChar (c : Char) : Char := if c = '\u212A' then 'k' else c.toLower

def settingName? (variableName : String) : Option String :=
  let cs := variableName.toList.map lowerChar
  if variableStart.toList.isPrefixOf cs then some (String.ofList (cs.drop variableStart.length))
  else none

/-- Settings from environment variables. The case of their names does not count, and of two variables of
one name the later one does. -/
def ofEnvironment (bindings : Entries String) : Checked Settings :=
  read (Entries.ofPairs (bindings.filterMap fun (name, value) =>
    (settingName? name).map fun setting => (setting, Value.text value)))

/-! ## Credentials -/

/-- The variables that the chat platform needs and that are empty. -/
def missingCredentials (settings : Settings) : List String :=
  ([("BOTGRAPH_DISCORD_APPLICATION_ID", settings.applicationId),
    ("BOTGRAPH_DISCORD_BOT_TOKEN", settings.botToken),
    ("BOTGRAPH_DISCORD_PUBLIC_KEY", settings.publicKey)].filter (·.2.isEmpty)).map (·.1)

def missingMessage (names : List String) : String :=
  "Missing required configuration: " ++ ", ".intercalate names

/-! ## Views -/

def members (settings : Settings) : Entries Value :=
  [("env", .text settings.environment.name), ("service_name", .text settings.serviceName),
    ("log_level", .text settings.logLevel), ("api_host", .text settings.host),
    ("api_port", .int settings.port), ("database_url", .text settings.databaseUrl),
    ("discord_api_base_url", .text settings.chatUrl),
    ("discord_application_id", .text settings.applicationId),
    ("discord_bot_token", .text settings.botToken),
    ("discord_public_key", .text settings.publicKey),
    ("execution_timeout_seconds", .float settings.timeLimit),
    ("simulation_delay_cap_ms", .int settings.delayCap),
    ("max_node_visits", .int settings.visitLimit),
    ("await_reply_poll_seconds", .float settings.pollInterval)]

def secretName : String := "discord_bot_token"

/-- The settings in words, without the token. -/
def describe (settings : Settings) : String :=
  let shown := settings.members.filter fun member => member.1 != secretName
  "Settings(" ++ ", ".intercalate (shown.map fun (name, v) => name ++ "=" ++ v.literal) ++ ")"

end Settings

structure Server where
  title : String
  version : String
  host : String
  port : Int

def Settings.server (settings : Settings) : Server :=
  ⟨"botgraph", "0.1.0", settings.host, settings.port⟩

end CommandFlow
