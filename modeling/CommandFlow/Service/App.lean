import CommandFlow.Service.Bot
import CommandFlow.Service.Session
import CommandFlow.Service.Tasks

/-!
# The service

* `App` : the settings, the bot, the store and the outside world;
* `App.begin` : a service that begins with an empty store;
* `App.catalogue`, `App.records` : the store, if it answers;
* `App.perform`, `App.performAll` : operations for guilds, one alone or several at the same time;
* `App.invoke`, `App.dispatch`, `App.interrupt` : invocations of commands;
* `App.start`, `App.stop`, `App.restart` : the bot comes and goes.
-/

namespace CommandFlow.Service

/-- The service over a state of the outside world. -/
structure App (σ : Type) where
  settings : Settings
  client : Chat.Client
  web : Web σ
  outage : Outage := .none
  tasks : Tasks := {}
  locks : LockTable := {}
  world : World σ

namespace App

variable {σ : Type}

/-! ## Coming and going -/

/-- The bot starts, unless credentials are missing. -/
def start (app : App σ) : App σ :=
  if app.settings.missingCredentials.isEmpty then { app with tasks := app.tasks.start } else app

def stop (app : App σ) : App σ := { app with tasks := app.tasks.stop }

/-- Another bot takes over, which is not started and knows no names. -/
def restart (app : App σ) : App σ :=
  { app with
    tasks := {}
    locks := {}
    world := { app.world with router := { app.world.router with index := [] } } }

/-- A service begins, at a moment in milliseconds. In production the credentials have to be there, and the
tables of the store are somebody else's task. -/
def begin (settings : Settings) (web : Web σ) (moment : Int) (outside : σ) :
    Except (List String) (App σ) :=
  let isProduction : Bool := settings.environment = .production
  let missing := settings.missingCredentials
  if isProduction && !missing.isEmpty then .error missing
  else .ok (start {
    settings, web
    client := Chat.Client.ofSettings settings moment
    outage := if isProduction then .all else .none
    world := { outside } })

/-- From now on the records of deployments do not answer. -/
def loseRecords (app : App σ) : App σ :=
  if app.outage = .none then { app with outage := .deployments } else app

/-! ## The store -/

def store (app : App σ) : Store := app.world.router.store

def withStore (app : App σ) (store : Store) : App σ :=
  { app with world := { app.world with router := { app.world.router with store } } }

/-- The store, if its part answers. -/
def reach (app : App σ) (area : Area) : Except ServiceFault Store :=
  if app.outage.serves area then .ok app.store else .error .storage

def known (app : App σ) (guild : String) : Option Names := app.world.known guild

/-- Changes the part of the store that holds projects, commands and graphs. -/
def changeCatalogue {α : Type} (app : App σ) (change : Store → α × Store) :
    Except ServiceFault α × App σ :=
  match app.reach .catalogue with
  | .error fault => (.error fault, app)
  | .ok store =>
    let (answer, store) := change store
    (.ok answer, app.withStore store)

/-! ## Operations -/

def gateway (app : App σ) : Gateway σ := Bot.gateway app.outage app.client app.web

def make {α : Type} (app : App σ) (guild : String) (procedure : Procedure α) :
    Except ServiceFault α × App σ :=
  let (answer, world) := procedure.run app.gateway guild app.world
  (answer, { app with world })

def perform (app : App σ) (guild : String) (operation : Operation) :
    Except ServiceFault Answer × App σ :=
  let (answer, world) := operation.perform app.gateway guild app.world
  (answer, { app with world })

/-- Does operations at the same time. -/
def performAll (app : App σ) (tasks : List Task) :
    List (Option (Except ServiceFault Answer)) × App σ :=
  let session : Session σ := { tasks, locks := app.locks, world := app.world }
  let settled := session.settle app.gateway
  (settled.tasks.map Task.answer?, { app with locks := settled.locks, world := settled.world })

/-! ## Invocations -/

/-- Numbers for a run; nothing depends on which. -/
def generator : Generator := .ofSeed 0

def invoke (app : App σ) (invocation : Chat.Invocation) :
    Except ServiceFault (Option Status) × App σ :=
  let interaction : Chat.Interaction := ⟨invocation.interactionId, invocation.token⟩
  let web := Chat.Interaction.web app.web
  let (answer, world) := Bot.handle app.settings (Bot.gateway app.outage app.client web)
    (interaction.platform app.client app.web) invocation generator
    { app.world with outside := { outside := app.world.outside } }
  (answer, { app with world := { world with outside := world.outside.outside } })

def dispatch (app : App σ) (invocation : Chat.Invocation) :
    Except ServiceFault (Option Status) × App σ :=
  let (task, tasks) := app.tasks.dispatch
  let (answer, app) := { app with tasks }.invoke invocation
  (answer, { app with tasks := app.tasks.conclude task })

/-- An invocation begins, and the bot stops: at once, or when the invocation first waits, which it does for
the store. Whether the stop cut the invocation short. -/
def interrupt (app : App σ) (invocation : Chat.Invocation) (atOnce : Bool) : Bool × App σ :=
  if atOnce || Bot.needsStore invocation app.world then
    (true, { app with tasks := app.tasks.dispatch.2 }.stop)
  else (false, (app.dispatch invocation).2.stop)

end App

end CommandFlow.Service
