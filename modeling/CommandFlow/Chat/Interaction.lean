import CommandFlow.Chat.Client

/-!
# Interactions

* `Interaction` : the identifier and the token of an invocation on the platform;
* `Interaction.World` : the outside world, and whether the interaction has a primary response;
* `Interaction.platform` : the platform of live runs that answer an interaction.
-/

namespace CommandFlow.Chat

/-- The identifier and the token of an invocation on the platform. -/
structure Interaction where
  id : String
  token : String

namespace Interaction

variable {σ : Type}

/-- The outside world, and whether the interaction has a primary response. -/
structure World (σ : Type) where
  responded : Bool := false
  outside : σ

/-- The web of the outside world. -/
def web (web : Web σ) : Web (World σ) where
  library := web.library
  send request world :=
    let (answer, outside) := web.send request world.outside
    (answer, { world with outside })
  clock world := web.clock world.outside
  setClock clock world := { world with outside := web.setClock clock world.outside }

def replied {α : Type} : Except Fault α → Reply α
  | .ok a => .done a
  | .error fault => .raised fault

/-- Makes a call on the outside world, which counts if it is answered in time. -/
def call {α : Type} (web : Web σ) (make : σ → Except Fault α × σ) (world : World σ) :
    Reply α × World σ :=
  let (answer, outside) := make world.outside
  let (reply, outside) := web.timely (replied answer, outside)
  (reply, { world with outside })

/-- Sends the primary response; there can be only one. -/
def respond (interaction : Interaction) (client : Client) (web : Web σ) (payload : Value)
    (world : World σ) : Reply Unit × World σ :=
  if world.responded then (.raised .alreadyResponded, world)
  else Run.andThen (call web (client.respond web interaction.id interaction.token payload) world)
    fun _ world => (.done (), { world with responded := true })

def followUp (interaction : Interaction) (client : Client) (web : Web σ) (payload : Value)
    (world : World σ) : Reply Unit × World σ :=
  Run.andThen (call web (client.followUp web interaction.token payload) world) fun _ world =>
    (.done (), world)

def platform (interaction : Interaction) (client : Client) (web : Web σ) :
    Platform (World σ) where
  toWeb := Interaction.web web
  hasResponded world := world.responded
  respond := interaction.respond client web
  followUp := interaction.followUp client web
  addRole guildId userId roleId := call web (client.addRole web guildId userId roleId)
  removeRole guildId userId roleId := call web (client.removeRole web guildId userId roleId)
  awaitMessage wait world :=
    let (answer, outside) := web.timely (client.awaitMessage web wait world.outside)
    (answer, { world with outside })

end Interaction

end CommandFlow.Chat
