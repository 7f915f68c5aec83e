import CommandFlow.Http.Script
import CommandFlow.Run.Live

/-!
# Rehearsals

A rehearsal is a platform that answers from a script and records every call.

* `Rehearsal.Script` : the answers; `Rehearsal.Call` : a call as recorded;
* `Rehearsal.World` : the record so far;
* `Rehearsal.platform` : the platform of a script.
-/

namespace CommandFlow.Rehearsal

structure Script where
  /-- The reply that fails, counted from one. -/
  failAt : Option Int := none
  /-- The error of every role change and every wait. -/
  error : Option String := none
  /-- The messages of users. -/
  replies : Entries Value := []
  library : Http.Library := .standIn

inductive Call where
  | respond (payload : Value)
  | followUp (payload : Value)
  | addRole (guildId userId roleId : String)
  | removeRole (guildId userId roleId : String)
  | wait (message : MessageWait)
  | http (request : Http.Request)

def Call.record : Call → Value
  | respond payload => .list [.text "respond", payload]
  | followUp payload => .list [.text "follow_up", payload]
  | addRole guildId userId roleId =>
    .list [.text "add_role", .object (Task.roleParameters guildId userId roleId)]
  | removeRole guildId userId roleId =>
    .list [.text "remove_role", .object (Task.roleParameters guildId userId roleId)]
  | wait message =>
    .list [.text "wait", .object [("channel_id", .text message.channelId),
      ("user_id", .text message.userId), ("timeout_seconds", .float message.timeout),
      ("poll_seconds", .float message.poll)]]
  | http request => .list [.text "http", request.record]

/-- What was recorded, and the state of the interaction. -/
structure World where
  calls : List Call := []
  replies : Nat := 0
  responded : Bool := false
  rules : Http.Script := []
  clock : Clock := {}

def World.note (world : World) (call : Call) : World := { world with calls := world.calls ++ [call] }

def sendFailed : Fault := .action "send failed"

/-- Records a reply, which may be the one that fails. -/
def reply (script : Script) (call : Call) (world : World) : Reply Unit × World :=
  let world := { world.note call with replies := world.replies + 1 }
  if script.failAt = some (world.replies : Int) then (.raised sendFailed, world)
  else (.done (), world)

/-- Records another call, which fails if the script has an error. -/
def answer {α : Type} (script : Script) (call : Call) (a : α) (world : World) : Reply α × World :=
  let world := world.note call
  match script.error with
  | some text => (.raised (.action text), world)
  | none => (.done a, world)

def platform (script : Script) : Platform World where
  library := script.library
  hasResponded world := world.responded
  respond payload world :=
    Run.andThen (reply script (.respond payload) world) fun _ world =>
      (.done (), { world with responded := true })
  followUp payload world := reply script (.followUp payload) world
  addRole guildId userId roleId world :=
    answer script (.addRole guildId userId roleId) () world
  removeRole guildId userId roleId world :=
    answer script (.removeRole guildId userId roleId) () world
  awaitMessage wait world :=
    answer script (.wait wait) ((Entries.get? script.replies wait.userId).getD .null) world
  send request world :=
    let (answer, rules) := Http.Script.answer request world.rules
    (answer, { world.note (.http request) with rules })
  clock world := world.clock
  setClock clock world := { world with clock }

end CommandFlow.Rehearsal
