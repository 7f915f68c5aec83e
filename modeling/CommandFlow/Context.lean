import CommandFlow.Value.Basic

/-!
# The context of an invocation

* `User`, `Place` : who invoked a command, and the guild and the channel where;
* `Context` : those, the options given and the variables set beforehand;
* `Context.initialVariables` : what a run starts with: the options, overwritten by the variables.
-/

namespace CommandFlow

structure User where
  id : String
  username : String := ""
  discriminator : String := "0"

def User.mention (user : User) : String := "<@" ++ user.id ++ ">"

structure Place where
  id : String
  name : String := ""

/-- The context of one invocation. Without a guild it is a direct message. -/
structure Context where
  user : User
  guild : Option Place
  channel : Place
  options : Variables := []
  bindings : Variables := []

namespace Context

/-- The user, guild and channel that stand in where none are given. -/
def standIn : Context where
  user := ⟨"123456789012345678", "TestUser", "0001"⟩
  guild := some ⟨"987654321098765432", "Test Server"⟩
  channel := ⟨"111222333444555666", "general"⟩

/-- The variables that a run starts with: the options, overwritten by the variables set beforehand. -/
def initialVariables (context : Context) : Variables :=
  Entries.merge (Entries.ofPairs context.options) context.bindings

end Context

end CommandFlow
