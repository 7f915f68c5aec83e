import CommandFlow.Http.Message
import CommandFlow.Run.Clock

/-!
# The web

* `Web` : the library for requests, requests and time, over a state of the outside world;
* `Web.sleep` : lets time pass; `Web.adjust` : changes the clock;
* `Web.timely` : an answer that comes when the time of the run is up is none.
-/

namespace CommandFlow

/-- The library for requests, requests and time, over a state of the outside world. A request may move the clock. -/
structure Web (σ : Type) where
  library : Http.Library
  send : Http.Request → σ → Except Http.Fault Http.Response × σ
  clock : σ → Clock
  setClock : Clock → σ → σ

namespace Web

variable {σ : Type}

def adjust (web : Web σ) (change : Clock → Clock) (outside : σ) : σ :=
  web.setClock (change (web.clock outside)) outside

/-- Lets time pass. -/
def sleep (web : Web σ) (ticks : Nat) (outside : σ) : Reply Unit × σ :=
  let (answer, clock) := (web.clock outside).wait ticks
  (answer, web.setClock clock outside)

/-- An answer to a request, unless the time of the run was up before it came. -/
def timely {α : Type} (web : Web σ) (answer : Reply α × σ) : Reply α × σ :=
  if (web.clock answer.2).isUp then (.expired, answer.2) else answer

end Web

end CommandFlow
