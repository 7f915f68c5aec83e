import CommandFlow.Http.Script
import CommandFlow.Run.Web

/-!
# A scripted network

* `Network` : the rules by which requests are answered, the requests made, and the clock;
* `Network.web` : the web that it is.
-/

namespace CommandFlow.Http

/-- The rules by which requests are answered, the requests made, and the clock. -/
structure Network where
  rules : Script := []
  requests : List Request := []
  clock : Clock := {}

namespace Network

def answer (request : Request) (network : Network) : Except Fault Response × Network :=
  let (answer, rules) := Script.answer request network.rules
  (answer, { network with rules, requests := network.requests ++ [request] })

def web (library : Library) : Web Network where
  library
  send := answer
  clock network := network.clock
  setClock clock network := { network with clock }

end Network

end CommandFlow.Http
