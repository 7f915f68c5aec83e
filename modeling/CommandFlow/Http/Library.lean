import CommandFlow.Http.Address
import CommandFlow.Json.Octets

/-!
# The library for requests

Requests are made by a library, which also knows how addresses are written and which characters stand in a response.

* `Library` : what is asked of it;
* `Library.standIn` : a stand-in, to which every address is a path.
-/

namespace CommandFlow.Http

/-- What is asked of the library that makes requests. -/
structure Library where
  /-- Reads an address, or says what is wrong with it. -/
  readAddress : String → Except String Address
  /-- The text that the octets of a response are, by its headers. -/
  textOf : Entries String → List UInt8 → String
  /-- How many lists and objects may be open at once in JSON that is read, if there is a bound. -/
  nesting : Option Nat

namespace Library

def reading (library : Library) : Json.Reading := .within library.nesting

/-- A stand-in. To it every address is a path, and every text is in UTF-8. -/
def standIn : Library where
  readAddress url := .ok { path := url }
  textOf _ octets := (String.fromUTF8? ⟨octets.toArray⟩).getD ""
  nesting := none

end Library

end CommandFlow.Http
