import CommandFlow.Entries
import CommandFlow.Value.Text

/-!
# Web addresses

* `Address` : the parts of a web address, every character escaped that has to be;
* `Address.text` : the address as a text;
* `Address.withQuery` : adds parameters.
-/

namespace CommandFlow.Http

structure Address where
  scheme : String := ""
  user : String := ""
  host : String := ""
  port : Option Int := none
  path : String := ""
  query : Option String := none
  fragment : Option String := none

namespace Address

/-- A part with a mark before it, if it is there. -/
def marked (mark : String) : Option String → String
  | some s => mark ++ s
  | none => ""

/-- The host, in brackets if it holds a colon, with user and port. -/
def authority (a : Address) : String :=
  let host := if a.host.toList.contains ':' then "[" ++ a.host ++ "]" else a.host
  let user := if a.user.isEmpty then "" else a.user ++ "@"
  user ++ host ++ marked ":" (a.port.map Value.integerText)

def text (a : Address) : String :=
  let scheme := if a.scheme.isEmpty then "" else a.scheme ++ ":"
  let authority := if a.authority.isEmpty then "" else "//" ++ a.authority
  scheme ++ authority ++ a.path ++ marked "?" a.query ++ marked "#" a.fragment

def withQuery (a : Address) (parameters : Entries String) : Address :=
  let pairs := parameters.map fun (name, value) => name ++ "=" ++ value
  let old := match a.query with
    | some s => if s.isEmpty then [] else [s]
    | none => []
  { a with query := some ("&".intercalate (old ++ pairs)) }

end Address

end CommandFlow.Http
