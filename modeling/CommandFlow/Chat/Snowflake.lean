/-!
# Identifiers made of time

* `snowflake` : the least identifier of a moment. Identifiers grow with time.
-/

namespace CommandFlow.Chat

/-- The first moment that identifiers know, in milliseconds. -/
def epoch : Int := 1420070400000

/-- The number of identifiers that one millisecond has room for. -/
def perMillisecond : Nat := Nat.pow 2 22

def snowflake (moment : Int) : Nat := (moment - epoch).toNat * perMillisecond

end CommandFlow.Chat
