/-!
# Tables of code points

* `inRanges` : membership in a table of closed ranges.
-/

namespace CommandFlow.Text

def inRanges (table : List (Nat × Nat)) (code : Nat) : Bool :=
  table.any fun range => range.1 ≤ code && code ≤ range.2

end CommandFlow.Text
