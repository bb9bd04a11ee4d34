/-!
# Range tables

A set of characters given by the ranges of their code points, in increasing order.
-/

namespace CustomProperties.Text

/-- The inclusive ranges of code points of a set of characters, in increasing order. -/
abbrev RangeTable := List (Nat × Nat)

/-- Whether a code point lies in one of the ranges. -/
def RangeTable.covers (table : RangeTable) (code : Nat) : Bool :=
  table.any fun range => range.1 ≤ code && code ≤ range.2

@[simp] theorem RangeTable.covers_nil (code : Nat) : RangeTable.covers [] code = false := rfl

@[simp] theorem RangeTable.covers_cons (range : Nat × Nat) (table : RangeTable) (code : Nat) :
    RangeTable.covers (range :: table) code =
      (range.1 ≤ code && code ≤ range.2 || table.covers code) := rfl

end CustomProperties.Text
