import SearchGateway.Filter.Notation

/-!
# Checking the values of a filter

Reading a filter accepts any value in a condition. `Expression.checkValues` finds the first
condition, in the order of the notation, whose value has not the shape that its operator expects.
-/

namespace SearchGateway.Filter

/-- Whether the value of a condition has the shape that its operator expects. -/
def Condition.fits (c : Condition) : Bool := c.operator.shape.accepts c.value

mutual

/-- The first misfit of a member. -/
def Node.misfit? (path : Path) : Node → Option Defect
  | .condition c => if c.fits then none else some ⟨path, .invalidValue c.operator⟩
  | .group combinator members => misfitAmong? (path ++ [.key combinator.name]) 0 members

/-- The first misfit of a list of members, of which the first one stands at the given position. -/
def misfitAmong? (root : Path) (i : Nat) : List Node → Option Defect
  | [] => none
  | n :: ns => (n.misfit? (root ++ [.position i])).or (misfitAmong? root (i + 1) ns)

end

/-- Checks the value of every condition. Paths start at the list `filters`. -/
def Expression.checkValues (e : Expression) : Except Defect Unit :=
  match misfitAmong? currentRoot 0 e.members with
  | some d => .error d
  | none => .ok ()

end SearchGateway.Filter
