import SearchGateway.Decimal.Binary64

/-!
# Fused scores

A source that ranks a document adds the reciprocal of its rank to the document's score, weighted and
smoothed; a source that does not adds nothing. Rank 0 is no position and counts as the first.

Scores are ordered by `scoreKey`, a total order on doubles that refines the numeric one: zero stands
above its negative, and what is not a number stands below all numbers or above them, as its sign bit
is set or not.
-/

namespace SearchGateway

/-- What one source adds to a score, `weight / (k + rank)`, in any kind of numbers that counts are
taken to by `ofCount`. The divisor is at least 1. -/
def reciprocalTermIn {α : Type} [Add α] [Div α] (ofCount : UInt32 → α) (weight : α)
    (k rank : UInt32) : α :=
  weight / (ofCount k + ofCount (max rank 1))

/-- What one source adds to a score, in doubles. -/
def reciprocalTerm [Binary64.NanRule] (weight : Binary64) (k rank : UInt32) : Binary64 :=
  reciprocalTermIn Binary64.ofCount weight k rank

/-- The place of a double in the total order: the number of patterns of one sign passed on the way
from zero, those with the sign bit counting downwards from -1. -/
def scoreKey (x : Binary64) : Int :=
  let half : Int := 0x8000000000000000
  let bits : Int := x.bits.toNat
  if bits < half then bits else half - 1 - bits

/-- Whether a score may stand before another in descending order. -/
def scoreAtLeast (x y : Binary64) : Bool := scoreKey y ≤ scoreKey x

theorem scoreAtLeast_iff {x y : Binary64} : scoreAtLeast x y = true ↔ scoreKey y ≤ scoreKey x := by
  simp [scoreAtLeast]

theorem scoreAtLeast_total (x y : Binary64) : (scoreAtLeast x y || scoreAtLeast y x) = true := by
  rw [Bool.or_eq_true, scoreAtLeast_iff, scoreAtLeast_iff]
  exact Int.le_total (scoreKey y) (scoreKey x)

theorem scoreAtLeast_trans {x y z : Binary64} (hxy : scoreAtLeast x y = true)
    (hyz : scoreAtLeast y z = true) : scoreAtLeast x z = true := by
  rw [scoreAtLeast_iff] at hxy hyz ⊢
  exact Int.le_trans hyz hxy

/-- Whether a list of scores is numerically non-increasing from each score to the next. -/
def isDescending {α : Type} [LE α] [DecidableLE α] : List α → Bool
  | x :: y :: rest => decide (y ≤ x) && isDescending (y :: rest)
  | _ => true

end SearchGateway
