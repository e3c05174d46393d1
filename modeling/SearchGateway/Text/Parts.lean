/-!
# Parts of a text

A text divides into the parts between its separators: one more than there are separators, some of
which may be empty.
-/

namespace SearchGateway.Text

/-- The parts of a text between the separators. -/
def splitOnAny (isSeparator : Char → Bool) : List Char → List (List Char)
  | [] => [[]]
  | c :: cs =>
    match splitOnAny isSeparator cs with
    | [] => [[c]]
    | part :: parts => if isSeparator c then [] :: part :: parts else (c :: part) :: parts

end SearchGateway.Text
