import SearchGateway.Domain.Character
import SearchGateway.Domain.Direction
import SearchGateway.Domain.Joiner
import SearchGateway.Domain.Punycode
import SearchGateway.Text.Composition
import SearchGateway.Text.Parts

/-!
# Domain names in ASCII

A domain name is a sequence of labels with points between them. To bring it to ASCII, its characters
are brought to the form that names are kept in and composed, and each label is checked and, if it
has characters beyond ASCII, written with a mark in front (`Domain.asciiName?`). A label that comes
with the mark already has to be one that could have been written so.
-/

namespace SearchGateway.Domain

open Text

/-- What marks a label that is written in ASCII. -/
def asciiMark : List Char := "xn--".toList

/-- The greatest length of a label with characters beyond ASCII. -/
def labelLimit : Nat := 1000

/-- The characters of a name in the form that names are kept in. -/
def foldedName? (cs : List Char) : Option (List Char) :=
  (cs.mapM folded?).map fun images => composed images.flatten

/-- Whether a label is in the form that names are kept in. -/
def isFoldedLabel (label : List Char) : Bool :=
  label.all isFolded && composed label == label

/-- Whether a label can stand in a name: no mark comes first, joiners show, and it is not too
long. -/
def isProper (label : List Char) : Bool :=
  !label.head?.any isMark && joinersShow label &&
    (label.all Punycode.isBasic || label.length ≤ labelLimit)

/-- A label as it is read, and as it is written in ASCII. -/
structure Label where
  chars : List Char
  ascii : List Char

/-- The label that a text of the form that names are kept in stands for. -/
def Label.ofFolded? (text : List Char) : Option Label := do
  let label : Label ←
    if asciiMark.isPrefixOf text then do
      let chars ← Punycode.decode? (text.drop asciiMark.length)
      if !text.all Punycode.isBasic ∨ chars.all Punycode.isBasic ∨ !isFoldedLabel chars then none
      else some ⟨chars, text⟩
    else if text.all Punycode.isBasic then some ⟨text, text⟩
    else some ⟨text, asciiMark ++ Punycode.encode text⟩
  if isProper label.chars then some label else none

/-- The ASCII form of a name, if it can be one. -/
def asciiName? (name : List Char) : Option (List Char) := do
  let labels ← (splitOnAny (· == '.') (← foldedName? name)).mapM Label.ofFolded?
  if isReadable (labels.map Label.chars) then
    some (['.'].intercalate (labels.map Label.ascii))
  else none

end SearchGateway.Domain
