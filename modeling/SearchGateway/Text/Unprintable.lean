import SearchGateway.Text.Category

/-!
# Characters without a picture of their own

The characters that a quoted text does not show as they are: controls, format characters,
surrogates, private and unassigned code points, separators other than the space, fillers, and the
characters that extend the one before them.
-/

namespace SearchGateway.Text

/-- Controls, surrogates, private code points, and separators other than the space. -/
def blanksAndControls : CodePoints := .ofText "
  0-1F 7F-A0 1680 2000-200A 2028-2029 202F 205F 3000 D800-F8FF F0000-FFFFD 100000-10FFFD"

/-- Spacing characters that extend the one before them, and letters that stand for nothing. -/
def extendersAndFillers : CodePoints := .ofText "
  9BE 9D7 B3E B57 BBE BD7 CC0 CC2 CC7-CC8 CCA-CCB CD5-CD6 D3E D57 DCF DDF 115F-1160 1715 1734 1B35
  1B3B 1B3D 1B43-1B44 1BAA 1BF2-1BF3 302E-302F 3164 A953 A9C0 FF9E-FFA0 111C0 11235 1133E 1134D
  11357 113B8 113C2 113C5 113C7-113C9 113CF 114B0 114BD 115AF 116B6 11930 1193D 11F41 16FF0-16FF1
  1D165-1D166 1D16D-1D172"

/-- Whether a character has no picture of its own. -/
def isUnprintable (c : Char) : Bool :=
  blanksAndControls.contains c ||
    (0x7F < c.toNat &&
      (nonspacingMarks.contains c || formatControls.contains c || extendersAndFillers.contains c ||
        unassigned.contains c))

end SearchGateway.Text
