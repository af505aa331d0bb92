import ProvisionGate.Text.Ranges

/-!
# Fillers

The letters that stand for an empty place in a Hangul syllable.  They are the only letters that may
be ignored in display, as of Unicode 17.0.
-/

namespace ProvisionGate.Text

/-- The letters with the property `Default_Ignorable_Code_Point`. -/
def fillerRanges : List (Nat × Nat) :=
  [(0x115F, 0x1160), (0x3164, 0x3164), (0xFFA0, 0xFFA0)]

/-- A letter that is not drawn. -/
def isFiller (c : Char) : Bool :=
  inRanges fillerRanges c.toNat

end ProvisionGate.Text
