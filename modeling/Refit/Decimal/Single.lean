/-!
# Singles and doubles

Numbers of one precision as numbers of the other.  Every single is a double too.  A double becomes
the nearest single, the even one of two, and infinity where it is too large.
-/

namespace Refit.Decimal

open Float.Model

/-- The number with no more digits than the format has room for. -/
def fitted (format : Format) : UnpackedFloat → UnpackedFloat
  | .finite sign mantissa exponent _ => UnpackedFloat.round format sign mantissa exponent
  | u => u

def ofSingle (x : Float32) : Float := .ofModel (.pack (fitted .binary64 x.toModel.unpack))

def toSingle (x : Float) : Float32 := .ofModel (.pack (fitted .binary32 x.toModel.unpack))

end Refit.Decimal
