import PanZoom.Binary64
import PanZoom.Decimal.Layout

/-!
# Numbers in text

A number is written with the fewest digits that read back as the same number. There are two
layouts: the plain one of messages, and the detailed one in which the structure of values is
shown, where a number can be told from an integer.
-/

namespace PanZoom

namespace Binary64

/-- The values that are rounded to a finite number other than zero: up to half-way to its
neighbours, and half-way itself where rounding goes to the even index. -/
def roundingInterval (index : Nat) : Decimal.Interval where
  low := quantaAt (index - 1) + quantaAt index
  value := 2 * quantaAt index
  high := quantaAt index + quantaAt (index + 1)
  denominator := 2 * unit
  closed := index % 2 == 0

/-- The shortest decimal that is rounded to the magnitude of an index. -/
def shortestDecimal (index : Nat) : Decimal :=
  if index = 0 then { coefficient := 0, exponent := 0 } else (roundingInterval index).shortest

def write (layout : Decimal.Layout) : Binary64 → String
  | nan => "NaN"
  | inf s => if s then "-inf" else "inf"
  | finite s i =>
    let digits := layout.write (shortestDecimal i)
    if s then "-" ++ digits else digits

/-- All places are written, and whole numbers have no point. -/
def plainLayout : Decimal.Layout := { least? := none, greatest? := none, wholeSuffix := "" }

/-- All places are written from `0.0001` to below `10^16`, and whole numbers end in `.0`. -/
def detailedLayout : Decimal.Layout :=
  { least? := some (-4), greatest? := some 15, wholeSuffix := ".0" }

/-- A number in a message. -/
def plain (x : Binary64) : String := x.write plainLayout

/-- A number in the description of a value. -/
def detailed (x : Binary64) : String := x.write detailedLayout

end Binary64

end PanZoom
