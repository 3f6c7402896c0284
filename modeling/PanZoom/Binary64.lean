/-!
# Binary64 numbers

A 64-bit binary floating-point number. All values that are not NaN lie on one line: counted from
zero in increasing order, each finite magnitude has an *index*, which is also its bit pattern, and
the index after the last one stands for infinity. Neighbouring numbers have neighbouring indices,
so comparing numbers is comparing indices.

Every finite magnitude is a whole number of *quanta*, the least positive value `2^-1074`, so exact
results of arithmetic are fractions of naturals (see `PanZoom.Binary64.Rounding`).

All NaN patterns are one value: nothing in the library can tell them apart.
-/

namespace PanZoom

namespace Binary64

/-- The number of magnitudes that have an exponent in common, `2^52`. -/
abbrev binade : Nat := 0x10000000000000

/-- The number of finite magnitudes, 2047 binades, and so the index that stands for infinity. -/
abbrev infinityIndex : Nat := 0x7ff0000000000000

end Binary64

/-- A 64-bit binary floating-point number. Zeros and infinities carry a sign, NaN does not. -/
inductive Binary64 where
  /-- The result of an operation that has none. -/
  | nan
  | inf (negative : Bool)
  /-- A finite number: its sign and the index of its magnitude. -/
  | finite (negative : Bool) (index : Fin Binary64.infinityIndex)
  deriving DecidableEq, Inhabited

namespace Binary64

/-- The quanta in one unit: the least positive number is one quantum, `2^-1074`. -/
def unit : Nat := 1 <<< 1074

/-- The number of quanta in the magnitude with index `i`. In the first two binades every natural
number of quanta is a magnitude. In each one after them the spacing is twice the spacing of the
one before. -/
def quantaAt (i : Nat) : Nat :=
  if i < 2 * binade then i else (binade + i % binade) <<< (i / binade - 1)

/-- The number with a given sign and index; from `infinityIndex` on it is infinite. -/
def ofIndex (negative : Bool) (i : Nat) : Binary64 :=
  if h : i < infinityIndex then .finite negative ⟨i, h⟩ else .inf negative

def zero (negative : Bool) : Binary64 := .finite negative ⟨0, by decide⟩

def signed (negative : Bool) (magnitude : Nat) : Int :=
  if negative then -(magnitude : Int) else magnitude

/-- The exact value of a finite number, in quanta. Infinities and NaN are given the value zero. -/
def quanta : Binary64 → Int
  | finite s i => signed s (quantaAt i)
  | _ => 0

/-- The exact value of a finite number. Infinities and NaN are given the value zero. -/
def toRat (x : Binary64) : Rat := mkRat x.quanta unit

/-- The position of a number in the order of all numbers. Both zeros are at position zero. NaN
has no position. -/
def rank? : Binary64 → Option Int
  | nan => none
  | inf s => some (signed s infinityIndex)
  | finite s i => some (signed s i)

/-! ## Bit patterns -/

def signBit : Nat := 0x8000000000000000

/-- The pattern that stands for NaN. -/
def nanBits : Nat := 0x7ff8000000000000

def toBits : Binary64 → Nat
  | nan => nanBits
  | inf s => infinityIndex + if s then signBit else 0
  | finite s i => i + if s then signBit else 0

/-- The number with a bit pattern. Patterns past infinity are NaN. -/
def ofBits (bits : Nat) : Binary64 :=
  let i := bits % signBit
  if infinityIndex < i then nan else ofIndex (signBit ≤ bits) i

end Binary64

end PanZoom
