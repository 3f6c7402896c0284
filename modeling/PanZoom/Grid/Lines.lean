import PanZoom.Grid.Style
import PanZoom.Grid.Units
import PanZoom.View.Projection

/-!
# Line positions

Where the lines of a tier lie along one axis of a canvas. A line of frequency `f` is at a logical
coordinate `k / f` for an integer `k`. The lines are counted and not stepped, so the error of a
coordinate does not grow with its distance from the origin. A tier that would need more than
`maxLines` lines is left out.
-/

namespace PanZoom

namespace Grid

variable {α : Type} [Scalar α]

/-- The most lines that a tier may have along one axis. -/
def maxLines : Nat := 16384

/-- The answer for a tier that would need too many lines. -/
structure TooDense (α : Type) where
  /-- The lines that it would need; not a finite number if they cannot be counted. -/
  needed : α
  deriving DecidableEq

/-- The logical coordinate of the line `n` places after the line number `first`. -/
def lineCoordinate (first frequency : α) (n : Nat) : α := (first + Scalar.ofNat n) / frequency

/-- Adds to `out` the pixels of the lines from the `n`-th on, up to the end of the span but no
more than `count` of them. -/
def placeFrom (span : Span α) (first frequency : α) : (count n : Nat) → Array α → Array α
  | 0, _, out => out
  | count + 1, n, out =>
    let v := lineCoordinate first frequency n
    if span.stop ≤ v then out
    else placeFrom span first frequency count (n + 1) (out.push (alignPixel (span.toScreen v)))

/-- The pixels of the lines of a tier on a span, in increasing order. They are put into `buffer`,
whose contents are given up. A tier that is too dense places no line. -/
def linePositions (span : Span α) (kind : TierKind α) (buffer : Array α) :
    Except (TooDense α) Unit × Array α :=
  let out := buffer.shrink 0
  if span.IsEmpty then (.ok (), out)
  else
    match kind with
    | .axis =>
      if span.Contains Scalar.zero then
        (.ok (), out.push (alignPixel (span.toScreen Scalar.zero)))
      else (.ok (), out)
    | .lines frequency =>
      let first := Scalar.ceil (span.start * frequency)
      let bound := Scalar.ceil (span.stop * frequency)
      let needed := bound - first
      if ¬ Scalar.isFinite needed ∨ Scalar.ofNat maxLines < needed then
        (.error { needed }, out)
      else (.ok (), placeFrom span first frequency (maxLines + 1) 0 out)

end Grid

end PanZoom
