import Mathlib.Tactic.Linarith
import PanZoom.Proofs.Grid.Lines
import PanZoom.Proofs.View.Projection

/-!
# Where lines are placed

Whether a tier is too dense is told from the difference of two roundings, and then lines are placed
one after another until one of them is past the span. Read in exact arithmetic the two agree: the
lines of a span are numbered by the integers from the one rounding up to the other (`lineNumbers`),
the difference is their number, and the line after the last one is the first that is past the span.
So each line is placed once, in order, or none is if there are too many (`placement_exact`).
-/

namespace PanZoom

namespace Grid

/-! ## Placing lines one after another -/

section Loop

variable {α : Type} [Scalar α]

/-- If just the first `total` lines are before the end of the span, and may all be placed, then they
are. -/
theorem placeFrom_eq {span : Span α} {first frequency : α} {total : Nat}
    (hlast : ∀ n, span.stop ≤ lineCoordinate first frequency n ↔ total ≤ n) (count : Nat)
    (out : Array α) (h : total ≤ count) :
    placeFrom span first frequency count 0 out =
      out ++ ((List.range total).map (placedPixel span first frequency)).toArray := by
  obtain ⟨placed, hle, hplaced, hbefore, hpast⟩ := placeFrom_spec span first frequency count 0 out
  rw [Nat.zero_add] at hbefore hpast
  have hsame : placed = total := by
    rcases Nat.lt_trichotomy placed total with hless | hsame | hmore
    · have hnext := (hlast placed).mp (hpast (by omega))
      omega
    · exact hsame
    · exact absurd ((hlast total).mpr (Nat.le_refl total)) (hbefore total (Nat.zero_le _) hmore)
  rw [hplaced, hsame, List.range_eq_range']

end Loop

/-! ## The lines of a span -/

/-- The number of the first line that is not before the span. -/
def firstLine (span : Span Rat) (frequency : Rat) : Int := ⌈span.start * frequency⌉

/-- How many lines there are from the first one on, up to the end of the span. -/
def lineCount (span : Span Rat) (frequency : Rat) : Nat :=
  (⌈span.stop * frequency⌉ - firstLine span frequency).toNat

/-- The numbers of the lines of a frequency on a span, in increasing order. -/
def lineNumbers (span : Span Rat) (frequency : Rat) : List Int :=
  (List.range (lineCount span frequency)).map fun n : Nat => firstLine span frequency + n

section Numbers

variable {span : Span Rat} {frequency : Rat}

theorem lineNumbers_length : (lineNumbers span frequency).length = lineCount span frequency := by
  rw [lineNumbers, List.length_map, List.length_range]

theorem lineNumbers_pairwise : (lineNumbers span frequency).Pairwise (· < ·) := by
  refine List.pairwise_map.mpr (List.pairwise_lt_range.imp ?_)
  intro m n hmn
  omega

theorem mem_lineNumbers_iff {k : Int} :
    k ∈ lineNumbers span frequency ↔
      ⌈span.start * frequency⌉ ≤ k ∧ k < ⌈span.stop * frequency⌉ := by
  unfold lineNumbers lineCount firstLine
  rw [List.mem_map]
  constructor
  · rintro ⟨n, hn, rfl⟩
    rw [List.mem_range] at hn
    omega
  · rintro ⟨hfirst, hlast⟩
    refine ⟨(k - ⌈span.start * frequency⌉).toNat, ?_, ?_⟩
    · rw [List.mem_range]
      omega
    · omega

theorem mem_lineNumbers (positive : 0 < frequency) {k : Int} :
    k ∈ lineNumbers span frequency ↔ span.Contains (k / frequency) := by
  rw [mem_lineNumbers_iff, Int.ceil_le, Int.lt_ceil, Span.contains_exact, le_div_iff₀ positive,
    div_lt_iff₀ positive]

theorem lineCoordinate_exact (n : Nat) :
    lineCoordinate (Scalar.ceil (span.start * frequency)) frequency n =
      ((firstLine span frequency + n : Int) : Rat) / frequency := by
  rw [Int.cast_add, Int.cast_natCast, ← Exact.ofNat_eq, firstLine, ← Exact.ceil_eq]
  rfl

/-- The first line past the end of the span is the one after the last that is counted. -/
theorem stop_le_lineCoordinate (positive : 0 < frequency) (n : Nat) :
    span.stop ≤ lineCoordinate (Scalar.ceil (span.start * frequency)) frequency n ↔
      lineCount span frequency ≤ n := by
  rw [lineCoordinate_exact, lineCount]
  refine (le_div_iff₀ positive).trans ?_
  rw [← Int.ceil_le]
  omega

end Numbers

/-! ## What is placed -/

variable (span : Span Rat) {frequency : Rat} (buffer : Array Rat)

/-- The pixel of a line. -/
def linePixel (frequency : Rat) (k : Int) : Rat := alignPixel (span.toScreen (k / frequency))

theorem lineCount_of_isEmpty {span : Span Rat} (positive : 0 < frequency) (h : span.IsEmpty) :
    lineCount span frequency = 0 := by
  have hle : ⌈span.stop * frequency⌉ ≤ ⌈span.start * frequency⌉ :=
    Int.ceil_mono (mul_le_mul_of_nonneg_right (span.isEmpty_exact.mp h) positive.le)
  rw [lineCount, firstLine]
  omega

/-- The number of lines is the difference of the two roundings. -/
theorem lineCount_of_not_isEmpty {span : Span Rat} (positive : 0 < frequency) (h : ¬ span.IsEmpty) :
    Scalar.ceil (span.stop * frequency) - Scalar.ceil (span.start * frequency) =
      (lineCount span frequency : Rat) := by
  have hlt : span.start < span.stop := not_le.mp fun hle => h (span.isEmpty_exact.mpr hle)
  have hle : firstLine span frequency ≤ ⌈span.stop * frequency⌉ :=
    Int.ceil_mono (mul_le_mul_of_nonneg_right hlt.le positive.le)
  have hcount : (lineCount span frequency : Int) =
      ⌈span.stop * frequency⌉ - firstLine span frequency := Int.toNat_of_nonneg (by omega)
  rw [Exact.ceil_eq, Exact.ceil_eq, ← Int.cast_natCast, hcount, Int.cast_sub, firstLine]

theorem tooDense_iff (n : Nat) :
    (¬ Scalar.isFinite (n : Rat) = true ∨ Scalar.ofNat maxLines < (n : Rat)) ↔ ¬ n ≤ maxLines := by
  rw [Exact.ofNat_eq, not_le]
  exact (or_iff_right (not_not_intro rfl)).trans Nat.cast_lt

theorem linePositions_lines (positive : 0 < frequency) :
    linePositions span (.lines frequency) buffer =
      if (lineNumbers span frequency).length ≤ maxLines then
        (.ok (), ((lineNumbers span frequency).map (linePixel span frequency)).toArray)
      else (.error ⟨((lineNumbers span frequency).length : Rat)⟩, #[]) := by
  have hshrink : buffer.shrink 0 = #[] := by simp
  rw [lineNumbers_length]
  unfold linePositions
  rw [hshrink]
  by_cases hempty : span.IsEmpty
  · -- the early answer is that of a span without lines
    have hnone := lineCount_of_isEmpty positive hempty
    rw [if_pos hempty, hnone, if_pos (Nat.zero_le _), lineNumbers, hnone]
    rfl
  · rw [if_neg hempty]
    simp only [lineCount_of_not_isEmpty positive hempty, tooDense_iff]
    by_cases hfew : lineCount span frequency ≤ maxLines
    · rw [if_neg (not_not_intro hfew), if_pos hfew,
        placeFrom_eq (stop_le_lineCoordinate positive) _ _ (by omega), lineNumbers, List.map_map,
        Array.empty_append]
      unfold placedPixel
      simp only [lineCoordinate_exact]
      rfl
    · rw [if_pos hfew, if_neg hfew]

theorem linePositions_ok_iff (positive : 0 < frequency) :
    (linePositions span (.lines frequency) buffer).1 = .ok () ↔
      (lineNumbers span frequency).length ≤ maxLines := by
  rw [linePositions_lines span buffer positive]
  split
  · rename_i hfew
    exact iff_of_true rfl hfew
  · rename_i hmany
    exact iff_of_false nofun hmany

theorem placed_toList (positive : 0 < frequency)
    (h : (linePositions span (.lines frequency) buffer).1 = .ok ()) :
    (linePositions span (.lines frequency) buffer).2.toList =
      (lineNumbers span frequency).map (linePixel span frequency) := by
  rw [linePositions_lines span buffer positive,
    if_pos ((linePositions_ok_iff span buffer positive).mp h)]

/-! ## Pixels on the canvas -/

theorem alignPixel_exact (x : Rat) : alignPixel x = (⌊x + 1 / 2⌋ : Rat) + 1 / 2 := by
  have hbelow := Int.floor_le x
  have habove := Int.lt_floor_add_one x
  rw [alignPixel, Exact.floor_eq, Exact.half_eq, Exact.one_eq]
  by_cases hhalf : 1 / 2 ≤ x - (⌊x⌋ : Rat)
  · have hnearest : ⌊x + 1 / 2⌋ = ⌊x⌋ + 1 := by
      rw [Int.floor_eq_iff, Int.cast_add, Int.cast_one]
      constructor <;> linarith
    rw [hnearest, Int.cast_add, Int.cast_one]
    exact congrArg (· + (1 / 2 : Rat)) (if_pos hhalf)
  · have hnearest : ⌊x + 1 / 2⌋ = ⌊x⌋ := by
      rw [Int.floor_eq_iff]
      constructor <;> linarith
    rw [hnearest]
    exact congrArg (· + (1 / 2 : Rat)) (if_neg hhalf)

/-- A coordinate on a canvas has its pixel centre on the canvas, or less than a pixel past its end. -/
theorem alignPixel_mem {x length : Rat} (hx : 0 ≤ x) (hlength : x < length) :
    1 / 2 ≤ alignPixel x ∧ alignPixel x < length + 1 := by
  rw [alignPixel_exact]
  have hbelow := Int.floor_le (x + 1 / 2)
  have hzero : (0 : Rat) ≤ ⌊x + 1 / 2⌋ := Int.cast_nonneg (Int.floor_nonneg.mpr (by linarith))
  constructor <;> linarith

/-- What is placed is the pixel of a coordinate in the span. -/
theorem exists_of_mem_linePositions {kind : TierKind Rat}
    (hkind : kind = .axis ∨ kind = .lines frequency ∧ 0 < frequency) {x : Rat}
    (h : x ∈ (linePositions span kind buffer).2) :
    ∃ c, span.Contains c ∧ x = alignPixel (span.toScreen c) := by
  rcases hkind with rfl | ⟨rfl, positive⟩
  · unfold linePositions at h
    split at h
    · simp at h
    · simp only at h
      split at h
      · rename_i hzero
        exact ⟨Scalar.zero, hzero, by simpa using h⟩
      · simp at h
  · rw [linePositions_lines span buffer positive] at h
    split at h
    · simp only [List.mem_toArray, List.mem_map] at h
      obtain ⟨k, hk, rfl⟩ := h
      exact ⟨k / frequency, (mem_lineNumbers positive).mp hk, rfl⟩
    · simp at h

/-- **Placement is exact.** The lines placed on a span are those whose coordinates are in it, each
once and in increasing order, whatever the buffer held before. If there are more than may be placed
none is, and the answer says how many there are. On the span of a canvas no line is placed before
the first pixel centre or a whole pixel past the end. -/
theorem placement_exact (span : Span Rat) (frequency : Rat) (buffer : Array Rat)
    (scaled : 0 < span.scale) (positive : 0 < frequency) :
    let lines := lineNumbers span frequency
    (∀ k : Int, k ∈ lines ↔ span.start ≤ k / frequency ∧ k / frequency < span.stop) ∧
      lines.Pairwise (· < ·) ∧
      linePositions span (.lines frequency) buffer =
        (if lines.length ≤ maxLines then
          (.ok (), (lines.map fun k : Int => alignPixel (span.toScreen (k / frequency))).toArray)
        else (.error ⟨(lines.length : Rat)⟩, #[])) ∧
      ∀ view size axis, span = (Projection.ofView view size).span axis →
        ∀ kind, kind = .axis ∨ kind = .lines frequency →
          ∀ x ∈ (linePositions span kind buffer).2, 1 / 2 ≤ x ∧ x < span.pixels + 1 := by
  intro lines
  refine ⟨fun k => mem_lineNumbers positive, lineNumbers_pairwise,
    linePositions_lines span buffer positive, ?_⟩
  rintro view size axis rfl kind hkind x hx
  obtain ⟨c, hc, rfl⟩ :=
    exists_of_mem_linePositions _ buffer (hkind.imp_right fun h => ⟨h, positive⟩) hx
  have hscale : 0 < view.scale := by rwa [Projection.span_exact] at scaled
  obtain ⟨hstart, hstop⟩ :=
    (Span.contains_iff_toScreen scaled (Projection.toScreen_start view size axis)
      (Projection.toScreen_stop size axis hscale) c).mp hc
  have hpixels : ((Projection.ofView view size).span axis).pixels = max (size.along axis) 0 := by
    rw [Projection.span_exact]
  rw [hpixels]
  exact alignPixel_mem hstart hstop

/-- Four lines to a unit of 70 pixels: two of them fall half-way between pixels, and there is one at
the near edge and none at the far edge. -/
theorem placement_at_edges :
    let view : View Rat := ⟨1, 70, ⟨0, 0⟩, Drag.idle⟩
    let span := (Projection.ofView view ⟨70, 9⟩).span .x
    let placed := linePositions span (.lines 4) #[3]
    0 < span.scale ∧ (0 : Rat) < 4 ∧ lineNumbers span 4 = [-2, -1, 0, 1] ∧
      placed = (.ok (), #[1 / 2, 37 / 2, 71 / 2, 107 / 2]) ∧
      ∀ x ∈ placed.2, 1 / 2 ≤ x ∧ x < span.pixels + 1 := by
  intro view span placed
  have scaled : 0 < span.scale := by decide +kernel
  have positive : (0 : Rat) < 4 := by decide +kernel
  have lines : lineNumbers span 4 = [-2, -1, 0, 1] := by decide +kernel
  obtain ⟨_, _, hplaced, hcanvas⟩ := placement_exact span 4 #[3] scaled positive
  refine ⟨scaled, positive, lines, ?_, hcanvas view ⟨70, 9⟩ .x rfl _ (.inr rfl)⟩
  show linePositions span (.lines 4) #[3] = _
  rw [hplaced, lines]
  decide +kernel

end Grid

end PanZoom
