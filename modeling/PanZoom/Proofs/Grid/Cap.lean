import PanZoom.Proofs.Binary64.Signed
import PanZoom.Proofs.Grid.Alignment
import PanZoom.Proofs.Grid.Painting
import PanZoom.View.Calls

/-!
# How far the cap on lines holds

A tier is left out if the count of its lines on a span is above the cap, and otherwise lines are
placed until one is past the end of the span. Count and end are computed by different formulas. If
the end of the span, in units of the grid, is rounded down to an integer, the line with that number
is counted as past the end and placed as before it; and since the loop would go on for one line more
than the cap, a tier that has just as many lines as it may have gets one too many
(`cap_exceeded_after_pan`).

That is all that can go wrong. No tier gets two lines too many (`linePositions_size_le`), a tier
with a line too many is one whose end was rounded down (`IsOverfull.rounded_down`), and where the
frequency is a power of two, as it is for the tiers of the default style, nothing is rounded.
-/

namespace PanZoom

namespace Binary64

attribute [local irreducible] unit

variable {x y : Binary64}

/-- Whole numbers of units whose rounded difference is at most `n` do differ by at most `n`. -/
theorem sub_le_of_units {k m : Int} {n : Nat} (hn : n + 1 < 2 ^ 53)
    (hx : Scalar.isFinite x = true) (hy : Scalar.isFinite y = true) (hxk : x.quanta = k * unit)
    (hym : y.quanta = m * unit) (h : ¬ Scalar.ofNat n < x - y) : k - m ≤ n := by
  by_contra hlarge
  have hless : (Scalar.ofNat n : Binary64).HasQuanta (n * unit) := hasQuanta_ofNat (by omega)
  have hnext : (Scalar.ofNat (n + 1) : Binary64).HasQuanta ((n + 1) * unit) := hasQuanta_ofNat hn
  have hstep : (Scalar.ofNat n : Binary64) < Scalar.ofNat (n + 1) := by
    rw [lt_iff_quanta hless.isFinite hnext.isFinite, hless.quanta_cast, hnext.quanta_cast]
    exact Int.ofNat_lt.mpr (Nat.mul_lt_mul_of_pos_right (Nat.lt_succ_self n) unit_pos)
  have hdiff : (Scalar.ofNat (n + 1) : Binary64) ≤ x - y := by
    rw [le_iff_rank (rank_eq hnext.isFinite) (sub_rank hx hy), hnext.quanta_cast, hxk, hym,
      ← Int.sub_mul]
    refine nearestRank_mono Nat.one_pos Nat.one_pos ?_
    rw [Int.natCast_one, Int.mul_one, Int.mul_one, Int.natCast_mul]
    exact Int.mul_le_mul_of_nonneg_right (by omega) (Int.natCast_nonneg unit)
  exact h (Binary64.lt_of_lt_of_le hstep hdiff)

/-- If at most `n` integers are counted from one edge to the other, the far edge is `n` places after
the near one at most. -/
theorem ceil_le_add {n : Nat} (hn : n + 1 < 2 ^ 53)
    (hfinite : Scalar.isFinite (Scalar.ceil y - Scalar.ceil x) = true)
    (h : ¬ Scalar.ofNat n < Scalar.ceil y - Scalar.ceil x) :
    Scalar.ceil y ≤ Scalar.ceil x + Scalar.ofNat n := by
  obtain ⟨hy, hx⟩ := sub_finite hfinite
  obtain ⟨_, k, hk⟩ := ceil_units hy
  obtain ⟨_, m, hm⟩ := ceil_units hx
  have hcount := sub_le_of_units hn hy hx hk hm h
  have hquanta : (Scalar.ofNat n : Binary64).HasQuanta (n * unit) := hasQuanta_ofNat (by omega)
  rw [le_iff_rank (rank_eq hy) (add_rank hx hquanta.isFinite), hk, hm, hquanta.quanta_cast]
  refine nearestRank_mono Nat.one_pos Nat.one_pos ?_
  rw [Int.natCast_one, Int.mul_one, Int.mul_one, Int.natCast_mul, ← Int.add_mul]
  exact Int.mul_le_mul_of_nonneg_right (by omega) (Int.natCast_nonneg unit)

end Binary64

namespace Grid

section Overfull

variable {α : Type} [Scalar α] (span : Span α)

/-- The tier gets the line that comes after the last one it may have: as many lines as it may have
are counted at most, and the one after these is before the end. -/
def IsOverfull : TierKind α → Prop
  | .axis => False
  | .lines frequency =>
    ¬ span.IsEmpty ∧ IsFew span frequency ∧
      lineCoordinate (Scalar.ceil (span.start * frequency)) frequency maxLines < span.stop

instance : (kind : TierKind α) → Decidable (IsOverfull span kind)
  | .axis => isFalse id
  | .lines _ => inferInstanceAs (Decidable (_ ∧ _ ∧ _))

end Overfull

/-! ## Rounded counts and rounded lines -/

section Rounded

open Binary64

attribute [local irreducible] unit

variable {frequency : Binary64} {q : Nat}

theorem lineCoordinate_mono {first : Binary64} (hfirst : Scalar.isFinite first = true)
    (hf : frequency.HasQuanta q) (hq : 0 < q) {m n : Nat} (hmn : m ≤ n) (hn : n < 2 ^ 53) :
    lineCoordinate first frequency m ≤ lineCoordinate first frequency n := by
  have hm : (Scalar.ofNat m : Binary64).HasQuanta (m * unit) := hasQuanta_ofNat (by omega)
  have hn : (Scalar.ofNat n : Binary64).HasQuanta (n * unit) := hasQuanta_ofNat hn
  have hle : (Scalar.ofNat m : Binary64) ≤ Scalar.ofNat n :=
    (hm.le_iff hn).mpr (Nat.mul_le_mul_right unit hmn)
  exact div_le_div hf hq (add_le_add_left hfirst hm.isFinite hn.isFinite hle)

variable {span : Span Binary64}

/-- Later lines are farther on, so that the last one decides. -/
theorem maxLines_lt_size_iff_isOverfull (hf : frequency.HasQuanta q) (hq : 0 < q)
    (buffer : Array Binary64) :
    maxLines < (linePositions span (.lines frequency) buffer).2.size ↔
      IsOverfull span (.lines frequency) := by
  rw [maxLines_lt_size_iff, IsOverfull]
  refine and_congr_right fun hseen => and_congr_right fun hfew => ?_
  have hfirst : Scalar.isFinite (Scalar.ceil (span.start * frequency)) = true :=
    (sub_finite hfew.1).2
  constructor
  · intro hbefore
    have hlast : (Scalar.ofNat maxLines : Binary64).HasQuanta (maxLines * unit) :=
      hasQuanta_ofNat (by decide)
    have hsum := not_nan_of_rank (add_rank hfirst hlast.isFinite)
    obtain ⟨m, hm⟩ := exists_rank (div_not_nan hsum hf hq)
    obtain ⟨n, hn⟩ : ∃ n, span.stop.rank? = some n :=
      exists_rank (Bool.eq_false_iff.mpr fun hnan => hseen (.inr (.inl hnan)))
    have hnot := hbefore maxLines (Nat.le_refl _)
    rw [lineCoordinate, le_iff_rank hn hm] at hnot
    rw [lineCoordinate, lt_iff_rank hm hn]
    omega
  · intro hlast n hn hpast
    have hmono := lineCoordinate_mono hfirst hf hq hn (by decide)
    exact not_le_of_lt hlast (Binary64.le_trans hpast hmono)

/-- The end of the span was rounded down in units of the grid. -/
theorem IsOverfull.rounded_down (hf : frequency.HasQuanta q) (hq : 0 < q)
    (h : IsOverfull span (.lines frequency)) :
    (span.stop * frequency).quanta * unit < span.stop.quanta * q := by
  obtain ⟨hseen, ⟨hfinite, hfew⟩, hlast⟩ := h
  by_contra hup
  obtain ⟨hbound, _⟩ := sub_finite hfinite
  have hstop : Scalar.isFinite span.stop = true := mul_finite hf (ceil_units hbound).1
  have hpast := le_ceil_div hf hq hstop hbound (Int.not_lt.mp hup)
  have hnumber := div_le_div hf hq (ceil_le_add (by decide) hfinite hfew)
  exact not_le_of_lt hlast (Binary64.le_trans hpast hnumber)

theorem not_isOverfull_of_two_pow {k : Nat} (hf : frequency.HasQuanta (2 ^ k * unit)) :
    ¬ IsOverfull span (.lines frequency) := by
  intro h
  have hpos : 0 < 2 ^ k * unit := Nat.mul_pos (Nat.two_pow_pos k) unit_pos
  have hdown := h.rounded_down hf hpos
  obtain ⟨_, ⟨hfinite, _⟩, _⟩ := h
  have hproduct := (ceil_units (sub_finite hfinite).1).1
  rw [mul_two_pow_quanta (mul_finite hf hproduct) hf hproduct] at hdown
  push_cast at hdown
  rw [Int.mul_assoc] at hdown
  exact Int.lt_irrefl _ hdown

end Rounded

/-! ## Tiers -/

open Binary64

theorem Tier.IsValid.hasQuanta {tier : Tier Binary64} {frequency : Binary64} (h : tier.IsValid)
    (hkind : tier.kind = .lines frequency) : ∃ q, 0 < q ∧ frequency.HasQuanta q := by
  rw [Tier.IsValid, hkind] at h
  obtain ⟨i, hi, rfl⟩ := isPositive_iff.mp h
  exact ⟨_, quantaAt_pos hi, i, rfl, rfl⟩

theorem maxLines_lt_size_iff_of_isValid {tier : Tier Binary64} (h : tier.IsValid)
    (span : Span Binary64) (buffer : Array Binary64) :
    maxLines < (linePositions span tier.kind buffer).2.size ↔ IsOverfull span tier.kind := by
  cases hkind : tier.kind with
  | axis =>
      refine iff_of_false ?_ id
      rw [linePositions_axis]
      split <;> simp [maxLines]
  | lines frequency =>
      obtain ⟨q, hq, hf⟩ := h.hasQuanta hkind
      exact maxLines_lt_size_iff_isOverfull hf hq buffer

theorem default_not_isOverfull {tier : Tier Binary64} (h : tier ∈ Style.default.tiers)
    (span : Span Binary64) : tier.IsValid ∧ ¬ IsOverfull span tier.kind := by
  have hfour : (Scalar.ofNat 4 : Binary64).HasQuanta (2 ^ 2 * unit) := hasQuanta_ofNat (by decide)
  have hone : (Scalar.ofNat 1 : Binary64).HasQuanta (2 ^ 0 * unit) := hasQuanta_ofNat (by decide)
  rcases List.mem_cons.mp h with rfl | h
  · exact ⟨by decide +kernel, not_isOverfull_of_two_pow hfour⟩
  · rcases List.mem_cons.mp h with rfl | h
    · exact ⟨by decide +kernel, not_isOverfull_of_two_pow hone⟩
    · obtain rfl := List.mem_singleton.mp h
      exact ⟨trivial, id⟩

/-- **The cap holds but for one line.** In every view, on every canvas and for every tier. -/
theorem cap_exceeded_by_one (view : View Binary64) (size : Size Binary64) :
    let p := Projection.ofView view size
    (∀ (tier : Tier Binary64) (axis : Axis) (buffer : Array Binary64),
      let span := p.span axis
      let placed := (linePositions span tier.kind buffer).2
      placed.size ≤ maxLines + 1 ∧
        (tier.IsValid → (maxLines < placed.size ↔ IsOverfull span tier.kind)) ∧
        (tier.IsValid → ∀ f, tier.kind = .lines f → IsOverfull span tier.kind →
          (span.stop * f).toRat < span.stop.toRat * f.toRat) ∧
        (tier ∈ Style.default.tiers → placed.size ≤ maxLines)) ∧
      ∀ (l : Layer Binary64) (path : Path Binary64),
        .draw (.strokePath path) ∈ (l.paint view size).ops →
          ∃ tier ∈ l.style.tiers, ∃ lines : Axis → List Binary64,
            path = Layer.crossLines p.canvas .x (lines .x) ++
              Layer.crossLines p.canvas .y (lines .y) ∧
            ∀ axis, (lines axis).length ≤ maxLines + 1 ∧
              (maxLines < (lines axis).length ↔ IsOverfull (p.span axis) tier.kind) := by
  intro p
  refine ⟨?_, ?_⟩
  · intro tier axis buffer span placed
    refine ⟨linePositions_size_le span tier.kind buffer,
      fun hvalid => maxLines_lt_size_iff_of_isValid hvalid span buffer, ?_, ?_⟩
    · intro hvalid f hkind hover
      obtain ⟨q, hq, hf⟩ := hvalid.hasQuanta hkind
      rw [hkind] at hover
      rw [toRat_lt_mul_iff, hf.quanta_cast]
      exact hover.rounded_down hf hq
    · intro hdefault
      obtain ⟨hvalid, hnot⟩ := default_not_isOverfull hdefault span
      rw [← maxLines_lt_size_iff_of_isValid hvalid span buffer] at hnot
      exact Nat.not_lt.mp hnot
  · intro l path hpath
    obtain ⟨_, tier, htier, ⟨_, hvalid, _⟩, hlines⟩ := Layer.strokePath_mem_paint.mp hpath
    refine ⟨tier, htier, tierPixels p tier, hlines, fun axis => ?_⟩
    rw [tierPixels_eq p tier axis #[], Array.length_toList]
    exact ⟨linePositions_size_le _ _ _, maxLines_lt_size_iff_of_isValid hvalid _ _⟩

/-- At half of the default scale, 143360 pixels have room for as many minor lines as a tier may
have, and these are counted. -/
theorem cap_held_by_minor_lines :
    let calls : List (Viewport.Call Binary64 Unit) := [.setDistance (Scalar.ofNat 2)]
    let view := ((Viewport.create 0 (.ofChanges [])).run calls).view
    let size : Size Binary64 := ⟨Scalar.ofNat 143360, Scalar.ofNat 10⟩
    let span := (Projection.ofView view size).span .x
    let placed := (linePositions span (Tier.minor : Tier Binary64).kind #[]).2
    (Tier.minor : Tier Binary64).IsValid ∧ Tier.minor ∈ (Style.default : Style Binary64).tiers ∧
      counted span (Scalar.ofNat 4) = Scalar.ofNat maxLines ∧ placed.size ≤ maxLines := by
  intro calls view size span placed
  have hmember : Tier.minor ∈ (Style.default : Style Binary64).tiers := List.mem_cons_self
  obtain ⟨_, _, _, hcap⟩ := (cap_exceeded_by_one view size).1 .minor .x #[]
  exact ⟨by decide +kernel, hmember, by decide +kernel, hcap hmember⟩

/-- A new viewport is dragged seven pixels to the left, and shown on a canvas of 57344 by 1 pixels
with twenty lines to a unit. As many lines as a tier may have are counted, and one more is drawn. -/
theorem cap_exceeded_after_pan :
    let calls : List (Viewport.Call Binary64 Unit) :=
      [.beginPan ⟨Scalar.zero, Scalar.zero⟩, .updatePan ⟨-Scalar.ofNat 7, Scalar.zero⟩, .endPan]
    let view := ((Viewport.create 0 (.ofChanges [])).run calls).view
    let size : Size Binary64 := ⟨Scalar.ofNat 57344, Scalar.ofNat 1⟩
    let tier : Tier Binary64 := .lines (Scalar.ofNat 20) Scalar.zero (.grey 1)
    let p := Projection.ofView view size
    let placed := (linePositions (p.span .x) tier.kind #[]).2
    counted (p.span .x) (Scalar.ofNat 20) = Scalar.ofNat maxLines ∧
      placed.size = maxLines + 1 ∧
      ∃ rows, .draw (.strokePath (Layer.crossLines p.canvas .x placed.toList ++
          Layer.crossLines p.canvas .y rows)) ∈
        ((Layer.new (Style.empty.addTier tier)).paint view size).ops := by
  intro calls view size tier p placed
  have hvalid : tier.IsValid := by decide +kernel
  have hover : IsOverfull (p.span .x) tier.kind := by decide +kernel
  have hmore : maxLines < placed.size := (maxLines_lt_size_iff_of_isValid hvalid _ _).mpr hover
  have hfull : placed.size = maxLines + 1 :=
    Nat.le_antisymm (linePositions_size_le _ _ _) hmore
  refine ⟨by decide +kernel, hfull, tierPixels p tier .y, ?_⟩
  refine Layer.strokePath_mem_paint.mpr ⟨by decide +kernel, tier, List.mem_singleton_self tier,
    ⟨by decide +kernel, hvalid, .inl ?_⟩, ?_⟩
  · have hsome : 0 < placed.toList.length := by
      rw [Array.length_toList, hfull]
      exact Nat.succ_pos maxLines
    rw [tierPixels_eq p tier .x #[]]
    exact List.isEmpty_eq_false_iff.mpr (List.ne_nil_of_length_pos hsome)
  · rw [Layer.tierPath_eq, tierPixels_eq p tier .x #[]]

end Grid

end PanZoom
