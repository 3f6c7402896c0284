import PanZoom.Proofs.Binary64.Whole
import PanZoom.Proofs.Grid.Cap

/-!
# How far from the origin lines are distinct

The lines of a tier are numbered on from the first one on the span, and a number is divided by the
frequency to find the coordinate. The default frequencies are powers of two, and so the quotients
are exact. The sums are exact as long as the numbers are between `-2 ^ 53` and `2 ^ 53`. Past that
the first sum that is not is rounded, down to the number before it or up to the number after it, so
that a line is placed twice (`lines_repeat_far_out`).

So the coordinates are strictly increasing just if there are not two, or the numbers are within
these bounds (`lines_distinct_iff`). It is enough that the edges of the span are, in units of the
grid.
-/

namespace PanZoom

namespace Grid

open Binary64

section Placed

variable {α : Type} [Scalar α] (span : Span α) (frequency : α)

/-- How many lines are placed. -/
def placedCount : Nat := (linePositions span (.lines frequency) #[]).2.size

/-- The logical coordinates of the lines that are placed. -/
def placedCoordinates : List α :=
  (List.range (placedCount span frequency)).map
    (lineCoordinate (Scalar.ceil (span.start * frequency)) frequency)

theorem placedCoordinates_length :
    (placedCoordinates span frequency).length = placedCount span frequency := by
  rw [placedCoordinates, List.length_map, List.length_range]

theorem placedCoordinates_pairwise_iff {r : α → α → Prop} :
    (placedCoordinates span frequency).Pairwise r ↔ ∀ m n, m < n → n < placedCount span frequency →
      r (lineCoordinate (Scalar.ceil (span.start * frequency)) frequency m)
        (lineCoordinate (Scalar.ceil (span.start * frequency)) frequency n) := by
  rw [List.pairwise_iff_getElem]
  simp only [placedCoordinates, List.length_map, List.length_range, List.getElem_map,
    List.getElem_range]
  constructor
  · intro h m n hmn hn
    exact h m n (Nat.lt_trans hmn hn) hn hmn
  · intro h m n _ hn hmn
    exact h m n hmn hn

/-- Each line that is placed is before the end of the span, and if there is room for another one
the next line is not. -/
theorem placed_spec :
    (∀ n < placedCount span frequency, ¬ span.IsEmpty ∧ IsFew span frequency ∧
        ¬ span.stop ≤ lineCoordinate (Scalar.ceil (span.start * frequency)) frequency n) ∧
      (0 < placedCount span frequency → placedCount span frequency ≤ maxLines → span.stop ≤
        lineCoordinate (Scalar.ceil (span.start * frequency)) frequency
          (placedCount span frequency)) ∧
      ∀ buffer, (linePositions span (.lines frequency) buffer).2.toList =
        (placedCoordinates span frequency).map fun c => alignPixel (span.toScreen c) := by
  unfold placedCoordinates placedCount
  by_cases hempty : span.IsEmpty
  · simp [linePositions_eq, hempty]
  · by_cases hfew : IsFew span frequency
    · obtain ⟨total, hle, hplaced, hbefore, hpast⟩ := placeFrom_spec span
        (Scalar.ceil (span.start * frequency)) frequency (maxLines + 1) 0 #[]
      have hpositions : ∀ buffer, (linePositions span (.lines frequency) buffer).2 =
          ((List.range' 0 total).map (placedPixel span (Scalar.ceil (span.start * frequency))
            frequency)).toArray := by
        intro buffer
        rw [linePositions_eq, if_neg hempty, if_pos hfew, hplaced, Array.empty_append]
      have hcount : (linePositions span (.lines frequency) #[]).2.size = total := by
        rw [hpositions, List.size_toArray, List.length_map, List.length_range']
      rw [Nat.zero_add] at hbefore hpast
      rw [hcount]
      refine ⟨fun n hn => ⟨hempty, hfew, hbefore n (Nat.zero_le n) hn⟩,
        fun _ hroom => hpast (Nat.lt_succ_of_le hroom), fun buffer => ?_⟩
      rw [hpositions, List.map_map, List.range_eq_range']
      rfl
    · simp [linePositions_eq, hempty, hfew]

end Placed

/-! ## Numbers and coordinates -/

section Numbers

attribute [local irreducible] unit overflow

variable {first frequency : Binary64} {k : Int} {e : Nat}

theorem lineCoordinate_le_of_quanta_eq (hfirst : Scalar.isFinite first = true) {q : Nat}
    (hf : frequency.HasQuanta q) (hq : 0 < q) {m n : Nat} (hm : m < 2 ^ 53) (hn : n < 2 ^ 53)
    (h : (first + Scalar.ofNat n).quanta = (first + Scalar.ofNat m).quanta) :
    lineCoordinate first frequency n ≤ lineCoordinate first frequency m := by
  refine div_le_div hf hq ?_
  rw [le_iff_quanta (add_ofNat_finite hfirst hn) (add_ofNat_finite hfirst hm)]
  exact h.le

/-- Within the bounds nothing is rounded. -/
theorem lineCoordinate_quanta (he : e ≤ 1074) (hfirst : Scalar.isFinite first = true)
    (hk : first.quanta = k * unit) (hf : frequency.HasQuanta (2 ^ e * unit)) {n : Nat}
    (hn : n < 2 ^ 53) (hbound : (k + n).natAbs ≤ 2 ^ 53) :
    Scalar.isFinite (lineCoordinate first frequency n) = true ∧
      (lineCoordinate first frequency n).quanta * 2 ^ e = (k + n) * unit := by
  have hexact := add_ofNat_exact hfirst hk hn (isMagnitude_whole hbound)
  rw [← hexact]
  exact div_two_pow_quanta he (add_ofNat_finite hfirst hn) hexact hbound hf

/-- The lines past the upper bound are not before what is not past it, though they are rounded. -/
theorem le_lineCoordinate_of_bound (he : e ≤ 1074) (hfirst : Scalar.isFinite first = true)
    (hk : first.quanta = k * unit) (hf : frequency.HasQuanta (2 ^ e * unit)) {n : Nat}
    (hn : n < 2 ^ 53) (hpast : 2 ^ 53 ≤ k + n) {v : Binary64} (hv : Scalar.isFinite v = true)
    (hbound : v.quanta * 2 ^ e ≤ 2 ^ 53 * unit) : v ≤ lineCoordinate first frequency n := by
  have hpos : 0 < 2 ^ e * unit := Nat.mul_pos (Nat.two_pow_pos e) unit_pos
  have hunits : (Scalar.ofNat n : Binary64).HasQuanta (n * unit) := hasQuanta_ofNat hn
  -- the number `2 ^ 53` is between the two
  obtain ⟨w, hw, hwq⟩ := exists_whole (k := 2 ^ 53) (by decide)
  obtain ⟨hquotient, hexact⟩ := div_two_pow_quanta he hw hwq (by decide) hf
  have hbefore : v ≤ w / frequency := by
    rw [le_iff_quanta hv hquotient]
    refine Int.le_of_mul_le_mul_right (a := 2 ^ e) ?_ (by positivity)
    rw [hexact, hwq]
    exact hbound
  have hsum : w ≤ first + Scalar.ofNat n := by
    rw [le_iff_rank (rank_eq hw) (add_rank hfirst hunits.isFinite), hwq, hk, hunits.quanta_cast,
      Int.natCast_mul, ← Int.add_mul]
    refine nearestRank_mono Nat.one_pos Nat.one_pos ?_
    rw [Int.natCast_one, Int.mul_one, Int.mul_one]
    exact Int.mul_le_mul_of_nonneg_right hpast (Int.natCast_nonneg unit)
  exact Binary64.le_trans hbefore (div_le_div hf hpos hsum)

/-- Past the bounds there is a number that is exact, followed by one that is out of bounds. -/
theorem exists_last_exact {count : Nat} (hcount : 2 ≤ count) (hk : IsMagnitude (k * unit).natAbs)
    (hfar : ¬ (-2 ^ 53 ≤ k ∧ k + (count - 1 : Nat) ≤ 2 ^ 53)) :
    ∃ n, n + 1 < count ∧ IsMagnitude ((k + n) * unit).natAbs ∧ 2 ^ 53 < (k + n + 1).natAbs := by
  by_cases hinside : -2 ^ 53 ≤ k ∧ k < 2 ^ 53
  · refine ⟨(2 ^ 53 - k).toNat, by omega, isMagnitude_whole (by omega), by omega⟩
  · refine ⟨0, by omega, by simpa using hk, ?_⟩
    -- below the bounds only even numbers are exact
    have heven := hk.even (by omega)
    omega

end Numbers

/-! ## Power-of-two frequencies -/

section Distinct

attribute [local irreducible] unit overflow

variable {span : Span Binary64} {frequency : Binary64} {e : Nat}

/-- If there is a line, all that it is computed from is finite, and the first number is an
integer. -/
theorem first_whole (hf : frequency.HasQuanta (2 ^ e * unit))
    (hsome : 0 < placedCount span frequency) :
    Scalar.isFinite span.stop = true ∧ Scalar.isFinite (span.start * frequency) = true ∧
      Scalar.isFinite (Scalar.ceil (span.start * frequency)) = true ∧
      ∃ k : Int, (Scalar.ceil (span.start * frequency)).quanta = k * unit := by
  obtain ⟨_, ⟨hfinite, _⟩, _⟩ := (placed_spec span frequency).1 0 hsome
  obtain ⟨hbound, hfirst⟩ := sub_finite hfinite
  obtain ⟨hproduct, hwhole⟩ := ceil_units hfirst
  exact ⟨mul_finite hf (ceil_units hbound).1, hproduct, hfirst, hwhole⟩

/-- If the coordinates are distinct, all the numbers are within the bounds. -/
theorem bounds_of_distinct (hf : frequency.HasQuanta (2 ^ e * unit))
    (hcap : placedCount span frequency ≤ maxLines) (hmany : 2 ≤ placedCount span frequency) {k : Int}
    (hfirst : Scalar.isFinite (Scalar.ceil (span.start * frequency)) = true)
    (hk : (Scalar.ceil (span.start * frequency)).quanta = k * unit)
    (hdistinct : (placedCoordinates span frequency).Pairwise (· < ·)) :
    -2 ^ 53 ≤ k ∧ k + (placedCount span frequency - 1 : Nat) ≤ 2 ^ 53 := by
  have hpos : 0 < 2 ^ e * unit := Nat.mul_pos (Nat.two_pow_pos e) unit_pos
  have hsmall : placedCount span frequency + 2 < 2 ^ 53 := by
    unfold maxLines at hcap
    omega
  have hless := (placedCoordinates_pairwise_iff span frequency).mp hdistinct
  by_contra hfar
  have hmagnitude := isMagnitude_natAbs hfirst
  rw [hk] at hmagnitude
  obtain ⟨n, hn, hnow, hpast⟩ := exists_last_exact hmany hmagnitude hfar
  rcases count_on_stops hfirst hk (by omega) hnow hpast with hsame | hsame
  · exact not_le_of_lt (hless n (n + 1) (Nat.lt_succ_self n) hn)
      (lineCoordinate_le_of_quanta_eq hfirst hf hpos (by omega) (by omega) hsame)
  · have hle : lineCoordinate _ frequency (n + 2) ≤ lineCoordinate _ frequency (n + 1) :=
      lineCoordinate_le_of_quanta_eq hfirst hf hpos (by omega) (by omega) hsame
    -- a line at the same place as one that is placed is placed too
    obtain ⟨hbefore, hroom, _⟩ := placed_spec span frequency
    rcases Nat.lt_or_ge (n + 2) (placedCount span frequency) with hnext | hlast
    · exact not_le_of_lt (hless (n + 1) (n + 2) (Nat.lt_succ_self _) hnext) hle
    · have hcount : placedCount span frequency = n + 2 := by omega
      have hstop := hroom (by omega) hcap
      rw [hcount] at hstop
      exact (hbefore (n + 1) hn).2.2 (Binary64.le_trans hstop hle)

theorem distinct_of_bounds (he : e ≤ 1074) (hf : frequency.HasQuanta (2 ^ e * unit))
    (hcap : placedCount span frequency ≤ maxLines) {k : Int}
    (hfirst : Scalar.isFinite (Scalar.ceil (span.start * frequency)) = true)
    (hk : (Scalar.ceil (span.start * frequency)).quanta = k * unit)
    (hbounds : -2 ^ 53 ≤ k ∧ k + (placedCount span frequency - 1 : Nat) ≤ 2 ^ 53) :
    (placedCoordinates span frequency).Pairwise (· < ·) := by
  refine (placedCoordinates_pairwise_iff span frequency).mpr fun m n hmn hn => ?_
  have hsmall : n < 2 ^ 53 := by
    unfold maxLines at hcap
    omega
  obtain ⟨hleft, hleftQuanta⟩ :=
    lineCoordinate_quanta (n := m) he hfirst hk hf (by omega) (by omega)
  obtain ⟨hright, hrightQuanta⟩ := lineCoordinate_quanta he hfirst hk hf hsmall (by omega)
  rw [lt_iff_quanta hleft hright]
  refine Int.lt_of_mul_lt_mul_right (a := 2 ^ e) ?_ (by positivity)
  rw [hleftQuanta, hrightQuanta]
  exact Int.mul_lt_mul_of_pos_right (by omega) (Int.natCast_pos.mpr unit_pos)

/-- Where the edges of the span are within the bounds, so are the numbers of the lines. -/
theorem bounds_of_edges (he : e ≤ 1074) (hf : frequency.HasQuanta (2 ^ e * unit))
    (hcap : placedCount span frequency ≤ maxLines) (hsome : 0 < placedCount span frequency) {k : Int}
    (hk : (Scalar.ceil (span.start * frequency)).quanta = k * unit)
    (hstart : -2 ^ 53 * unit ≤ span.start.quanta * 2 ^ e)
    (hstop : span.stop.quanta * 2 ^ e ≤ 2 ^ 53 * unit) :
    -2 ^ 53 ≤ k ∧ k + (placedCount span frequency - 1 : Nat) ≤ 2 ^ 53 := by
  obtain ⟨hstopFinite, hproduct, hfirst, _⟩ := first_whole hf hsome
  constructor
  · have hceil := (le_iff_quanta hproduct hfirst).mp (le_ceil hproduct)
    rw [mul_two_pow_quanta (mul_finite hf hproduct) hf hproduct, hk] at hceil
    exact Int.le_of_mul_le_mul_right (hstart.trans hceil) (Int.natCast_pos.mpr unit_pos)
  · by_contra hmore
    have hsmall : placedCount span frequency - 1 < 2 ^ 53 := by
      unfold maxLines at hcap
      omega
    have hpast := le_lineCoordinate_of_bound he hfirst hk hf hsmall (by omega) hstopFinite hstop
    exact ((placed_spec span frequency).1 _ (Nat.sub_one_lt hsome.ne')).2.2 hpast

end Distinct

/-! ## Tiers of the default style -/

/-- The default frequencies are small powers of two. -/
theorem default_frequency {tier : Tier Binary64} {frequency : Binary64}
    (htier : tier ∈ Style.default.tiers) (hkind : tier.kind = .lines frequency) :
    ∃ e ≤ 1074, frequency.HasQuanta (2 ^ e * unit) := by
  rcases List.mem_cons.mp htier with rfl | htier
  · obtain rfl : Scalar.ofNat 4 = frequency := TierKind.lines.inj hkind
    exact ⟨2, by decide, hasQuanta_ofNat (by decide)⟩
  · rcases List.mem_cons.mp htier with rfl | htier
    · obtain rfl : Scalar.ofNat 1 = frequency := TierKind.lines.inj hkind
      exact ⟨0, by decide, hasQuanta_ofNat (by decide)⟩
    · obtain rfl := List.mem_singleton.mp htier
      cases hkind

/-- **How far lines are distinct.** In every view and on every canvas the lines of a default tier are
placed at the pixels of coordinates that are in order. The order is strict just if there are not two
lines or all their numbers are between `-2 ^ 53` and `2 ^ 53`, as they are if the edges of the span
are, in units of the grid. -/
theorem lines_distinct_iff (view : View Binary64) (size : Size Binary64) (axis : Axis)
    (tier : Tier Binary64) (frequency : Binary64) (htier : tier ∈ Style.default.tiers)
    (hkind : tier.kind = .lines frequency) (buffer : Array Binary64) :
    let span := (Projection.ofView view size).span axis
    let first := Scalar.ceil (span.start * frequency)
    let coordinates := placedCoordinates span frequency
    (linePositions span tier.kind buffer).2.toList =
        (coordinates.map fun c => alignPixel (span.toScreen c)) ∧
      coordinates.Pairwise (· ≤ ·) ∧
      (coordinates.Pairwise (· < ·) ↔ coordinates.length ≤ 1 ∨
        -2 ^ 53 ≤ first.toRat ∧ first.toRat + (coordinates.length - 1 : Nat) ≤ 2 ^ 53) ∧
      (-2 ^ 53 ≤ span.start.toRat * frequency.toRat →
        span.stop.toRat * frequency.toRat ≤ 2 ^ 53 → coordinates.Pairwise (· < ·)) := by
  intro span first coordinates
  obtain ⟨e, he, hf⟩ := default_frequency htier hkind
  have hpos : 0 < 2 ^ e * unit := Nat.mul_pos (Nat.two_pow_pos e) unit_pos
  have hcap : placedCount span frequency ≤ maxLines := by
    obtain ⟨hvalid, hnot⟩ := default_not_isOverfull htier span
    rw [← maxLines_lt_size_iff_of_isValid hvalid span #[], hkind] at hnot
    exact Nat.not_lt.mp hnot
  have hlength : coordinates.length = placedCount span frequency :=
    placedCoordinates_length span frequency
  obtain ⟨hbefore, _, hpixels⟩ := placed_spec span frequency
  rw [hkind]
  refine ⟨hpixels buffer, ?_, ?_⟩
  · refine (placedCoordinates_pairwise_iff span frequency).mpr fun m n hmn hn => ?_
    obtain ⟨_, _, hfirst, _⟩ := first_whole hf (Nat.zero_lt_of_lt hn)
    refine lineCoordinate_mono hfirst hf hpos hmn.le ?_
    unfold maxLines at hcap
    omega
  · rcases Nat.eq_zero_or_pos (placedCount span frequency) with hnone | hsome
    · have hnil : coordinates = [] := List.length_eq_zero_iff.mp (hlength.trans hnone)
      rw [hnil]
      exact ⟨iff_of_true .nil (.inl (Nat.zero_le 1)), fun _ _ => .nil⟩
    · obtain ⟨_, _, hfirst, k, hk⟩ := first_whole hf hsome
      have hunit : (0 : Rat) < unit := Nat.cast_pos.mpr unit_pos
      rw [hlength, toRat_whole hk, toRat_mul_two_pow _ hf, toRat_mul_two_pow _ hf,
        le_div_iff₀ hunit, div_le_iff₀ hunit]
      refine ⟨⟨fun hdistinct => ?_, ?_⟩, fun hstart hstop => ?_⟩
      · rcases Nat.lt_or_ge (placedCount span frequency) 2 with hone | hmany
        · exact .inl (Nat.le_of_lt_succ hone)
        · have hbounds := bounds_of_distinct hf hcap hmany hfirst hk hdistinct
          exact .inr (by exact_mod_cast hbounds)
      · rintro (hone | hbounds)
        · refine (placedCoordinates_pairwise_iff span frequency).mpr fun m n hmn hn => ?_
          omega
        · exact distinct_of_bounds he hf hcap hfirst hk (by exact_mod_cast hbounds)
      · refine distinct_of_bounds he hf hcap hfirst hk (bounds_of_edges he hf hcap hsome hk ?_ ?_)
        · exact_mod_cast hstart
        · exact_mod_cast hstop

/-- At the default scale and dragged to the coordinate ten to the ninth, the tier of one line to a
unit has its lines at the integers. -/
theorem lines_distinct_at_billion :
    let calls : List (Viewport.Call Binary64 Unit) :=
      [.beginPan ⟨Scalar.zero, Scalar.zero⟩, .updatePan ⟨-Scalar.ofNat 70000000000, Scalar.zero⟩,
        .endPan]
    let view := ((Viewport.create 0 (.ofChanges [])).run calls).view
    let size : Size Binary64 := ⟨Scalar.ofNat 280, Scalar.ofNat 1⟩
    let span := (Projection.ofView view size).span .x
    Tier.major ∈ (Style.default : Style Binary64).tiers ∧
      (Tier.major : Tier Binary64).kind = .lines (Scalar.ofNat 1) ∧
      -2 ^ 53 ≤ span.start.toRat * (Scalar.ofNat 1 : Binary64).toRat ∧
      span.stop.toRat * (Scalar.ofNat 1 : Binary64).toRat ≤ 2 ^ 53 ∧
      (placedCoordinates span (Scalar.ofNat 1)).Pairwise (· < ·) ∧
      (placedCoordinates span (Scalar.ofNat 1)).map toRat =
        [999999998, 999999999, 1000000000, 1000000001] := by
  intro calls view size span
  have htier : Tier.major ∈ (Style.default : Style Binary64).tiers :=
    List.mem_cons_of_mem _ List.mem_cons_self
  have hstart : -2 ^ 53 ≤ span.start.toRat * (Scalar.ofNat 1 : Binary64).toRat := by
    decide +kernel
  have hstop : span.stop.toRat * (Scalar.ofNat 1 : Binary64).toRat ≤ 2 ^ 53 := by
    decide +kernel
  obtain ⟨_, _, _, hwithin⟩ := lines_distinct_iff view size .x .major (Scalar.ofNat 1) htier rfl #[]
  exact ⟨htier, rfl, hstart, hstop, hwithin hstart hstop, by decide +kernel⟩

/-- Dragged to the coordinate `2 ^ 53 + 2`, a canvas of 140 by 1 pixels shows two units, and of these
the coordinate `2 ^ 53` is the only number. A layer in the default style has the lines there twice,
of the tier with four lines to a unit five times, all of them drawn at the first pixel. -/
theorem lines_repeat_far_out :
    let calls : List (Viewport.Call Binary64 Unit) :=
      [.beginPan ⟨Scalar.zero, Scalar.zero⟩,
        .updatePan ⟨-Scalar.ofNat 630503947831869568, Scalar.zero⟩, .endPan]
    let view := ((Viewport.create 0 (.ofChanges [])).run calls).view
    let size : Size Binary64 := ⟨Scalar.ofNat 140, Scalar.ofNat 1⟩
    let p := Projection.ofView view size
    let coordinates := placedCoordinates (p.span .x)
    (p.span .x).start.toRat = 2 ^ 53 ∧ (p.span .x).stop.toRat = 2 ^ 53 + 2 ∧
      (coordinates (Scalar.ofNat 1)).map toRat = [2 ^ 53, 2 ^ 53] ∧
      ¬ (coordinates (Scalar.ofNat 1)).Pairwise (· < ·) ∧
      ¬ (coordinates (Scalar.ofNat 4)).Pairwise (· < ·) ∧
      ∀ placed ∈ [((Tier.minor : Tier Binary64), 5), (.major, 2)],
        linePositions (p.span .x) placed.1.kind #[] =
            (.ok (), (List.replicate placed.2 (pixelCentre 0)).toArray) ∧
          .draw (.strokePath (Layer.crossLines p.canvas .x
              (List.replicate placed.2 (pixelCentre 0)) ++
            Layer.crossLines p.canvas .y [pixelCentre 1])) ∈
            ((Layer.new .default).paint view size).ops := by
  decide +kernel

end Grid

end PanZoom
