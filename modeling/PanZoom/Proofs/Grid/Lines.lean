import PanZoom.Grid.Lines

/-!
# What is placed on a span

The answer for a tier and the lines that are placed, without the buffer they are put into. The loop
places the lines up to the first that is past the end of the span, and no more than it may
(`placeFrom_spec`).
-/

namespace PanZoom

namespace Grid

variable {α : Type} [Scalar α] (span : Span α) (first frequency : α)

/-! ## The loop -/

/-- The pixel of the line `n` places after the first one. -/
def placedPixel (n : Nat) : α := alignPixel (span.toScreen (lineCoordinate first frequency n))

/-- Lines are placed one after another until one is past the end, which is not placed, or no more
may be. -/
theorem placeFrom_spec (count n : Nat) (out : Array α) :
    ∃ total ≤ count,
      placeFrom span first frequency count n out =
          out ++ ((List.range' n total).map (placedPixel span first frequency)).toArray ∧
        (∀ m, n ≤ m → m < n + total → ¬ span.stop ≤ lineCoordinate first frequency m) ∧
        (total < count → span.stop ≤ lineCoordinate first frequency (n + total)) := by
  -- on the number of lines that may still be placed
  induction count generalizing n out with
  | zero =>
      refine ⟨0, Nat.le_refl 0, by simp [placeFrom], ?_, nofun⟩
      intro m hle hlt
      omega
  | succ count ih =>
      rw [placeFrom]
      split
      · rename_i hpast
        refine ⟨0, Nat.zero_le _, by simp, ?_, fun _ => hpast⟩
        intro m hle hlt
        omega
      · rename_i hnow
        obtain ⟨total, hle, hplaced, hbefore, hpast⟩ := ih (n + 1) (out.push (alignPixel
          (span.toScreen (lineCoordinate first frequency n))))
        refine ⟨total + 1, by omega, ?_, ?_, ?_⟩
        · rw [hplaced, List.range'_succ]
          simp [placedPixel]
        · intro m hm hlt
          rcases Nat.eq_or_lt_of_le hm with rfl | hlater
          · exact hnow
          · exact hbefore m hlater (by omega)
        · intro hless
          rw [show n + (total + 1) = n + 1 + total by omega]
          exact hpast (by omega)

theorem placeFrom_size_le (count n : Nat) (out : Array α) :
    (placeFrom span first frequency count n out).size ≤ out.size + count := by
  obtain ⟨total, hle, hplaced, _, _⟩ := placeFrom_spec span first frequency count n out
  have hsize : (placeFrom span first frequency count n out).size = out.size + total := by
    simp [hplaced]
  omega

/-- All the lines that may be placed are, just if none of them is past the end. -/
theorem placeFrom_full_iff (count n : Nat) (out : Array α) :
    out.size + count ≤ (placeFrom span first frequency count n out).size ↔
      ∀ m, n ≤ m → m < n + count → ¬ span.stop ≤ lineCoordinate first frequency m := by
  obtain ⟨total, hle, hplaced, hbefore, hpast⟩ := placeFrom_spec span first frequency count n out
  have hsize : (placeFrom span first frequency count n out).size = out.size + total := by
    simp [hplaced]
  rw [hsize]
  constructor
  · intro hfull m hm hlt
    exact hbefore m hm (by omega)
  · intro hnone
    rcases Nat.lt_or_ge total count with hless | hfull
    · exact absurd (hpast hless) (hnone (n + total) (by omega) (by omega))
    · omega

/-! ## The answer -/

/-- The count of the lines of a frequency, by which a tier is left out or not. -/
def counted : α := Scalar.ceil (span.stop * frequency) - Scalar.ceil (span.start * frequency)

/-- The lines can be counted, and are not more than a tier may have. -/
def IsFew : Prop :=
  Scalar.isFinite (counted span frequency) ∧ ¬ Scalar.ofNat maxLines < counted span frequency

instance : Decidable (IsFew span frequency) := inferInstanceAs (Decidable (_ ∧ _))

/-- What is placed, without the buffer. -/
theorem linePositions_eq (buffer : Array α) :
    linePositions span (.lines frequency) buffer =
      if span.IsEmpty then (.ok (), #[])
      else if IsFew span frequency then
        (.ok (), placeFrom span (Scalar.ceil (span.start * frequency)) frequency (maxLines + 1) 0
          #[])
      else (.error ⟨counted span frequency⟩, #[]) := by
  have hshrink : buffer.shrink 0 = #[] := by simp
  have hfew : IsFew span frequency ↔ ¬ (¬ Scalar.isFinite (counted span frequency) ∨
      Scalar.ofNat maxLines < counted span frequency) := by
    rw [IsFew, not_or, Decidable.not_not]
  unfold linePositions
  rw [hshrink]
  simp only [hfew, ite_not]
  rfl

theorem linePositions_axis (buffer : Array α) :
    linePositions span .axis buffer =
      (.ok (), if ¬ span.IsEmpty ∧ span.Contains Scalar.zero then
        #[alignPixel (span.toScreen Scalar.zero)] else #[]) := by
  have hshrink : buffer.shrink 0 = #[] := by simp
  unfold linePositions
  rw [hshrink]
  by_cases hempty : span.IsEmpty
  · simp [hempty]
  · by_cases hcontains : span.Contains Scalar.zero <;> simp [hempty, hcontains]

/-- A tier that is too dense places no line. -/
theorem linePositions_of_error {kind : TierKind α} {buffer : Array α} {dense : TooDense α}
    (h : (linePositions span kind buffer).1 = .error dense) :
    (linePositions span kind buffer).2 = #[] := by
  cases kind with
  | axis =>
      rw [linePositions_axis] at h
      cases h
  | lines frequency =>
      rw [linePositions_eq] at h ⊢
      split
      · rfl
      · rename_i hseen
        rw [if_neg hseen] at h
        split
        · rename_i hfew
          rw [if_pos hfew] at h
          cases h
        · rfl

theorem linePositions_size_le (kind : TierKind α) (buffer : Array α) :
    (linePositions span kind buffer).2.size ≤ maxLines + 1 := by
  cases kind with
  | axis =>
      rw [linePositions_axis]
      split <;> simp
  | lines frequency =>
      rw [linePositions_eq]
      split
      · simp
      · split
        · have hloop := placeFrom_size_le span (Scalar.ceil (span.start * frequency)) frequency
            (maxLines + 1) 0 #[]
          rwa [Array.size_empty, Nat.zero_add] at hloop
        · simp

/-- More lines than a tier may have are placed just if none of the lines up to the one after these
is past the end. -/
theorem maxLines_lt_size_iff (buffer : Array α) :
    maxLines < (linePositions span (.lines frequency) buffer).2.size ↔
      ¬ span.IsEmpty ∧ IsFew span frequency ∧
        ∀ n ≤ maxLines, ¬ span.stop ≤
          lineCoordinate (Scalar.ceil (span.start * frequency)) frequency n := by
  have hfull := placeFrom_full_iff span (Scalar.ceil (span.start * frequency)) frequency
    (maxLines + 1) 0 #[]
  rw [Array.size_empty, Nat.zero_add] at hfull
  rw [linePositions_eq]
  by_cases hempty : span.IsEmpty
  · simp [hempty]
  · by_cases hfew : IsFew span frequency
    · rw [if_neg hempty, if_pos hfew, ← Nat.succ_le_iff, Nat.succ_eq_add_one, hfull,
        and_iff_right hempty, and_iff_right hfew]
      constructor
      · intro hbefore n hn
        exact hbefore n (Nat.zero_le n) (by omega)
      · intro hbefore n _ hn
        exact hbefore n (by omega)
    · simp [hempty, hfew]

end Grid

end PanZoom
