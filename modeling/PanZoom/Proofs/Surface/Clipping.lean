import PanZoom.Proofs.Binary64.Order
import PanZoom.Proofs.Surface.Replay

/-!
# The common part of clips

The common part of two rectangles has no point that one of them lacks, also where they are disjoint
and its far corner is moved up to the near one: a coordinate that is past the near edges is before
such a far edge just if it was before both. So the clip that a recording reports is the common part
of all rectangles on its stack, however many there are and in whatever order their corners are, as
long as no coordinate is NaN (`clip_is_common_part`).
-/

namespace PanZoom

/-- No coordinate is NaN. Corners may be infinite, and the second one may lie before the first. -/
def Rect.IsNumeric {α : Type} [Scalar α] (r : Rect α) : Prop :=
  Scalar.isNaN r.x0 = false ∧ Scalar.isNaN r.y0 = false ∧
    Scalar.isNaN r.x1 = false ∧ Scalar.isNaN r.y1 = false

instance {α : Type} [Scalar α] (r : Rect α) : Decidable r.IsNumeric :=
  inferInstanceAs (Decidable (_ ∧ _))

namespace Binary64

variable {a a' b b' : Binary64}

/-- On one axis, with near edges `a` and `a'` and far edges `b` and `b'`: what is within both pairs
of edges. -/
theorem within_common (ha : Scalar.isNaN a = false) (ha' : Scalar.isNaN a' = false)
    (hb : Scalar.isNaN b = false) (hb' : Scalar.isNaN b' = false) (x : Binary64) :
    (Scalar.max a a' ≤ x ∧ x < Scalar.max (Scalar.min b b') (Scalar.max a a')) ↔
      (a ≤ x ∧ x < b) ∧ a' ≤ x ∧ x < b' := by
  obtain ⟨m, hm⟩ := exists_rank ha
  obtain ⟨m', hm'⟩ := exists_rank ha'
  obtain ⟨n, hn⟩ := exists_rank hb
  obtain ⟨n', hn'⟩ := exists_rank hb'
  have hnear := rank_max hm hm'
  have hfar := rank_max (rank_min hn hn') hnear
  cases hx : x.rank? with
  | none =>
      -- NaN is within nothing
      have hnan : ∀ y : Binary64, ¬ y ≤ x := by
        intro y hle
        obtain ⟨_, k, _, hk, _⟩ := ranked_iff.mp (le_iff.mp hle)
        rw [hx] at hk
        cases hk
      exact iff_of_false (fun h => hnan _ h.1) (fun h => hnan _ h.1.1)
  | some k =>
      rw [le_iff_rank hnear hx, lt_iff_rank hx hfar, le_iff_rank hm hx, lt_iff_rank hx hn,
        le_iff_rank hm' hx, lt_iff_rank hx hn']
      omega

end Binary64

namespace Rect

variable {r s : Rect Binary64}

theorem IsNumeric.intersect (hr : r.IsNumeric) (hs : s.IsNumeric) : (r.intersect s).IsNumeric := by
  obtain ⟨hx0, hy0, hx1, hy1⟩ := hr
  obtain ⟨hx0', hy0', hx1', hy1'⟩ := hs
  have hx := Binary64.max_not_nan hx0 hx0'
  have hy := Binary64.max_not_nan hy0 hy0'
  exact ⟨hx, hy, Binary64.max_not_nan (Binary64.min_not_nan hx1 hx1') hx,
    Binary64.max_not_nan (Binary64.min_not_nan hy1 hy1') hy⟩

theorem contains_intersect (hr : r.IsNumeric) (hs : s.IsNumeric) (p : Point Binary64) :
    (r.intersect s).Contains p ↔ r.Contains p ∧ s.Contains p := by
  obtain ⟨hx0, hy0, hx1, hy1⟩ := hr
  obtain ⟨hx0', hy0', hx1', hy1'⟩ := hs
  have hx := Binary64.within_common hx0 hx0' hx1 hx1' p.x
  have hy := Binary64.within_common hy0 hy0' hy1 hy1' p.y
  unfold Contains Rect.intersect
  rw [← and_assoc, hx, hy, and_and_and_comm]
  simp only [and_assoc]

theorem contains_foldl_intersect {rs : List (Rect Binary64)} (hr : r.IsNumeric)
    (hrs : ∀ s ∈ rs, s.IsNumeric) (p : Point Binary64) :
    (rs.foldl Rect.intersect r).Contains p ↔ r.Contains p ∧ ∀ s ∈ rs, s.Contains p := by
  induction rs generalizing r with
  | nil => simp
  | cons s rest ih =>
      obtain ⟨hs, hrest⟩ := List.forall_mem_cons.mp hrs
      rw [List.foldl_cons, ih (hr.intersect hs) hrest, contains_intersect hr hs, and_assoc,
        List.forall_mem_cons]

end Rect

/-- The common part of a stack of clips holds the points that are in all of them. -/
theorem Snapshot.contains_clipOf {clips : List (Rect Binary64)} {clip : Rect Binary64}
    (h : clipOf clips = some clip) (numeric : ∀ rect ∈ clips, rect.IsNumeric)
    (p : Point Binary64) : clip.Contains p ↔ ∀ rect ∈ clips, rect.Contains p := by
  cases clips with
  | nil => cases h
  | cons r rest =>
      obtain rfl := Option.some.inj h
      obtain ⟨hr, hrest⟩ := List.forall_mem_cons.mp numeric
      rw [Rect.contains_foldl_intersect hr hrest, List.forall_mem_cons]

namespace Recording

section Stack

variable {α : Type}

/-- The open clips after a call, the earliest first. -/
def Call.onClips (clips : List (Rect α)) (call : Call α) : List (Rect α) :=
  match call.op? with
  | some (.state (.pushClip rect)) => clips ++ [rect]
  | some (.state .popClip) => clips.dropLast
  | _ => clips

/-- The clips that were pushed and not popped yet. -/
def openClips (calls : List (Call α)) : List (Rect α) := calls.foldl Call.onClips []

/-- The clip that a call pushes, if it pushes one. -/
def Call.pushed? (call : Call α) : Option (Rect α) :=
  match call.op? with
  | some (.state (.pushClip rect)) => some rect
  | _ => none

theorem Call.mem_onClips {clips : List (Rect α)} {call : Call α} {rect : Rect α}
    (h : rect ∈ call.onClips clips) : rect ∈ clips ∨ call.pushed? = some rect := by
  unfold onClips at h
  split at h
  · rename_i pushed hop
    rcases List.mem_append.mp h with hold | hnew
    · exact .inl hold
    · obtain rfl := List.mem_singleton.mp hnew
      refine .inr ?_
      rw [Call.pushed?, hop]
  · exact .inl (List.dropLast_subset _ h)
  · exact .inl h

/-- An open clip was pushed at some time. -/
theorem mem_pushed_of_mem_openClips {calls : List (Call α)} {rect : Rect α}
    (h : rect ∈ openClips calls) : rect ∈ calls.filterMap Call.pushed? := by
  induction calls using List.reverseRecOn with
  | nil => cases h
  | append_singleton calls call ih =>
      rw [openClips, List.foldl_concat] at h
      rw [List.filterMap_append, List.mem_append]
      rcases Call.mem_onClips h with hold | hpushed
      · exact .inl (ih hold)
      · exact .inr (List.mem_filterMap.mpr ⟨call, List.mem_singleton_self call, hpushed⟩)

variable [Scalar α]

theorem perform_clips (r : Recording α) (call : Call α) :
    (r.perform call).clips = call.onClips r.clips := by
  cases call with
  | state op => cases op <;> rfl
  | draw | pushClip | popClip | setSize | clearEvents => rfl

theorem run_clips (size : Size α) (calls : List (Call α)) :
    ((new size).run calls).clips = openClips calls :=
  (List.foldl_hom Recording.clips fun r call => (perform_clips r call).symm).symm

end Stack

/-- **The clip is the common part of all clips.** After any calls whose clips have no NaN coordinate,
a recording shows the number of the clips that were pushed and not popped yet, as far as it can
count; it shows no clip just if there are none; and otherwise the clip that it shows holds just the
points that are in all of them. -/
theorem clip_is_common_part (size : Size Binary64) (calls : List (Call Binary64))
    (numeric : ∀ rect ∈ calls.filterMap Call.pushed?, rect.IsNumeric) :
    let shown := ((new size).run calls).state
    let clips := openClips calls
    (clips.length < 2 ^ 32 → shown.clipDepth = clips.length) ∧
      (shown.clip? = none ↔ clips = []) ∧
      ∀ clip, shown.clip? = some clip → ∀ p, clip.Contains p ↔ ∀ rect ∈ clips, rect.Contains p := by
  intro shown clips
  have hclips : ((new size).run calls).context.clips = clips := run_clips size calls
  have hshown : shown = ((new size).run calls).context.snapshot := (run_logged size calls).state
  have hclip : shown.clip? = Snapshot.clipOf clips := by
    rw [hshown, ← hclips]
    rfl
  have hdepth : shown.clipDepth = min clips.length (UInt32.size - 1) := by
    rw [hshown, ← hclips]
    rfl
  refine ⟨?_, ?_, ?_⟩
  · intro hfew
    rw [hdepth]
    exact min_eq_left (Nat.le_pred_of_lt hfew)
  · rw [hclip]
    cases clips with
    | nil => exact iff_of_true rfl rfl
    | cons r rest => exact iff_of_false (Option.some_ne_none _) (List.cons_ne_nil _ _)
  · intro clip h p
    rw [hclip] at h
    refine Snapshot.contains_clipOf h ?_ p
    intro rect hrect
    exact numeric rect (mem_pushed_of_mem_openClips hrect)

/-- A clip too many is popped, then one without bounds, two that are disjoint and one with its corners
out of order are pushed. -/
theorem common_part_of_disjoint_clips :
    let everywhere : Rect Binary64 := ⟨.inf true, .inf true, .inf false, .inf false⟩
    let left : Rect Binary64 := ⟨Scalar.zero, Scalar.zero, Scalar.ofNat 4, Scalar.ofNat 9⟩
    let right : Rect Binary64 := ⟨Scalar.ofNat 6, Scalar.zero, Scalar.ofNat 8, Scalar.ofNat 9⟩
    let inverted : Rect Binary64 := ⟨Scalar.ofNat 8, Scalar.zero, Scalar.two, Scalar.ofNat 9⟩
    let calls : List (Call Binary64) :=
      [.popClip, .pushClip everywhere, .state (.pushClip left), .pushClip right, .clearEvents,
        .pushClip inverted]
    let shown := ((new ⟨.nan, .inf false⟩).run calls).state
    (∀ rect ∈ calls.filterMap Call.pushed?, rect.IsNumeric) ∧ shown.clipDepth = 4 ∧
      ∃ clip, shown.clip? = some clip ∧
        ∀ p, clip.Contains p ↔ ∀ rect ∈ [everywhere, left, right, inverted], rect.Contains p := by
  intro everywhere left right inverted calls shown
  have numeric : ∀ rect ∈ calls.filterMap Call.pushed?, rect.IsNumeric := by decide +kernel
  obtain ⟨hdepth, hnone, hclip⟩ := clip_is_common_part ⟨.nan, .inf false⟩ calls numeric
  have hopen : openClips calls = [everywhere, left, right, inverted] := rfl
  refine ⟨numeric, hdepth (by decide), ?_⟩
  cases hshown : shown.clip? with
  | none => cases hnone.mp hshown
  | some clip => exact ⟨clip, rfl, hopen ▸ hclip clip hshown⟩

end Recording

end PanZoom
