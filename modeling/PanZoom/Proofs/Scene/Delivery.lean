import PanZoom.Proofs.Scene.Switchboard

/-!
# Delivering notices

A delivery tells the user, or marks a layer and asks its host for a repaint. It leaves the wiring
alone, and a layer that is in another generation than the handler is left alone altogether.
-/

namespace PanZoom

variable {α : Type}

namespace Grid.Layer

theorem mark_generation (l : Layer α) (generation : UInt64) :
    (l.mark generation).1.generation = l.generation := by
  unfold mark
  split <;> rfl

theorem mark_attachment (l : Layer α) (generation : UInt64) :
    (l.mark generation).1.attachment? = l.attachment? := by
  unfold mark
  split <;> rfl

end Grid.Layer

namespace Scene

theorem deliver_user (s : Scene α) {n : Notice α Handler} {tag : Nat} (h : n.handler = .user tag) :
    s.deliver n = (s, [.told tag n.change]) := by
  unfold deliver
  rw [h]

theorem deliver_marker (s : Scene α) {n : Notice α Handler} {i : Nat} {generation : UInt64}
    {host : String} (h : n.handler = .marker i generation host) :
    s.deliver n =
      match s.layers[i]? with
      | none => (s, [])
      | some l => (s.setLayer i (l.mark generation).1,
          if (l.mark generation).2 then [.repaint host] else []) := by
  cases hi : s.layers[i]? with
  | none => simp only [deliver, h, hi]
  | some l => simp only [deliver, h, hi]

/-- A delivery changes nothing but the mark of a layer. -/
theorem deliver_fst (s : Scene α) (n : Notice α Handler) :
    (s.deliver n).1 = s ∨ ∃ i l generation, s.layers[i]? = some l ∧
      (s.deliver n).1 = s.setLayer i (l.mark generation).1 := by
  cases hn : n.handler with
  | user tag => exact .inl (by rw [deliver_user s hn])
  | marker i generation host =>
      rw [deliver_marker s hn]
      cases hi : s.layers[i]? with
      | none => exact .inl rfl
      | some l => exact .inr ⟨i, l, generation, hi, rfl⟩

theorem deliver_viewports (s : Scene α) (n : Notice α Handler) :
    (s.deliver n).1.viewports = s.viewports := by
  rcases deliver_fst s n with hsame | ⟨i, l, generation, _, hmarked⟩
  · rw [hsame]
  · rw [hmarked]
    rfl

theorem deliver_switchboard (s : Scene α) (n : Notice α Handler) :
    (s.deliver n).1.switchboard = s.switchboard := by
  rcases deliver_fst s n with hsame | ⟨i, l, generation, hi, hmarked⟩
  · rw [hsame]
  · rw [hmarked, switchboard_setLayer s hi, Switchboard.withLayer_congr _ _
      (l.mark_generation generation) (l.mark_attachment generation), withLayer_self s hi]

theorem deliverAll_viewports (s : Scene α) (notices : List (Notice α Handler)) :
    (s.deliverAll notices).1.viewports = s.viewports := by
  induction notices generalizing s with
  | nil => rfl
  | cons n rest ih =>
      simp only [deliverAll]
      rw [ih, deliver_viewports]

/-- Delivering notices marks layers and leaves the wiring alone. -/
theorem deliverAll_switchboard (s : Scene α) (notices : List (Notice α Handler)) :
    (s.deliverAll notices).1.switchboard = s.switchboard := by
  induction notices generalizing s with
  | nil => rfl
  | cons n rest ih =>
      simp only [deliverAll]
      rw [ih, deliver_switchboard]

/-! ## Delivery to the dead -/

theorem setViewport_self (s : Scene α) {j : Nat} {v : Viewport α Handler}
    (hj : s.viewports[j]? = some v) : s.setViewport j v = s := by
  obtain ⟨hlt, hget⟩ := List.getElem?_eq_some_iff.mp hj
  rw [setViewport, ← hget, List.set_getElem_self]

theorem setLayer_self (s : Scene α) {i : Nat} {l : Grid.Layer α} (hi : s.layers[i]? = some l) :
    s.setLayer i l = s := by
  obtain ⟨hlt, hget⟩ := List.getElem?_eq_some_iff.mp hi
  rw [setLayer, ← hget, List.set_getElem_self]

/-- A handler of another generation than that of its layer does nothing. -/
theorem deliver_dead (s : Scene α) {n : Notice α Handler} {i : Nat} {generation : UInt64}
    {host : String} (hn : n.handler = .marker i generation host)
    (hdead : s.switchboard.generation i ≠ generation) : s.deliver n = (s, []) := by
  rw [deliver_marker s hn]
  cases hi : s.layers[i]? with
  | none => rfl
  | some l =>
      have hgeneration : l.generation ≠ generation := by
        simpa [switchboard, hi] using hdead
      have hmark : l.mark generation = (l, false) :=
        if_neg fun hboth => hgeneration hboth.1
      dsimp only
      rw [hmark, setLayer_self s hi]
      rfl

/-- A notice that changes a layer is delivered to a handler of its present generation. -/
theorem deliver_marks {s : Scene α} {n : Notice α Handler} {i : Nat}
    (h : (s.deliver n).1.layers[i]? ≠ s.layers[i]?) :
    ∃ host, n.handler = .marker i (s.switchboard.generation i) host := by
  cases hn : n.handler with
  | user tag =>
      rw [deliver_user s hn] at h
      exact absurd rfl h
  | marker i' generation host =>
      by_cases hdead : s.switchboard.generation i' = generation
      · -- a live handler changes its own layer only
        by_cases hi : i' = i
        · rw [← hdead, hi]
          exact ⟨host, rfl⟩
        · rcases deliver_fst s n with hsame | ⟨i₀, l, generation₀, _, hmarked⟩
          · rw [hsame] at h
            exact absurd rfl h
          · refine absurd ?_ h
            rw [deliver_marker s hn]
            cases s.layers[i']? with
            | none => rfl
            | some l => exact List.getElem?_set_ne hi
      · rw [deliver_dead s hn hdead] at h
        exact absurd rfl h

/-- A notice that asks for a repaint is delivered to a handler of the present generation. -/
theorem deliver_asks {s : Scene α} {n : Notice α Handler} {host : String}
    (h : .repaint host ∈ (s.deliver n).2) :
    ∃ i, n.handler = .marker i (s.switchboard.generation i) host := by
  cases hn : n.handler with
  | user tag =>
      rw [deliver_user s hn] at h
      cases List.mem_singleton.mp h
  | marker i generation host' =>
      by_cases hdead : s.switchboard.generation i = generation
      · rw [deliver_marker s hn] at h
        cases hi : s.layers[i]? with
        | none =>
            rw [hi] at h
            cases h
        | some l =>
            simp only [hi] at h
            split at h
            · obtain rfl := Firing.repaint.inj (List.mem_singleton.mp h)
              exact ⟨i, by rw [hdead]⟩
            · cases h
      · rw [deliver_dead s hn hdead] at h
        cases h

theorem deliverAll_marks {s : Scene α} {notices : List (Notice α Handler)} {i : Nat}
    (h : (s.deliverAll notices).1.layers[i]? ≠ s.layers[i]?) :
    ∃ n ∈ notices, ∃ host, n.handler = .marker i (s.switchboard.generation i) host := by
  induction notices generalizing s with
  | nil => exact absurd rfl h
  | cons n rest ih =>
      by_cases hfirst : (s.deliver n).1.layers[i]? = s.layers[i]?
      · rw [← hfirst] at h
        obtain ⟨n', hn', host, hmarker⟩ := ih (s := (s.deliver n).1) h
        rw [deliver_switchboard] at hmarker
        exact ⟨n', List.mem_cons_of_mem _ hn', host, hmarker⟩
      · exact ⟨n, List.mem_cons_self, deliver_marks hfirst⟩

theorem deliverAll_asks {s : Scene α} {notices : List (Notice α Handler)} {host : String}
    (h : .repaint host ∈ (s.deliverAll notices).2) :
    ∃ n ∈ notices, ∃ i, n.handler = .marker i (s.switchboard.generation i) host := by
  induction notices generalizing s with
  | nil => cases h
  | cons n rest ih =>
      simp only [deliverAll] at h
      rcases List.mem_append.mp h with hfirst | hrest
      · exact ⟨n, List.mem_cons_self, deliver_asks hfirst⟩
      · obtain ⟨n', hn', i, hmarker⟩ := ih hrest
        rw [deliver_switchboard] at hmarker
        exact ⟨n', List.mem_cons_of_mem _ hn', i, hmarker⟩

/-! ## Telling the user -/

/-- What the user is told by a notice. -/
def noticed? (n : Notice α Handler) : Option (Nat × Change α) :=
  match n.handler with
  | .user tag => some (tag, n.change)
  | .marker _ _ _ => none

/-- What the user is told, as seen from outside. -/
def Firing.told? : Firing α → Option (Nat × Change α)
  | .told tag change => some (tag, change)
  | .repaint _ => none

theorem deliverAll_told (s : Scene α) (notices : List (Notice α Handler)) :
    (s.deliverAll notices).2.filterMap Firing.told? = notices.filterMap noticed? := by
  induction notices generalizing s with
  | nil => rfl
  | cons n rest ih =>
      have hfirst : (s.deliver n).2.filterMap Firing.told? = (noticed? n).toList := by
        cases hn : n.handler with
        | user tag =>
            rw [deliver_user s hn]
            simp [Firing.told?, noticed?, hn]
        | marker i generation host =>
            rw [deliver_marker s hn]
            simp only [noticed?, hn]
            cases s.layers[i]? with
            | none => rfl
            | some l =>
                dsimp only
                split <;> rfl
      simp only [deliverAll, List.filterMap_append, hfirst, ih]
      cases hn : noticed? n with
      | none =>
          rw [List.filterMap_cons_none hn]
          rfl
      | some told =>
          rw [List.filterMap_cons_some hn]
          rfl

end Scene

end PanZoom
