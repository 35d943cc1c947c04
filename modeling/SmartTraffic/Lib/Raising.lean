import Mathlib

/-!
# Loops that raise

A function that may raise has its result in `Except`. A loop of such a function over a list,
`List.mapM`, has a result exactly if every round has one, and then it is the list of
theirs.
-/

namespace SmartTraffic.Lib

variable {ε A B : Type} {f : A → Except ε B}

theorem map_eq_ok {x : Except ε A} {g : A → B} {b : B} (h : x.map g = .ok b) :
    ∃ a, x = .ok a ∧ g a = b := by
  cases x with
  | error e => cases h
  | ok a => exact ⟨a, rfl, Except.ok.inj h⟩

theorem map_isOk_iff {x : Except ε A} {g : A → B} :
    (∃ b, x.map g = .ok b) ↔ ∃ a, x = .ok a := by
  cases x with
  | error e =>
      refine iff_of_false ?_ ?_
      · rintro ⟨b, h⟩
        cases h
      · rintro ⟨a, h⟩
        cases h
  | ok a => exact iff_of_true ⟨g a, rfl⟩ ⟨a, rfl⟩

/-! ## Loops -/

/-- **The results of a loop are the results of its rounds.** -/
theorem mapM_eq_ok_iff {xs : List A} {ys : List B} :
    xs.mapM f = .ok ys ↔ List.Forall₂ (fun x y => f x = .ok y) xs ys := by
  induction xs generalizing ys with
  | nil =>
      rw [List.mapM_nil, List.forall₂_nil_left_iff]
      exact ⟨fun h => (Except.ok.inj h).symm, fun h => congrArg _ h.symm⟩
  | cons x xs ih =>
      rw [List.mapM_cons, List.forall₂_cons_left_iff]
      cases hx : f x with
      | error e =>
          refine iff_of_false (fun h => ?_) ?_
          · cases h
          · rintro ⟨y, ys', h, -⟩
            cases h
      | ok y =>
          cases hxs : xs.mapM f with
          | error e =>
              refine iff_of_false (fun h => ?_) ?_
              · cases h
              · rintro ⟨y', ys', -, h, -⟩
                rw [← ih, hxs] at h
                cases h
          | ok ys' =>
              constructor
              · intro h
                obtain rfl := Except.ok.inj h
                exact ⟨y, ys', rfl, ih.mp hxs, rfl⟩
              · rintro ⟨y', ys'', hy, hys, rfl⟩
                obtain rfl := Except.ok.inj hy
                rw [← ih, hxs] at hys
                obtain rfl := Except.ok.inj hys
                rfl

/-- An element has its partner. -/
theorem exists_of_forall₂ {R : A → B → Prop} {xs : List A} {ys : List B} (h : List.Forall₂ R xs ys)
    {x : A} (hx : x ∈ xs) : ∃ y ∈ ys, R x y := by
  induction h with
  | nil => exact absurd hx List.not_mem_nil
  | cons hxy _ ih =>
      rcases List.mem_cons.mp hx with rfl | hx
      · exact ⟨_, List.mem_cons_self, hxy⟩
      · obtain ⟨y, hy, hR⟩ := ih hx
        exact ⟨y, List.mem_cons_of_mem _ hy, hR⟩

/-- A loop has a result exactly if every round has one. -/
theorem mapM_isOk_iff {xs : List A} :
    (∃ ys, xs.mapM f = .ok ys) ↔ ∀ x ∈ xs, ∃ y, f x = .ok y := by
  simp only [mapM_eq_ok_iff]
  induction xs with
  | nil => simp
  | cons x xs ih =>
      rw [List.forall_mem_cons, ← ih]
      constructor
      · rintro ⟨ys, h⟩
        obtain ⟨y, ys, hy, hys, -⟩ := List.forall₂_cons_left_iff.mp h
        exact ⟨⟨y, hy⟩, ys, hys⟩
      · rintro ⟨⟨y, hy⟩, ys, hys⟩
        exact ⟨y :: ys, List.Forall₂.cons hy hys⟩

end SmartTraffic.Lib
