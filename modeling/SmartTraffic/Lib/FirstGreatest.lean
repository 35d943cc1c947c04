import Mathlib

/-!
# The first greatest element

`np.argmax` and a scan that keeps the best seen so far, replacing it only by
something strictly better, both end at the first of the greatest elements: all that
comes before it is smaller, and nothing after it is greater.
-/

namespace SmartTraffic.Lib

variable {α β : Type} [LinearOrder β]

/-- `a` is the first greatest element of `before ++ a :: after`. -/
structure FirstGreatest (f : α → β) (l before : List α) (a : α) (after : List α) : Prop where
  split : l = before ++ a :: after
  before_lt : ∀ b ∈ before, f b < f a
  after_le : ∀ b ∈ after, f b ≤ f a

namespace FirstGreatest

variable {f : α → β} {l before after : List α} {a : α}

theorem mem (h : FirstGreatest f l before a after) : a ∈ l := by
  rw [h.split]
  exact List.mem_append_right _ List.mem_cons_self

theorem le (h : FirstGreatest f l before a after) : ∀ b ∈ l, f b ≤ f a := by
  intro b hb
  rw [h.split] at hb
  rcases List.mem_append.mp hb with hb | hb
  · exact (h.before_lt b hb).le
  · rcases List.mem_cons.mp hb with rfl | hb
    · exact le_rfl
    · exact h.after_le b hb

theorem getElem? (h : FirstGreatest f l before a after) : l[before.length]? = some a := by
  rw [h.split]
  simp

/-- What is as great does not stand before it. -/
theorem length_le (h : FirstGreatest f l before a after) {i : Nat} {b : α} (hi : l[i]? = some b)
    (hb : f a ≤ f b) : before.length ≤ i := by
  by_contra hlt
  have hmem : b ∈ before := by
    rw [h.split, List.getElem?_append_left (by omega)] at hi
    exact List.mem_of_getElem? hi
  exact absurd (h.before_lt b hmem) (not_lt.mpr hb)

end FirstGreatest

/-- Every list that is not empty has a first greatest element. -/
theorem exists_firstGreatest (f : α → β) {l : List α} (h : l ≠ []) :
    ∃ before a after, FirstGreatest f l before a after := by
  induction l with
  | nil => exact absurd rfl h
  | cons x l ih =>
      by_cases hl : l = []
      · subst hl
        exact ⟨[], x, [], rfl, by simp, by simp⟩
      · obtain ⟨before, a, after, hfirst⟩ := ih hl
        by_cases hx : f x < f a
        · refine ⟨x :: before, a, after, by rw [hfirst.split]; rfl, ?_, hfirst.after_le⟩
          intro b hb
          rcases List.mem_cons.mp hb with rfl | hb
          · exact hx
          · exact hfirst.before_lt b hb
        · refine ⟨[], x, l, rfl, by simp, fun b hb => ?_⟩
          exact (hfirst.le b hb).trans (not_lt.mp hx)

/-- `np.argmax(xs)`, and `none` where it has nothing to choose from. -/
def argmaxIdx (xs : List β) : Option Nat := xs.max?.map fun top => xs.idxOf top

/-- **`np.argmax` finds the first greatest element.** -/
theorem argmaxIdx_map {f : α → β} {l before after : List α} {a : α}
    (h : FirstGreatest f l before a after) :
    argmaxIdx (l.map f) = some before.length ∧ (l.map f).max? = some (f a) := by
  have hmax : (l.map f).max? = some (f a) := by
    refine List.max?_eq_some_iff.mpr ⟨List.mem_map_of_mem h.mem, fun y hy => ?_⟩
    obtain ⟨b, hb, rfl⟩ := List.mem_map.mp hy
    exact h.le b hb
  have hnew : f a ∉ before.map f := by
    intro hmem
    obtain ⟨b, hb, hab⟩ := List.mem_map.mp hmem
    exact absurd hab (h.before_lt b hb).ne
  refine ⟨?_, hmax⟩
  unfold argmaxIdx
  rw [hmax, Option.map_some, h.split, List.map_append, List.map_cons,
    List.idxOf_append_of_notMem hnew, List.idxOf_cons_self, List.length_map, Nat.add_zero]

end SmartTraffic.Lib
