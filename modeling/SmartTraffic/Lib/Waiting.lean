import Mathlib

/-!
# Bounded waiting under a capped bonus

Parties take turns: the one that is served starts waiting anew, all others have
waited one round longer. A choice respects the veterans if nobody who has waited
fewer than `r` rounds is served over somebody who has waited `K`.

With at most `r + 1` parties nobody then waits more than `K + r` rounds. Someone
who has waited `K + j` rounds has been passed over `j` times since its `K`-th, each
time by another party: a party that was served among these rounds has not waited
`r` rounds again. After `r` rounds nobody is left who may pass.
-/

namespace SmartTraffic.Lib

variable {ι : Type}

/-- The waits after a round in which `i` was served. -/
def serve [DecidableEq ι] (w : ι → Nat) (i : ι) : ι → Nat := fun j => if j = i then 0 else w j + 1

/-- Whoever is served over a party that has waited `K` rounds has waited `r` rounds itself. -/
def RespectsVeterans (K r : Nat) (w : ι → Nat) (i : ι) : Prop := ∀ j, j ≠ i → K ≤ w j → r ≤ w i

/-- What the waits of any moment say about the rounds before it. -/
structure WaitBounded (K r : Nat) (w : ι → Nat) : Prop where
  /-- Nobody has waited more than `K + r` rounds. -/
  le : ∀ i, w i ≤ K + r
  /-- The parties served since the `K`-th round of a veteran are all still there. -/
  recent : ∀ i j, K + j ≤ w i → ∀ k < j, ∃ b, w b = k

theorem waitBounded_init (K r : Nat) : WaitBounded K r fun _ : ι => 0 where
  le := fun _ => Nat.zero_le _
  recent := fun i j hj k hk => by omega

/-- A veteran that has waited `K + r` rounds is served next. -/
theorem WaitBounded.lt_of_passed [Fintype ι] {K r : Nat} {w : ι → Nat}
    (h : WaitBounded K r w) (hcard : Fintype.card ι ≤ r + 1) {s i : ι} (hne : i ≠ s)
    (hs : r ≤ w s) : w i < K + r := by
  classical
  by_contra hge
  -- the others hold every wait below `r`, and the served one a larger wait
  have himage : insert (w s) (Finset.range r) ⊆ (Finset.univ.erase i).image w := by
    intro k hk
    rcases Finset.mem_insert.mp hk with rfl | hk
    · exact Finset.mem_image_of_mem w (Finset.mem_erase.mpr ⟨hne.symm, Finset.mem_univ s⟩)
    · have hkr : k < r := Finset.mem_range.mp hk
      obtain ⟨b, rfl⟩ := h.recent i r (by omega) k hkr
      have hbi : b ≠ i := by
        rintro rfl
        omega
      exact Finset.mem_image_of_mem w (Finset.mem_erase.mpr ⟨hbi, Finset.mem_univ b⟩)
  have hle := (Finset.card_le_card himage).trans Finset.card_image_le
  rw [Finset.card_insert_of_notMem (by simpa using hs), Finset.card_range,
    Finset.card_erase_of_mem (Finset.mem_univ i), Finset.card_univ] at hle
  omega

/-- **A choice that respects the veterans keeps the bound.** -/
theorem WaitBounded.serve [Fintype ι] [DecidableEq ι] {K r : Nat} {w : ι → Nat}
    (h : WaitBounded K r w) (hcard : Fintype.card ι ≤ r + 1) {s : ι}
    (hs : RespectsVeterans K r w s) : WaitBounded K r (serve w s) := by
  have hle : ∀ i, Lib.serve w s i ≤ K + r := by
    intro i
    unfold Lib.serve
    by_cases hi : i = s
    · simp [hi]
    · rw [if_neg hi]
      by_cases hK : K ≤ w i
      · have hlt := h.lt_of_passed hcard hi (hs i hi hK)
        omega
      · omega
  refine ⟨hle, fun i j hj k hk => ?_⟩
  have hjr := hle i
  by_cases hi : i = s
  · subst hi
    simp only [Lib.serve, if_pos] at hj
    omega
  · have hwi : Lib.serve w s i = w i + 1 := if_neg hi
    have hws : r ≤ w s := hs i hi (by omega)
    cases k with
    | zero => exact ⟨s, if_pos rfl⟩
    | succ k =>
        -- served one round earlier, and not the one served now
        obtain ⟨b, hb⟩ := h.recent i (j - 1) (by omega) k (by omega)
        have hbs : b ≠ s := by
          rintro rfl
          omega
        exact ⟨b, by rw [Lib.serve, if_neg hbs, hb]⟩

end SmartTraffic.Lib
