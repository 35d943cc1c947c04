import Mathlib

/-!
# Lists in chunks

`List.toChunks` cuts a list into chunks of a given size, the last of which may be shorter,
and `List.mapIdx` numbers the elements of a list. An element that stands at place `j` of
the list stands at place `j % n` of its chunk.

A list can also be cut by a key of its elements. Counts over such groups add up to the
count over the list, as long as no key is missing and none is listed twice.
-/

namespace SmartTraffic.Lib

variable {α β γ : Type}

/-! ## Numbered lists -/

theorem map_mapIdx (g : β → γ) (f : Nat → α → β) (xs : List α) :
    (xs.mapIdx f).map g = xs.mapIdx fun i x => g (f i x) :=
  List.ext_getElem (by simp) fun i _ _ => by simp

theorem zip_mapIdx (f : Nat → α → β) (xs : List α) :
    xs.zip (xs.mapIdx f) = xs.mapIdx fun i x => (x, f i x) :=
  List.ext_getElem (by simp) fun i _ _ => by simp

theorem mapIdx_const (f : α → β) (xs : List α) : (xs.mapIdx fun _ x => f x) = xs.map f :=
  List.ext_getElem (by simp) fun i _ _ => by simp

/-! ## Chunks -/

@[simp] theorem toChunks_nil (n : Nat) : ([] : List α).toChunks n = [] := by
  cases n <;> rfl

/-- What the loop behind `toChunks` still has to return, with a chunk begun. -/
theorem toChunks_go {n : Nat} (hn : 0 < n) (xs : List α) (chunk : Array α)
    (done : Array (List α)) (hsize : chunk.size ≤ n) :
    List.toChunks.go n xs chunk done
      = done.toList ++ (chunk.toList ++ xs.take (n - chunk.size))
          :: (xs.drop (n - chunk.size)).toChunks n := by
  induction xs generalizing chunk done with
  | nil => simp [List.toChunks.go]
  | cons x xs ih =>
      unfold List.toChunks.go
      by_cases hfull : chunk.size = n
      · -- the chunk is full, and the next one starts here
        have hnext : (x :: xs).toChunks n = List.toChunks.go n xs #[x] #[] := by
          obtain ⟨m, rfl⟩ := Nat.exists_eq_succ_of_ne_zero hn.ne'
          rfl
        have hone : (#[x] : Array α).size ≤ n := hn
        rw [if_pos (by simpa using hfull), hfull, Nat.sub_self, List.take_zero, List.drop_zero,
          hnext, ih #[x] #[] hone]
        have hbegun : (Array.mkEmpty n).push x = #[x] := rfl
        rw [hbegun, ih #[x] _ hone]
        simp
      · have hlt : chunk.size < n := by omega
        obtain ⟨k, hk⟩ : ∃ k, n - chunk.size = k + 1 := ⟨n - chunk.size - 1, by omega⟩
        have hk' : n - (chunk.size + 1) = k := by omega
        rw [if_neg (by simpa using hfull), ih _ _ (by simpa using hlt)]
        simp [hk, hk']

/-- **One chunk, and the chunks of the rest.** -/
theorem toChunks_of_ne_nil {n : Nat} (hn : 0 < n) {xs : List α} (h : xs ≠ []) :
    xs.toChunks n = xs.take n :: (xs.drop n).toChunks n := by
  cases xs with
  | nil => exact absurd rfl h
  | cons x xs =>
      obtain ⟨m, rfl⟩ := Nat.exists_eq_succ_of_ne_zero hn.ne'
      have hgo : (x :: xs).toChunks (m + 1) = List.toChunks.go (m + 1) xs #[x] #[] := rfl
      rw [hgo, toChunks_go hn _ _ _ (by simp)]
      simp

/-- Induction along the chunks of a list. -/
theorem chunks_induction {n : Nat} (hn : 0 < n) {P : List α → Prop} (nil : P [])
    (chunk : ∀ xs, xs ≠ [] → P (xs.drop n) → P xs) (xs : List α) : P xs := by
  induction hlen : xs.length using Nat.strong_induction_on generalizing xs with
  | _ len ih =>
      by_cases hxs : xs = []
      · rw [hxs]
        exact nil
      · have hpos : 0 < xs.length := List.length_pos_iff.mpr hxs
        refine chunk xs hxs (ih (xs.drop n).length ?_ _ rfl)
        rw [List.length_drop]
        omega

theorem length_le_of_mem_toChunks {n : Nat} (hn : 0 < n) {xs chunk : List α}
    (h : chunk ∈ xs.toChunks n) : chunk.length ≤ n := by
  induction xs using chunks_induction hn with
  | nil => simp at h
  | chunk xs hxs ih =>
      rw [toChunks_of_ne_nil hn hxs, List.mem_cons] at h
      rcases h with rfl | h
      · exact List.length_take_le n xs
      · exact ih h

/-- **The place in the chunk is the place in the list, modulo the size.** -/
theorem flatMap_toChunks_mapIdx {n : Nat} (hn : 0 < n) (f : Nat → α → β) (xs : List α) :
    (xs.toChunks n).flatMap (fun chunk => chunk.mapIdx f) = xs.mapIdx fun j a => f (j % n) a := by
  induction xs using chunks_induction hn with
  | nil => simp
  | chunk xs hxs ih =>
      rw [toChunks_of_ne_nil hn hxs, List.flatMap_cons, ih]
      conv_rhs => rw [← List.take_append_drop n xs, List.mapIdx_append]
      congr 1
      · refine List.ext_getElem (by simp) fun j hj _ => ?_
        rw [List.length_mapIdx, List.length_take] at hj
        rw [List.getElem_mapIdx, List.getElem_mapIdx, Nat.mod_eq_of_lt (by omega)]
      · by_cases hrest : xs.drop n = []
        · rw [hrest]
          rfl
        · -- a list with a rest fills its first chunk
          have hlen : (xs.take n).length = n := by
            rw [List.length_take]
            have hlt : n < xs.length := by
              by_contra hle
              exact hrest (List.drop_eq_nil_of_le (by omega))
            omega
          rw [hlen]
          simp

/-! ## Groups -/

/-- A sum with one term that is not zero. -/
theorem sum_map_single {K : Type} [DecidableEq K] {keys : List K} (hnd : keys.Nodup) {k : K}
    (hk : k ∈ keys) (n : Nat) : (keys.map fun k' => if k' = k then n else 0).sum = n := by
  rw [← List.sum_toFinset _ hnd, Finset.sum_ite_eq', if_pos (List.mem_toFinset.mpr hk)]

/-- **Counts over the groups of a list add up.** -/
theorem sum_countP_groups {K : Type} [DecidableEq K] {keys : List K} (hnd : keys.Nodup)
    (key : α → K) (p : α → Bool) (xs : List α) (hall : ∀ x ∈ xs, key x ∈ keys) :
    (keys.map fun k => (xs.filter fun x => decide (key x = k)).countP p).sum = xs.countP p := by
  induction xs with
  | nil => simp
  | cons x xs ih =>
      have hcount : ∀ k, ((x :: xs).filter fun y => decide (key y = k)).countP p
          = (xs.filter fun y => decide (key y = k)).countP p
            + if k = key x then (p x).toNat else 0 := by
        intro k
        by_cases hk : key x = k
        · rw [List.filter_cons_of_pos (by simpa using hk), List.countP_cons, if_pos hk.symm]
          cases p x <;> rfl
        · rw [List.filter_cons_of_neg (by simpa using hk), if_neg (Ne.symm hk), Nat.add_zero]
      simp only [hcount]
      rw [List.sum_map_add, ih fun y hy => hall y (List.mem_cons_of_mem _ hy), List.countP_cons]
      -- the head is counted in one group only
      rw [sum_map_single hnd (hall x List.mem_cons_self)]
      cases p x <;> rfl

end SmartTraffic.Lib
