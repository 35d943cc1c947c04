import Mathlib

/-!
# A rotor with interrupts

`n` positions stand in a ring and a cursor points at the next one to serve. A
*serve* turn takes the first eligible position clockwise from the cursor; an
*interrupt* takes whichever position it names. Either way the cursor moves to
the position after the one taken, and a turn that takes nobody leaves it alone.

Two facts carry every fairness argument. The clockwise `gap` from the cursor to
a waiting position shrinks on each serve turn that passes it over, so the wait
is bounded by the gap. And `Before c l m` (from the cursor, `l` comes before
`m`) survives every turn that does not take `l`, unless an interrupt jumps over
`l`: while it holds, `m` cannot be served out of turn.
-/

namespace SmartTraffic.Lib

variable {n : Nat} [NeZero n]

/-- Clockwise distance from position `c` to position `i`. -/
def gap (c i : Fin n) : Nat := (i - c).val

/-- The first position satisfying `p`, clockwise from `c`. -/
def nextFrom (c : Fin n) (p : Fin n → Bool) : Option (Fin n) :=
  (List.finRange n).findSome? fun off => if p (c + off) then some (c + off) else none

/-- One turn of the rotor. -/
inductive Turn (n : Nat)
  /-- Serve the first eligible position clockwise from the cursor. -/
  | serve (eligible : Fin n → Bool)
  /-- Take a named position, wherever the cursor stands. -/
  | interrupt (i : Fin n)

/-- The position a turn takes. -/
def Turn.winner (c : Fin n) : Turn n → Option (Fin n)
  | .serve p => nextFrom c p
  | .interrupt i => some i

/-- The cursor after a turn that took `w`. -/
def advance (c : Fin n) : Option (Fin n) → Fin n
  | some i => i + 1
  | none => c

/-- The positions taken by a sequence of turns. -/
def winners (c : Fin n) : List (Turn n) → List (Option (Fin n))
  | [] => []
  | t :: ts => t.winner c :: winners (advance c (t.winner c)) ts

/-! ## Gaps -/

theorem gap_add (c off : Fin n) : gap c (c + off) = off.val := by
  unfold gap; rw [add_sub_cancel_left]

theorem gap_inj {c i j : Fin n} (h : gap c i = gap c j) : i = j :=
  sub_left_injective (Fin.val_injective h)

omit [NeZero n] in
theorem gap_lt (c i : Fin n) : gap c i < n := (i - c).isLt

/-- Passing `i` brings every position beyond it that much closer. -/
theorem gap_advance {c i j : Fin n} (h : gap c i < gap c j) :
    gap (i + 1) j + gap c i + 1 = gap c j := by
  unfold gap at *
  have hle : i - c ≤ j - c := Fin.le_def.mpr h.le
  have hd : (j - c - (i - c)).val = (j - c).val - (i - c).val := Fin.sub_val_of_le hle
  have hn : 1 < n := by have := (j - c).isLt; omega
  have h1 : (1 : Fin n).val = 1 := by rw [Fin.val_one', Nat.mod_eq_of_lt hn]
  have hle1 : (1 : Fin n) ≤ j - c - (i - c) := Fin.le_def.mpr (by rw [h1, hd]; omega)
  have heq : j - (i + 1) = j - c - (i - c) - 1 := by abel
  rw [heq, Fin.sub_val_of_le hle1, hd, h1]
  omega

/-- The position just passed is now the farthest one. -/
theorem gap_succ_self (i : Fin n) : gap (i + 1) i + 1 = n := by
  unfold gap
  have heq : i - (i + 1) = -1 := by abel
  rw [heq]
  rcases Nat.lt_or_ge 1 n with hn | hn
  · have h1 : (1 : Fin n).val = 1 := by rw [Fin.val_one', Nat.mod_eq_of_lt hn]
    rw [Fin.val_neg', h1, Nat.mod_eq_of_lt (by omega)]
    omega
  · have := (-1 : Fin n).isLt
    omega

/-! ## The first eligible position -/

theorem nextFrom_none_iff {c : Fin n} {p : Fin n → Bool} :
    nextFrom c p = none ↔ ∀ i, p i = false := by
  unfold nextFrom
  simp only [List.findSome?_eq_none_iff, List.mem_finRange, true_implies, ite_eq_right_iff,
    reduceCtorEq, imp_false, Bool.not_eq_true]
  constructor
  · intro h i
    have := h (i - c)
    rwa [add_sub_cancel] at this
  · intro h off
    exact h _

/-- **The position served is eligible, and no eligible position is nearer.** -/
theorem nextFrom_eq_some {c i : Fin n} {p : Fin n → Bool} (h : nextFrom c p = some i) :
    p i = true ∧ ∀ j, p j = true → gap c i ≤ gap c j := by
  unfold nextFrom at h
  obtain ⟨before, off, after, hsplit, hoff, hbefore⟩ := List.findSome?_eq_some_iff.mp h
  split at hoff
  · rename_i hp
    obtain rfl := Option.some.inj hoff
    refine ⟨hp, fun j hj => ?_⟩
    rw [gap_add]
    by_contra hlt
    -- a nearer eligible position would sit in the part of the scan already rejected
    have hjlt : (j - c).val < off.val := by unfold gap at hlt; omega
    have hmem : j - c ∈ before := by
      have hsorted : (List.finRange n).Pairwise (· < ·) := List.pairwise_lt_finRange n
      have hin : j - c ∈ before ++ off :: after := hsplit ▸ List.mem_finRange _
      rw [hsplit] at hsorted
      rcases List.mem_append.mp hin with hb | hb
      · exact hb
      · exfalso
        rcases List.mem_cons.mp hb with he | ha
        · rw [he] at hjlt; omega
        · have := (List.pairwise_cons.mp (List.pairwise_append.mp hsorted).2.1).1 _ ha
          rw [Fin.lt_def] at this; omega
    have := hbefore _ hmem
    rw [add_sub_cancel, if_pos hj] at this
    exact absurd this (by simp)
  · exact absurd hoff (by simp)

/-! ## Bounded wait -/

/--
**A waiting position is served within its gap.**

If `j` is eligible at every serve turn that has an eligible position at all, and
at more of these turns than its clockwise distance from the cursor, it is among
the winners. Turns with nobody eligible cost nothing.
-/
theorem served_of_waiting {j : Fin n} : ∀ (ps : List (Fin n → Bool)) (c : Fin n),
    (∀ p ∈ ps, p j = true ∨ ∀ i, p i = false) →
    gap c j < (ps.filter (fun p => p j)).length →
    some j ∈ winners c (ps.map Turn.serve)
  | [], c, _, hlen => by simp at hlen
  | p :: ps, c, hwait, hlen => by
      have hrest : ∀ q ∈ ps, q j = true ∨ ∀ i, q i = false :=
        fun q hq => hwait q (List.mem_cons_of_mem _ hq)
      simp only [List.map_cons, winners, Turn.winner]
      cases hw : nextFrom c p with
      | none =>
          -- nobody is eligible: the turn costs nothing
          have hnone := nextFrom_none_iff.mp hw j
          rw [List.filter_cons_of_neg (by rw [hnone]; simp)] at hlen
          exact List.mem_cons_of_mem _ (served_of_waiting ps c hrest hlen)
      | some i =>
          obtain ⟨hpi, hnear⟩ := nextFrom_eq_some hw
          have hpj : p j = true := by
            rcases hwait p List.mem_cons_self with h | h
            · exact h
            · exact absurd hpi (by rw [h i]; simp)
          rcases Nat.lt_or_eq_of_le (hnear j hpj) with hlt | heq
          -- a nearer position is served, and `j` comes closer
          · rw [List.filter_cons, if_pos hpj, List.length_cons] at hlen
            have hgap := gap_advance hlt
            exact List.mem_cons_of_mem _ (served_of_waiting ps (i + 1) hrest (by omega))
          · rw [gap_inj heq]; exact List.mem_cons_self

/-! ## Order under interrupts -/

/-- Clockwise from the cursor, `l` comes before `m`. -/
def Before (c l m : Fin n) : Prop := gap c l < gap c m

instance (c l m : Fin n) : Decidable (Before c l m) := inferInstanceAs (Decidable (_ < _))

/-- A turn that leaves `l` in its place before `m`: serve turns see `l` eligible, interrupts take
`l` itself or do not jump over it. -/
def Turn.Harmless (l m : Fin n) : Turn n → Prop
  | .serve p => p l = true
  | .interrupt i => i = l ∨ Before (i + 1) l m

/-- Right after a turn of `m`, every other position comes before it. -/
theorem before_of_served {l m : Fin n} (h : l ≠ m) : Before (m + 1) l m := by
  unfold Before
  have hm := gap_succ_self m
  have hlt := gap_lt (m + 1) l
  have hne : gap (m + 1) l ≠ gap (m + 1) m := fun he => h (gap_inj he)
  omega

/-- **The step lemma**: a harmless turn takes `l` or keeps `l` before `m`. -/
theorem before_step {c l m : Fin n} {t : Turn n} (hb : Before c l m) (ht : t.Harmless l m) :
    t.winner c = some l ∨ Before (advance c (t.winner c)) l m := by
  cases t with
  | interrupt i =>
      rcases ht with rfl | hbi
      · exact Or.inl rfl
      · exact Or.inr hbi
  | serve p =>
      cases hw : nextFrom c p with
      | none =>
          -- the lane itself waits
          simp only [Turn.Harmless] at ht
          exact absurd (nextFrom_none_iff.mp hw l) (by simp [ht])
      | some i =>
          have hle := (nextFrom_eq_some hw).2 l ht
          rcases Nat.lt_or_eq_of_le hle with hlt | heq
          · right
            unfold Before at hb ⊢
            have h1 := gap_advance hlt
            have h2 := gap_advance (lt_trans hlt hb)
            simp only [Turn.winner, hw, advance]
            omega
          · left; simp only [Turn.winner, hw, gap_inj heq]

/-- While `l` comes before `m` and is eligible, `m` is not served. -/
theorem serve_ne_of_before {c l m : Fin n} {p : Fin n → Bool} (hb : Before c l m)
    (hp : p l = true) : nextFrom c p ≠ some m := by
  intro hw
  have := (nextFrom_eq_some hw).2 l hp
  unfold Before at hb
  omega

/--
**No position is overtaken.**

From a cursor that puts `l` before `m`, a sequence of harmless turns that ends by
serving `m` in its normal turn has served `l`.
-/
theorem served_before {l m : Fin n} {p : Fin n → Bool} (hp : p l = true) :
    ∀ (ts : List (Turn n)) (c : Fin n), Before c l m → (∀ t ∈ ts, t.Harmless l m) →
      (winners c (ts ++ [Turn.serve p])).getLast? = some (some m) →
      some l ∈ winners c (ts ++ [Turn.serve p])
  | [], c, hb, _, hlast => by
      simp only [List.nil_append, winners, List.getLast?_singleton, Option.some.injEq,
        Turn.winner] at hlast
      exact absurd hlast (serve_ne_of_before hb hp)
  | t :: ts, c, hb, hts, hlast => by
      simp only [List.cons_append, winners] at hlast ⊢
      -- the invariant of the induction: `l` is still before `m`
      rcases before_step hb (hts t List.mem_cons_self) with hw | hb'
      · rw [hw]; exact List.mem_cons_self
      · refine List.mem_cons_of_mem _ (served_before hp ts _ hb' ?_ ?_)
        · exact fun t' ht' => hts t' (List.mem_cons_of_mem _ ht')
        · rw [List.getLast?_cons] at hlast
          cases hq : (winners (advance c (t.winner c)) (ts ++ [Turn.serve p])).getLast? with
          | none =>
              exfalso
              rw [List.getLast?_eq_none_iff] at hq
              cases ts <;> simp [winners] at hq
          | some x => rw [hq] at hlast; simpa using hlast

end SmartTraffic.Lib
