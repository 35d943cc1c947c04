import SmartTraffic.Lib.Run
import SmartTraffic.Lib.Waiting
import SmartTraffic.Signal.Fairness

/-!
# Bounded waiting of the lanes

The bonus is 5 points for each cycle a lane has waited, up to 25. Where the base
scores of a cycle lie less than 15 points apart, a lane with the full bonus can lose
only to a lane with a bonus above 10, which has itself waited three cycles. So the
lane in front respects the veterans, and the general bound for four parties applies.

Base scores are multiples of a hundredth, which the rounding of the adjusted scores
leaves as they are. Which scores they are, and in which order the lanes are listed,
may change from cycle to cycle.
-/

namespace SmartTraffic.Proof

open SmartTraffic Lib FairnessManager

/-- The scores of a cycle: all four lanes, in hundredths, less than 15 points apart. -/
structure BalancedScores (result : PriorityResult) : Prop where
  lanes : (result.scores.map (·.lane)).Perm [LaneName.north, .south, .east, .west]
  cents : ∀ s ∈ result.scores, ∃ n : Int, s.score * 100 = n
  spread : ∀ a ∈ result.scores, ∀ b ∈ result.scores, a.score - b.score < 15

theorem BalancedScores.exists_score {result : PriorityResult} (h : BalancedScores result)
    (lane : LaneName) : ∃ s ∈ result.scores, s.lane = lane := by
  have hmem : lane ∈ result.scores.map (·.lane) := by
    rw [h.lanes.mem_iff]
    cases lane <;> decide
  exact List.mem_map.mp hmem

theorem BalancedScores.scores_ne_nil {result : PriorityResult} (h : BalancedScores result) :
    result.scores ≠ [] := by
  obtain ⟨s, hs, -⟩ := h.exists_score .north
  exact List.ne_nil_of_mem hs

/-- The waits of the four lanes. -/
def laneWaits (m : FairnessManager) (lane : LaneName) : Nat := m.waitCycles lane.value

/-- A manager with the default parameters that counts the four lanes. -/
structure Counting (m : FairnessManager) : Prop where
  bonus : m.bonusPerCycle = 5
  cap : m.maxFairnessBonus = 25
  keys : m.cyclesSinceServed.keys = ["North", "South", "East", "West"]
  waits : WaitBounded 5 3 (laneWaits m)

theorem counting_init : Counting {} where
  bonus := rfl
  cap := rfl
  keys := rfl
  waits := by
    have hzero : laneWaits {} = fun _ => 0 := by
      funext lane
      cases lane <;> decide
    rw [hzero]
    exact waitBounded_init 5 3

namespace Counting

variable {m : FairnessManager}

theorem contains (h : Counting m) (lane : LaneName) :
    m.cyclesSinceServed.contains lane.value := by
  rw [Dict.contains_iff, h.keys]
  cases lane <;> decide

/-- The bonus of a lane with the default parameters. -/
theorem fairnessBonus_eq (h : Counting m) (lane : LaneName) :
    m.fairnessBonus lane.value = (min (laneWaits m lane * 5) 25 : Nat) := by
  unfold fairnessBonus laneWaits
  rw [h.bonus, h.cap]
  push_cast
  rfl

/-- Scores in hundredths are adjusted without a loss. -/
theorem adjust_score (h : Counting m) {s : PriorityScore} (hs : ∃ n : Int, s.score * 100 = n) :
    (m.adjust s).score = s.score + (min (laneWaits m s.lane * 5) 25 : Nat) := by
  obtain ⟨n, hn⟩ := hs
  unfold adjust
  dsimp only
  rw [h.fairnessBonus_eq]
  refine roundDigits_of_decimal 2 (n := n + (min (laneWaits m s.lane * 5) 25 : Nat) * 100) ?_
  push_cast
  rw [← hn]
  ring

/-- **The lane in front respects the veterans**: those who have waited five cycles lose only to
those who have waited three. -/
theorem respectsVeterans (h : Counting m) {result : PriorityResult} {now : Rat}
    (hb : BalancedScores result) {winner : PriorityScore}
    (hw : (m.applyFairness result now).highestPriority = some winner) :
    RespectsVeterans 5 3 (laneWaits m) winner.lane := by
  obtain ⟨⟨s, hs, hlane, hscore⟩, hmax⟩ := applyFairness_highest hw hb.scores_ne_nil
  intro lane hne hwait
  obtain ⟨t, ht, rfl⟩ := hb.exists_score lane
  have hle := hmax t ht
  rw [hscore, h.adjust_score (hb.cents s hs), h.adjust_score (hb.cents t ht)] at hle
  have hspread := hb.spread s hs t ht
  have hfull : min (laneWaits m t.lane * 5) 25 = 25 := by omega
  rw [hfull] at hle
  push_cast at hle
  have hbonus : (10 : Rat) < (min (laneWaits m s.lane * 5) 25 : Nat) := by
    push_cast
    linarith
  have hten : 10 < min (laneWaits m s.lane * 5) 25 := by exact_mod_cast hbonus
  rw [hlane]
  omega

/-- Serving a lane serves it among the waits. -/
theorem laneWaits_updateServed (h : Counting m) (green : LaneName) :
    laneWaits (m.updateServed green.value) = serve (laneWaits m) green := by
  funext lane
  unfold laneWaits serve
  rw [waitCycles_updateServed (h.contains green) (h.contains lane)]
  have hvalue : lane.value = green.value ↔ lane = green := by
    cases lane <;> cases green <;> decide
  simp only [hvalue]

/-- **A cycle with balanced scores keeps the counters bounded.** -/
theorem cycle_step (h : Counting m) {input : PriorityResult × Rat} (hb : BalancedScores input.1) :
    Counting (m.cycle input).1 := by
  obtain ⟨winner, hw⟩ : ∃ winner, (m.applyFairness input.1 input.2).highestPriority = some winner :=
    applyFairness_highest_isSome hb.scores_ne_nil
  unfold cycle
  dsimp only
  rw [hw]
  refine ⟨h.bonus, h.cap, ?_, ?_⟩
  · exact (updateServed_keys (h.contains winner.lane)).trans h.keys
  · dsimp only
    rw [h.laneWaits_updateServed]
    exact h.waits.serve (by decide) (h.respectsVeterans hb hw)

end Counting

/--
**No lane waits more than eight cycles.** After every run of cycles over the scores of
the four lanes, in hundredths and less than 15 points apart in each cycle, the manager
counts exactly the four lanes, and none of the counters is above 8.
-/
theorem cycles_since_served_le_eight {inputs : List (PriorityResult × Rat)}
    (hb : ∀ input ∈ inputs, BalancedScores input.1) :
    (final cycle {} inputs).cyclesSinceServed.keys = ["North", "South", "East", "West"]
      ∧ ∀ lane n, (final cycle {} inputs).cyclesSinceServed.get? lane = some n → n ≤ 8 := by
  have hok : ∀ e ∈ events cycle {} inputs, BalancedScores e.input.1 := by
    intro e he
    obtain ⟨before, input, rest, rfl, rfl⟩ := (mem_events_iff cycle).mp he
    exact hb input (List.mem_append_right _ List.mem_cons_self)
  have hstep : ∀ (m : FairnessManager) (input : PriorityResult × Rat),
      Counting m → BalancedScores input.1 → Counting (cycle m input).1 :=
    fun _ _ h hb => h.cycle_step hb
  have hcount := final_invariant hstep counting_init hok
  refine ⟨hcount.keys, fun lane n hn => ?_⟩
  have hmem : lane ∈ (final cycle {} inputs).cyclesSinceServed.keys := by
    rw [← Dict.contains_iff]
    exact Option.isSome_iff_exists.mpr ⟨n, hn⟩
  rw [hcount.keys] at hmem
  obtain ⟨name, rfl⟩ : ∃ name : LaneName, name.value = lane := by
    simp only [List.mem_cons, List.not_mem_nil, or_false] at hmem
    rcases hmem with rfl | rfl | rfl | rfl
    · exact ⟨.north, rfl⟩
    · exact ⟨.south, rfl⟩
    · exact ⟨.east, rfl⟩
    · exact ⟨.west, rfl⟩
  have hle := hcount.waits.le name
  unfold laneWaits waitCycles at hle
  rw [hn] at hle
  exact hle

/-- Scores 14.99 points apart, with the given lane in front of the others. -/
def contested (front : LaneName) (others : List LaneName) : PriorityResult where
  scores := (front, 2499 / 100) :: others.map (·, 10) |>.map fun item =>
    { lane := item.1, score := item.2, rank := 0,
      breakdown := { pce := 0, queue := 0, congestion := 0 } }
  highestPriority := none
  timestamp := 0

/-- Three cycles in which the North is favoured as far as the scores may differ. -/
theorem cycles_since_served_le_eight_contested :
    let inputs := List.replicate 3 (contested .north [.south, .east, .west], (0 : Rat))
    (final cycle {} inputs).cyclesSinceServed.keys = ["North", "South", "East", "West"]
      ∧ ∀ lane n, (final cycle {} inputs).cyclesSinceServed.get? lane = some n → n ≤ 8 := by
  refine cycles_since_served_le_eight fun input hinput => ?_
  rw [List.eq_of_mem_replicate hinput]
  have hcents : ∀ s ∈ (contested .north [.south, .east, .west]).scores,
      s.score = 2499 / 100 ∨ s.score = 10 := by
    intro s hs
    obtain ⟨item, hitem, rfl⟩ := List.mem_map.mp hs
    rcases List.mem_cons.mp hitem with rfl | hitem
    · exact Or.inl rfl
    · obtain ⟨lane, -, rfl⟩ := List.mem_map.mp hitem
      exact Or.inr rfl
  refine ⟨by decide, fun s hs => ?_, fun a ha b hb => ?_⟩
  · rcases hcents s hs with h | h <;> rw [h]
    · exact ⟨2499, by norm_num⟩
    · exact ⟨1000, by norm_num⟩
  · rcases hcents a ha with h | h <;> rcases hcents b hb with h' | h' <;> rw [h, h'] <;> norm_num

end SmartTraffic.Proof
