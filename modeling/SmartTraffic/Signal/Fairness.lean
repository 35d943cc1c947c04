import SmartTraffic.Lib.Dict
import SmartTraffic.Signal.Priority

/-!
# The fairness manager

`FairnessManager`: a counter of the cycles since each lane was last served, the
bonus that a waiting lane gets on top of its score, and the re-ranking of the
adjusted scores.

A cycle adjusts the scores, serves the lane in front and updates the counters.
-/

namespace SmartTraffic

open Lib

namespace Config

def fairnessBonusPerCycle : Rat := 5
def maxFairnessBonus : Rat := 25

end Config

/-- `FairnessManager`. -/
structure FairnessManager where
  bonusPerCycle : Rat := Config.fairnessBonusPerCycle
  maxFairnessBonus : Rat := Config.maxFairnessBonus
  cyclesSinceServed : Dict String Nat :=
    { items := [("North", 0), ("South", 0), ("East", 0), ("West", 0)], nodup := by decide }

namespace FairnessManager

/-- `self.cycles_since_served.get(lane_str, 0)`. -/
def waitCycles (m : FairnessManager) (lane : String) : Nat :=
  (m.cyclesSinceServed.get? lane).getD 0

/-- The capped bonus of a lane. -/
def fairnessBonus (m : FairnessManager) (lane : String) : Rat :=
  min (m.waitCycles lane * m.bonusPerCycle) m.maxFairnessBonus

/-- The adjusted score of one lane, before it is ranked. -/
def adjust (m : FairnessManager) (s : PriorityScore) : PriorityScore :=
  let bonus := m.fairnessBonus s.lane.value
  { lane := s.lane
    score := roundDigits 2 (s.score + bonus)
    rank := 0
    breakdown := { s.breakdown with fairnessBonus := roundDigits 2 bonus } }

/-- `apply_fairness`; `now` is the clock it falls back to for the timestamp. -/
def applyFairness (m : FairnessManager) (result : PriorityResult) (now : Rat) : PriorityResult :=
  if result.scores = [] then result
  else
    let adjusted := assignRanks (sortByScore (result.scores.map m.adjust))
    { scores := adjusted
      highestPriority := adjusted.head?
      timestamp := if result.timestamp ≠ 0 then result.timestamp else now }

/-- `update_served`: a lane that was never counted is counted from now on. -/
def updateServed (m : FairnessManager) (greenLane : String) : FairnessManager :=
  let counted := if m.cyclesSinceServed.contains greenLane then m.cyclesSinceServed
    else m.cyclesSinceServed.set greenLane 0
  { m with cyclesSinceServed :=
      counted.mapValues fun lane cycles => if lane = greenLane then 0 else cycles + 1 }

/-- One cycle: the scores are adjusted, and the lane in front is served. -/
def cycle (m : FairnessManager) (input : PriorityResult × Rat) : FairnessManager × PriorityResult :=
  let adjusted := m.applyFairness input.1 input.2
  match adjusted.highestPriority with
  | none => (m, adjusted)
  | some winner => (m.updateServed winner.lane.value, adjusted)

/-! ## The counters -/

theorem updateServed_keys {m : FairnessManager} {lane : String}
    (h : m.cyclesSinceServed.contains lane) :
    (m.updateServed lane).cyclesSinceServed.keys = m.cyclesSinceServed.keys := by
  unfold updateServed
  simp only [if_pos h]
  unfold Dict.keys Dict.mapValues
  rw [List.map_map]
  rfl

/-- A counted lane starts anew when it is served and waits one cycle longer when it is not. -/
theorem waitCycles_updateServed {m : FairnessManager} {green lane : String}
    (hg : m.cyclesSinceServed.contains green) (hl : m.cyclesSinceServed.contains lane) :
    (m.updateServed green).waitCycles lane
      = if lane = green then 0 else m.waitCycles lane + 1 := by
  obtain ⟨n, hn⟩ := Option.isSome_iff_exists.mp hl
  unfold updateServed waitCycles
  simp only [if_pos hg]
  rw [Dict.get?_mapValues, hn]
  rfl

/-! ## The lane in front -/

/-- The lane in front is a listed one, and no adjusted score is above its own. -/
theorem applyFairness_highest {m : FairnessManager} {result : PriorityResult} {now : Rat}
    {winner : PriorityScore} (h : (m.applyFairness result now).highestPriority = some winner)
    (hne : result.scores ≠ []) :
    (∃ s ∈ result.scores, winner.lane = s.lane ∧ winner.score = (m.adjust s).score)
      ∧ ∀ s ∈ result.scores, (m.adjust s).score ≤ winner.score := by
  unfold applyFairness at h
  rw [if_neg hne] at h
  have hsorted : (sortByScore (result.scores.map m.adjust)).Pairwise fun a b => b.score ≤ a.score :=
    List.pairwise_insertionSort _ _
  have hmem : ∀ s, s ∈ sortByScore (result.scores.map m.adjust) ↔ ∃ s₀ ∈ result.scores,
      m.adjust s₀ = s := by
    intro s
    rw [(sortByScore_perm _).mem_iff, List.mem_map]
  unfold assignRanks at h
  cases hfirst : sortByScore (result.scores.map m.adjust) with
  | nil => rw [hfirst] at h; exact absurd h (by simp)
  | cons first rest =>
      rw [hfirst] at h hsorted hmem
      simp only [List.zipIdx_cons, List.map_cons, List.head?_cons, Option.some.injEq] at h
      subst h
      obtain ⟨s, hs, hadj⟩ := (hmem first).mp List.mem_cons_self
      refine ⟨⟨s, hs, by rw [← hadj]; rfl, by rw [← hadj]⟩, fun s hs => ?_⟩
      rcases List.mem_cons.mp ((hmem (m.adjust s)).mpr ⟨s, hs, rfl⟩) with heq | hrest
      · rw [heq]
      · exact (List.pairwise_cons.mp hsorted).1 _ hrest

theorem applyFairness_highest_isSome {m : FairnessManager} {result : PriorityResult} {now : Rat}
    (hne : result.scores ≠ []) : ∃ winner, (m.applyFairness result now).highestPriority
      = some winner := by
  unfold applyFairness
  rw [if_neg hne]
  refine Option.isSome_iff_exists.mp ?_
  rw [List.isSome_head?, assignRanks]
  have hperm := (sortByScore_perm (result.scores.map m.adjust)).length_eq
  intro hnil
  have hlen := congrArg List.length hnil
  rw [List.length_map, List.length_zipIdx, hperm, List.length_map, List.length_nil] at hlen
  exact hne (List.length_eq_zero_iff.mp hlen)

end FairnessManager

end SmartTraffic
