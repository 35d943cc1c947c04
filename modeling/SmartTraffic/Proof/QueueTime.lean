import SmartTraffic.Proof.Lifecycle

/-!
# The times of a vehicle

The time in the queue is part of the time in the lane, and that is part of the
time since the vehicle was first seen. Nothing is queued on the strength of a few
frames: the count of slow frames lags behind the count of sightings.
-/

namespace SmartTraffic

open Lib

/-- The times and counters of a record fit together. -/
structure Accounted (s : VehicleRecord) : Prop where
  queue_nonneg : 0 ≤ s.queueTimeSec
  queue_le : s.queueTimeSec ≤ s.timeInLaneSec
  time_le : s.timeInLaneSec ≤ s.lastSeenTimestamp - s.firstSeenTimestamp
  low_lt : s.consecutiveLowMotionFrames < s.consecutiveSeenFrames
  /-- A queue takes more sightings than slow frames are asked for. -/
  queued : s.isQueued = true ∨ 0 < s.queueTimeSec →
    Config.consecutiveQueueFrames < s.consecutiveSeenFrames

/-- A new record has not waited yet. -/
theorem accounted_create (d : Detection) (tid frameNumber : Int) (timestamp : Rat) :
    Accounted (VehicleRecord.create d tid frameNumber timestamp) where
  queue_nonneg := le_refl _
  queue_le := le_refl _
  time_le := by
    show (0 : Rat) ≤ timestamp - timestamp
    linarith
  low_lt := Nat.one_pos
  queued := by
    rintro (hqueued | hqueue)
    · cases hqueued
    · exact absurd hqueue (lt_irrefl _)

/-- **An observation keeps the account.** -/
theorem Accounted.again (hypot : Int → Int → Rat) {s : VehicleRecord} (h : Accounted s)
    (d : Detection) (frameNumber : Int) {timestamp : Rat} (hle : s.lastSeenTimestamp ≤ timestamp) :
    Accounted (s.again hypot d frameNumber timestamp) := by
  have hlow := s.again_low_le hypot d frameNumber timestamp
  have hflag := s.again_isQueued hypot d frameNumber timestamp
  have hseen : (s.again hypot d frameNumber timestamp).consecutiveSeenFrames
      = s.consecutiveSeenFrames + 1 := rfl
  have hlast : (s.again hypot d frameNumber timestamp).lastSeenTimestamp = timestamp := rfl
  have hfirst : (s.again hypot d frameNumber timestamp).firstSeenTimestamp
      = s.firstSeenTimestamp := rfl
  have hlt := h.low_lt
  have hnonneg := h.queue_nonneg
  have hqueue := h.queue_le
  have htime := h.time_le
  -- the count of slow frames is what the flag asks about
  have hlow_le : (s.again hypot d frameNumber timestamp).consecutiveLowMotionFrames
      ≤ s.consecutiveLowMotionFrames + 1 := by split_ifs at hlow <;> omega
  have hflagged : (s.again hypot d frameNumber timestamp).isQueued = true →
      Config.consecutiveQueueFrames < s.consecutiveSeenFrames + 1 := by
    intro hqueued
    rw [hflag, decide_eq_true_eq] at hqueued
    omega
  by_cases hlane : s.lane = d.laneName
  · -- in the same lane, both times go on
    obtain ⟨hstay, hwait⟩ := s.again_of_stay hypot d frameNumber timestamp hlane hle
    cases hqueued : (s.again hypot d frameNumber timestamp).isQueued with
    | true =>
        -- a queued vehicle waits as long as it stays
        rw [hqueued, if_pos rfl] at hwait
        refine ⟨?_, ?_, ?_, ?_, fun _ => hseen ▸ hflagged hqueued⟩
        · rw [hwait]; linarith
        · rw [hwait, hstay]; linarith
        · rw [hstay, hlast, hfirst]; linarith
        · rw [hseen]; omega
    | false =>
        rw [hqueued, if_neg (by simp)] at hwait
        refine ⟨?_, ?_, ?_, ?_, ?_⟩
        · rw [hwait]; exact hnonneg
        · rw [hwait, hstay]; linarith
        · rw [hstay, hlast, hfirst]; linarith
        · rw [hseen]; omega
        · rintro (hnow | hpos)
          · rw [hqueued] at hnow
            cases hnow
          · -- what has waited before has been seen often enough before
            rw [hwait] at hpos
            have hbefore := h.queued (Or.inr hpos)
            rw [hseen]
            omega
  · obtain ⟨hstay, hwait, hqueued⟩ := s.again_of_switch hypot d frameNumber timestamp hlane
    -- in a new lane, both times start again
    refine ⟨?_, ?_, ?_, ?_, ?_⟩
    · rw [hwait]
    · rw [hwait, hstay]
    · rw [hstay, hlast, hfirst]; linarith
    · rw [hseen]; omega
    · rintro (hnow | hpos)
      · rw [hqueued] at hnow
        cases hnow
      · rw [hwait] at hpos
        exact absurd hpos (lt_irrefl _)

theorem recordAfter_accounted {hypot : Int → Int → Rat} {past : List UpdateCall} {tid : Int}
    (htime : Chronological past) :
    ∀ s, recordAfter hypot tid past = some s → Accounted s := by
  refine recordAfter_induction (fun c d => accounted_create d tid c.frameNumber c.timestamp)
    (fun c s d hle hs => hs.again hypot d c.frameNumber hle) ?_ htime
  intro s s' hsame hs
  have hqueue : s.queueTimeSec = s'.queueTimeSec := congrArg (·.queueTimeSec) hsame
  have hlane : s.timeInLaneSec = s'.timeInLaneSec := congrArg (·.timeInLaneSec) hsame
  have hlast : s.lastSeenTimestamp = s'.lastSeenTimestamp := congrArg (·.lastSeenTimestamp) hsame
  have hfirst : s.firstSeenTimestamp = s'.firstSeenTimestamp :=
    congrArg (·.firstSeenTimestamp) hsame
  have hlow : s.consecutiveLowMotionFrames = s'.consecutiveLowMotionFrames :=
    congrArg (·.consecutiveLowMotionFrames) hsame
  have hseen : s.consecutiveSeenFrames = s'.consecutiveSeenFrames :=
    congrArg (·.consecutiveSeenFrames) hsame
  have hqueued : s.isQueued = s'.isQueued := congrArg (·.isQueued) hsame
  obtain ⟨hnonneg, hle, htime, hlt, hmany⟩ := hs
  rw [hqueue] at hnonneg hle hmany
  rw [hlane] at hle htime
  rw [hlast, hfirst] at htime
  rw [hlow, hseen] at hlt
  rw [hqueued, hseen] at hmany
  exact ⟨hnonneg, hle, htime, hlt, hmany⟩

namespace Proof

/--
**The queue accounts add up.** In every active state after a run, the time in the
queue is part of the time in the lane and that of the time since the first sighting,
the count of slow frames stays below the count of sightings, and whatever is or was
queued is confirmed and has been seen more often than a queue asks for. An
observation in another lane starts both times over and clears the queue flag.
-/
theorem queue_accounts_add_up (hypot : Int → Int → Rat) (calls : List UpdateCall)
    (htime : calls.Pairwise fun c c' => c.timestamp ≤ c'.timestamp)
    (hrep : ∀ c ∈ calls, c.NoRepeats) :
    (∀ tid s, (final (VehicleStateManager.update hypot) {} calls).activeStates.get? tid = some s →
      0 ≤ s.queueTimeSec ∧ s.queueTimeSec ≤ s.timeInLaneSec
        ∧ s.timeInLaneSec ≤ s.lastSeenTimestamp - s.firstSeenTimestamp
        ∧ 0 ≤ s.consecutiveLowMotionFrames
        ∧ s.consecutiveLowMotionFrames ≤ sightings calls.reverse tid - 1
        ∧ (s.isQueued = true ∨ 0 < s.queueTimeSec →
          Config.consecutiveQueueFrames < sightings calls.reverse tid ∧ s.isConfirmed = true))
      ∧ ∀ before c after, calls = before ++ c :: after → ∀ tid s, ∀ d ∈ c.detections,
        (final (VehicleStateManager.update hypot) {} before).activeStates.get? tid = some s →
        d.shows tid = true → d.laneName ≠ s.lane →
        ∃ s', (final (VehicleStateManager.update hypot) {} (before ++ [c])).activeStates.get? tid
            = some s' ∧ s'.lane = d.laneName ∧ s'.timeInLaneSec = 0 ∧ s'.queueTimeSec = 0
          ∧ s'.isQueued = false := by
  have hchron := chronological_reverse htime
  constructor
  · intro tid s hs
    rw [(VehicleStateManager.get?_run hypot calls tid).2] at hs
    obtain ⟨hnonneg, hle, htotal, hlt, hmany⟩ := recordAfter_accounted hchron s hs
    have hcoherent := recordAfter_coherent hchron s hs
    have hseen := seenFrames_recordAfter hypot tid hchron
      fun c hc => hrep c (List.mem_reverse.mp hc)
    rw [hs] at hseen
    change s.consecutiveSeenFrames = sightings calls.reverse tid at hseen
    refine ⟨hnonneg, hle, htotal, Nat.zero_le _, by omega, fun hqueued => ?_⟩
    have hmore := hmany hqueued
    refine ⟨hseen ▸ hmore, hcoherent.confirmed.mpr ?_⟩
    unfold Config.consecutiveQueueFrames at hmore
    unfold Config.minConfirmationFrames
    omega
  · intro before c after hsplit tid s d hd hs hshows hlane
    have hone : c.NoRepeats := hrep c (by rw [hsplit]; simp)
    obtain ⟨htime', hqueue', hflag'⟩ := s.again_of_switch hypot d c.frameNumber c.timestamp
      (Ne.symm hlane)
    refine ⟨s.again hypot d c.frameNumber c.timestamp, ?_, rfl, htime', hqueue', hflag'⟩
    rw [(VehicleStateManager.get?_run hypot (before ++ [c]) tid).2, List.reverse_append]
    show c.track hypot tid (recordAfter hypot tid before.reverse) = _
    rw [← (VehicleStateManager.get?_run hypot before tid).2, hs,
      UpdateCall.track_sight hypot hone hd hshows]
    rfl

/-- A van that changes its lane. -/
theorem queue_accounts_add_up_van :
    let van (lane : String) : Detection := { className := "van", bbox := (0, 0, 10, 10),
                                             trackId := some 1, lane := some lane }
    let before : List UpdateCall := [⟨[van "North"], 1, 0⟩, ⟨[van "North"], 2, 1⟩]
    ∃ s', (final (VehicleStateManager.update fun _ _ => 0) {}
        (before ++ [⟨[van "East"], 3, 2⟩])).activeStates.get? 1 = some s' ∧ s'.timeInLaneSec = 0 := by
  intro van before
  have hlane : ((final (VehicleStateManager.update fun _ _ => 0) {} before).activeStates.get?
      1).map (·.lane) = some "North" := by decide +kernel
  obtain ⟨s, hs, hnorth⟩ := Option.map_eq_some_iff.mp hlane
  obtain ⟨s', hs', -, htime, -, -⟩ :=
    (queue_accounts_add_up (fun _ _ => 0) (before ++ [⟨[van "East"], 3, 2⟩])
      (by decide +kernel) (by decide +kernel)).2 before ⟨[van "East"], 3, 2⟩ [] rfl 1 s (van "East")
      List.mem_cons_self hs (by decide +kernel) (by rw [hnorth]; decide)
  exact ⟨s', hs', htime⟩

end Proof

end SmartTraffic
