import SmartTraffic.Lib.Run
import SmartTraffic.Perception.VehicleState

/-!
# One vehicle and the history of its observations

A history is a list of calls, the newest first. What it says about one track id
needs no record: when the id was last observed, which calls drop it, and how often
it has been observed since.

`UpdateCall.track` is what a call does to the record of one vehicle. No vehicle
has a say in the record of another, so `VehicleStateManager.update` is this
machine, once for every track id (`get?_update`).
-/

namespace SmartTraffic

open Lib

/-! ## What was observed -/

/-- The detection is an observation of the vehicle. -/
def Detection.shows (d : Detection) (tid : Int) : Bool :=
  d.trackId = some tid && d.observationType = .observed

namespace UpdateCall

/-- The vehicle is observed in the call. -/
def observes (c : UpdateCall) (tid : Int) : Bool := c.detections.any (·.shows tid)

/-- No track id comes twice in the call. -/
def NoRepeats (c : UpdateCall) : Prop := (c.detections.filterMap (·.trackId)).Nodup

instance (c : UpdateCall) : Decidable c.NoRepeats := inferInstanceAs (Decidable (List.Nodup _))

end UpdateCall

/-- The time of the newest call that observes the vehicle. -/
def lastObserved (past : List UpdateCall) (tid : Int) : Option Rat :=
  (past.find? (·.observes tid)).map (·.timestamp)

/-- The call does not observe the vehicle, and its last observation is too long ago. -/
def UpdateCall.drops (c : UpdateCall) (past : List UpdateCall) (tid : Int) : Bool :=
  !c.observes tid &&
    (lastObserved past tid).any fun t => decide (Config.trackRemovalGraceSec < c.timestamp - t)

/-- The calls since the vehicle was last dropped. -/
def sinceDrop (tid : Int) : List UpdateCall → List UpdateCall
  | [] => []
  | c :: past => if c.drops past tid then [] else c :: sinceDrop tid past

/-- The number of calls that have observed the vehicle since it was last dropped. -/
def sightings (past : List UpdateCall) (tid : Int) : Nat :=
  (sinceDrop tid past).countP (·.observes tid)

/-- The readings of the clock never decrease. -/
def Chronological (past : List UpdateCall) : Prop :=
  past.Pairwise fun later earlier => earlier.timestamp ≤ later.timestamp

theorem lastObserved_cons (c : UpdateCall) (past : List UpdateCall) (tid : Int) :
    lastObserved (c :: past) tid
      = if c.observes tid then some c.timestamp else lastObserved past tid := by
  unfold lastObserved
  rw [List.find?_cons]
  cases c.observes tid <;> rfl

/-- What was observed last was observed in some call. -/
theorem lastObserved_mem {past : List UpdateCall} {tid : Int} {t : Rat}
    (h : lastObserved past tid = some t) : ∃ c ∈ past, c.observes tid = true ∧ c.timestamp = t := by
  obtain ⟨c, hc, rfl⟩ := Option.map_eq_some_iff.mp h
  exact ⟨c, List.mem_of_find?_eq_some hc, by simpa using List.find?_some hc, rfl⟩

theorem lastObserved_le {past : List UpdateCall} {c : UpdateCall} {tid : Int} {t : Rat}
    (htime : Chronological (c :: past)) (h : lastObserved past tid = some t) :
    t ≤ c.timestamp := by
  obtain ⟨c', hc', -, rfl⟩ := lastObserved_mem h
  exact (List.pairwise_cons.mp htime).1 c' hc'

theorem sightings_observed {c : UpdateCall} {past : List UpdateCall} {tid : Int}
    (h : c.observes tid = true) : sightings (c :: past) tid = sightings past tid + 1 := by
  have hkept : c.drops past tid = false := by simp [UpdateCall.drops, h]
  unfold sightings
  rw [sinceDrop, hkept, if_neg (by simp), List.countP_cons, h]
  simp

theorem sightings_unobserved {c : UpdateCall} {past : List UpdateCall} {tid : Int}
    (h : c.observes tid = false) :
    sightings (c :: past) tid = if c.drops past tid then 0 else sightings past tid := by
  unfold sightings
  rw [sinceDrop]
  split_ifs
  · rfl
  · rw [List.countP_cons, h]
    simp

/-! ## What an observation does to the times -/

namespace VehicleRecord

variable (hypot : Int → Int → Rat) (s : VehicleRecord) (d : Detection) (frameNumber : Int)
  (timestamp : Rat)

/-- The record after one more observation. -/
def again : VehicleRecord := s.observe hypot d Config.minConfirmationFrames frameNumber timestamp

/-- The count of slow frames grows by at most one, and it starts over in another lane. -/
theorem again_low_le :
    (s.again hypot d frameNumber timestamp).consecutiveLowMotionFrames
      ≤ (if s.lane ≠ d.laneName then 0 else s.consecutiveLowMotionFrames) + 1 := by
  unfold again observe countSighting flagQueue measureMotion enterLane
  simp only [decide_eq_true_eq]
  split_ifs <;> omega

/-- The vehicle is queued exactly when it has been slow for long enough. -/
theorem again_isQueued :
    (s.again hypot d frameNumber timestamp).isQueued
      = decide (Config.consecutiveQueueFrames
        ≤ (s.again hypot d frameNumber timestamp).consecutiveLowMotionFrames) := rfl

/-- **Another lane starts both times over and clears the queue flag.** -/
theorem again_of_switch (h : s.lane ≠ d.laneName) :
    (s.again hypot d frameNumber timestamp).timeInLaneSec = 0
      ∧ (s.again hypot d frameNumber timestamp).queueTimeSec = 0
      ∧ (s.again hypot d frameNumber timestamp).isQueued = false := by
  have hlow := again_low_le hypot s d frameNumber timestamp
  rw [if_pos h] at hlow
  have hqueued : (s.again hypot d frameNumber timestamp).isQueued = false := by
    rw [again_isQueued, decide_eq_false_iff_not]
    unfold Config.consecutiveQueueFrames
    omega
  refine ⟨?_, ?_, hqueued⟩
  · unfold again observe countSighting flagQueue measureMotion enterLane
    simp [h]
  · have hqueue : (s.again hypot d frameNumber timestamp).queueTimeSec
        = if (s.again hypot d frameNumber timestamp).isQueued = true
            ∧ 0 < timestamp - s.lastSeenTimestamp
          then (s.enterLane d.laneName (timestamp - s.lastSeenTimestamp)).queueTimeSec
            + (timestamp - s.lastSeenTimestamp)
          else (s.enterLane d.laneName (timestamp - s.lastSeenTimestamp)).queueTimeSec := rfl
    rw [hqueue, hqueued, if_neg (by simp)]
    unfold enterLane
    simp [h]

/-- In the same lane both times grow by the time since the last observation, the one in the queue
only while the vehicle is queued. -/
theorem again_of_stay (h : s.lane = d.laneName) (hle : s.lastSeenTimestamp ≤ timestamp) :
    (s.again hypot d frameNumber timestamp).timeInLaneSec
        = s.timeInLaneSec + (timestamp - s.lastSeenTimestamp)
      ∧ (s.again hypot d frameNumber timestamp).queueTimeSec
        = if (s.again hypot d frameNumber timestamp).isQueued
          then s.queueTimeSec + (timestamp - s.lastSeenTimestamp) else s.queueTimeSec := by
  have hqueue : (s.again hypot d frameNumber timestamp).queueTimeSec
      = if (s.again hypot d frameNumber timestamp).isQueued = true
          ∧ 0 < timestamp - s.lastSeenTimestamp
        then (s.enterLane d.laneName (timestamp - s.lastSeenTimestamp)).queueTimeSec
          + (timestamp - s.lastSeenTimestamp)
        else (s.enterLane d.laneName (timestamp - s.lastSeenTimestamp)).queueTimeSec := rfl
  have htime : (s.again hypot d frameNumber timestamp).timeInLaneSec
      = (s.enterLane d.laneName (timestamp - s.lastSeenTimestamp)).timeInLaneSec := rfl
  rw [hqueue, htime]
  unfold enterLane
  simp only [h, ne_eq, not_true_eq_false, decide_false, Bool.false_eq_true, if_false]
  by_cases hdt : 0 < timestamp - s.lastSeenTimestamp
  · simp [hdt]
  · -- no time has passed
    have hzero : timestamp - s.lastSeenTimestamp = 0 := by linarith
    simp [hzero]

end VehicleRecord

/-! ## What a call does to one record -/

namespace UpdateCall

variable (hypot : Int → Int → Rat) (c : UpdateCall) (tid : Int)

/-- The record of a vehicle after it was observed as `d`. -/
def sight (r : Option VehicleRecord) (d : Detection) : VehicleRecord :=
  match r with
  | none => VehicleRecord.create d tid c.frameNumber c.timestamp
  | some s => s.again hypot d c.frameNumber c.timestamp

/-- What one detection does to the record. -/
def trackOne (r : Option VehicleRecord) (d : Detection) : Option VehicleRecord :=
  if d.trackId = some tid then
    match d.observationType with
    | .predicted => r.map (·.predict c.frameNumber)
    | .observed => some (c.sight hypot tid r d)
  else r

/-- What the whole call does to it. -/
def track (r : Option VehicleRecord) : Option VehicleRecord :=
  let seen := c.detections.foldl (c.trackOne hypot tid) r
  if c.observes tid then seen
  else (seen.filter fun s =>
    decide (c.timestamp - s.lastSeenTimestamp ≤ Config.trackRemovalGraceSec)).map
      fun s => { s with isAlive := false }

end UpdateCall

/-- The record of a vehicle after a history. -/
def recordAfter (hypot : Int → Int → Rat) (tid : Int) : List UpdateCall → Option VehicleRecord
  | [] => none
  | c :: past => c.track hypot tid (recordAfter hypot tid past)

/-! ## The manager is that machine for every vehicle -/

namespace VehicleStateManager

/-- The manager has the thresholds of the configuration. -/
structure Standard (m : VehicleStateManager) : Prop where
  confirmation : m.minConfirmationFrames = Config.minConfirmationFrames
  grace : m.trackRemovalGraceSec = Config.trackRemovalGraceSec

theorem standard_empty : Standard {} := ⟨rfl, rfl⟩

/-- The longer timeout never decides. -/
theorem isStale_iff {m : VehicleStateManager} (h : m.Standard) (s : VehicleRecord) (now : Rat) :
    m.isStale s now = true ↔ Config.trackRemovalGraceSec < now - s.lastSeenTimestamp := by
  have hlt : Config.trackRemovalGraceSec < Config.trackExpirationTimeoutSec := by
    unfold Config.trackRemovalGraceSec Config.trackExpirationTimeoutSec
    norm_num
  unfold isStale
  rw [h.grace]
  simp only [Bool.or_eq_true, decide_eq_true_eq]
  constructor
  · rintro (hlong | hgrace)
    · linarith
    · exact hgrace
  · intro hgrace
    exact Or.inr hgrace

variable (hypot : Int → Int → Rat) (c : UpdateCall)

theorem updateOne_standard {u : Updating} (h : u.manager.Standard) (d : Detection) :
    (updateOne hypot c.frameNumber c.timestamp u d).manager.Standard := by
  unfold updateOne
  cases d.trackId with
  | none => exact h
  | some tid =>
      cases d.observationType with
      | observed => exact ⟨h.confirmation, h.grace⟩
      | predicted =>
          show (u.manager.predictOne d tid c.frameNumber).1.Standard
          unfold predictOne
          split
          · exact h
          · exact ⟨h.confirmation, h.grace⟩

/-- One detection changes the record of its own vehicle only. -/
theorem get?_updateOne {u : Updating} (h : u.manager.Standard) (d : Detection) (tid : Int) :
    (updateOne hypot c.frameNumber c.timestamp u d).manager.activeStates.get? tid
      = c.trackOne hypot tid (u.manager.activeStates.get? tid) d := by
  unfold updateOne UpdateCall.trackOne
  cases htid : d.trackId with
  | none => simp
  | some seen =>
      simp only [Option.some.injEq]
      cases d.observationType with
      | observed =>
          show (u.manager.activeStates.set seen _).get? tid = _
          rw [Dict.get?_set]
          by_cases hseen : seen = tid
          · subst hseen
            simp only [if_pos]
            unfold sighted UpdateCall.sight
            rw [h.confirmation]
            cases u.manager.activeStates.get? seen <;> rfl
          · rw [if_neg hseen, if_neg (Ne.symm hseen)]
      | predicted =>
          show (u.manager.predictOne d seen c.frameNumber).1.activeStates.get? tid = _
          unfold predictOne
          by_cases hseen : seen = tid
          · subst hseen
            rw [if_pos rfl]
            cases hget : u.manager.activeStates.get? seen with
            | none => exact hget
            | some s => exact Dict.get?_set_self _ _ _
          · rw [if_neg hseen]
            cases u.manager.activeStates.get? seen with
            | none => rfl
            | some s => exact Dict.get?_set_of_ne _ _ (Ne.symm hseen)

/-- An observation enters the ids of the call. -/
theorem mem_currentFrameTrackIds_updateOne (u : Updating) (d : Detection) (tid : Int) :
    tid ∈ (updateOne hypot c.frameNumber c.timestamp u d).currentFrameTrackIds
      ↔ tid ∈ u.currentFrameTrackIds ∨ d.shows tid = true := by
  unfold updateOne Detection.shows
  cases htid : d.trackId with
  | none => simp
  | some seen =>
      cases d.observationType with
      | observed => simp [or_comm, eq_comm]
      | predicted => simp

/-- A stretch of detections, for one vehicle. -/
theorem foldl_updateOne {u : Updating} (h : u.manager.Standard) (ds : List Detection) (tid : Int) :
    let u' := ds.foldl (updateOne hypot c.frameNumber c.timestamp) u
    u'.manager.Standard
      ∧ u'.manager.activeStates.get? tid
          = ds.foldl (c.trackOne hypot tid) (u.manager.activeStates.get? tid)
      ∧ (tid ∈ u'.currentFrameTrackIds
          ↔ tid ∈ u.currentFrameTrackIds ∨ ds.any (·.shows tid) = true) := by
  induction ds generalizing u with
  | nil => exact ⟨h, rfl, by simp⟩
  | cons d ds ih =>
      obtain ⟨hstd, hget, hids⟩ := ih (updateOne_standard hypot c h d)
      rw [get?_updateOne hypot c h] at hget
      rw [mem_currentFrameTrackIds_updateOne] at hids
      refine ⟨hstd, hget, ?_⟩
      rw [List.foldl_cons, hids, List.any_cons, Bool.or_eq_true, or_assoc]

/-- The purge, for one vehicle. -/
theorem get?_purgeStaleTracks {m : VehicleStateManager} (h : m.Standard) (ids : Finset Int)
    (now : Rat) (tid : Int) :
    (m.purgeStaleTracks ids now).activeStates.get? tid
      = if tid ∈ ids then m.activeStates.get? tid
        else ((m.activeStates.get? tid).filter fun s =>
          decide (now - s.lastSeenTimestamp ≤ Config.trackRemovalGraceSec)).map
            fun s => { s with isAlive := false } := by
  unfold purgeStaleTracks
  rw [Dict.get?_filter, Dict.get?_mapValues]
  unfold VehicleRecord.markUnseen
  cases m.activeStates.get? tid with
  | none => simp
  | some s =>
      by_cases hid : tid ∈ ids
      · simp [hid]
      · have hstale : m.isStale { s with isAlive := false } now
            = !decide (now - s.lastSeenTimestamp ≤ Config.trackRemovalGraceSec) := by
          rw [Bool.eq_iff_iff, isStale_iff h, Bool.not_eq_true', decide_eq_false_iff_not, not_le]
        simp only [hid, if_false, Option.map_some, decide_false, Bool.false_or]
        rw [Option.filter_some, Option.filter_some, hstale, Bool.not_not]
        split_ifs <;> rfl

/-- **A call does to the record of each vehicle what `track` says.** -/
theorem get?_update {m : VehicleStateManager} (h : m.Standard) (tid : Int) :
    (m.update hypot c).1.activeStates.get? tid
      = c.track hypot tid (m.activeStates.get? tid) := by
  obtain ⟨hstd, hget, hids⟩ :=
    foldl_updateOne hypot c (u := { manager := m }) h c.detections tid
  have hseen : tid ∈ (c.detections.foldl (updateOne hypot c.frameNumber c.timestamp)
      { manager := m }).currentFrameTrackIds ↔ c.observes tid = true := by
    rw [hids]
    simp [UpdateCall.observes]
  unfold update UpdateCall.track
  dsimp only
  rw [get?_purgeStaleTracks hstd, hget]
  by_cases hobs : c.observes tid = true
  · rw [if_pos (hseen.mpr hobs), if_pos hobs]
  · rw [if_neg (mt hseen.mp hobs), if_neg hobs]

theorem update_standard {m : VehicleStateManager} (h : m.Standard) :
    (m.update hypot c).1.Standard := by
  obtain ⟨hstd, -, -⟩ := foldl_updateOne hypot c (u := { manager := m }) h c.detections 0
  exact ⟨hstd.confirmation, hstd.grace⟩

/-- **The active states after a run are the records of the vehicles.** -/
theorem get?_run (calls : List UpdateCall) (tid : Int) :
    (final (update hypot) {} calls).Standard
      ∧ (final (update hypot) {} calls).activeStates.get? tid
        = recordAfter hypot tid calls.reverse := by
  induction calls using List.reverseRecOn with
  | nil => exact ⟨standard_empty, rfl⟩
  | append_singleton calls c ih =>
      obtain ⟨hstd, hget⟩ := ih
      rw [final_append]
      refine ⟨update_standard hypot c hstd, ?_⟩
      show (update hypot _ c).1.activeStates.get? tid = _
      rw [get?_update hypot c hstd, hget, List.reverse_append]
      rfl

end VehicleStateManager

end SmartTraffic
