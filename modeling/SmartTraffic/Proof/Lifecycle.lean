import SmartTraffic.Perception.History
import SmartTraffic.Proof.Predictions

/-!
# The life of a tracked vehicle

A record lives from the first observation of its vehicle to the first call that
finds the last observation too long ago. The record is compared with the history
of the observations: when it exists, what its clock and its counter say, and which
vehicles are listed for a lane.
-/

namespace SmartTraffic

open Lib

/-! ## One record -/

namespace UpdateCall

variable (hypot : Int → Int → Rat) (c : UpdateCall) (tid : Int)

@[simp] theorem sight_lastSeenTimestamp (r : Option VehicleRecord) (d : Detection) :
    (c.sight hypot tid r d).lastSeenTimestamp = c.timestamp := by cases r <;> rfl

@[simp] theorem sight_isAlive (r : Option VehicleRecord) (d : Detection) :
    (c.sight hypot tid r d).isAlive = true := by cases r <;> rfl

theorem trackOne_shows {d : Detection} (h : d.shows tid = true) (r : Option VehicleRecord) :
    c.trackOne hypot tid r d = some (c.sight hypot tid r d) := by
  simp only [Detection.shows, Bool.and_eq_true, decide_eq_true_eq] at h
  unfold trackOne
  rw [if_pos h.1, h.2]

/-- A detection that is no observation leaves no evidence. -/
theorem trackOne_forget {d : Detection} (h : d.shows tid = false) (r : Option VehicleRecord) :
    (c.trackOne hypot tid r d).map (·.forget) = r.map (·.forget) := by
  unfold trackOne
  split_ifs with htid
  · cases hobs : d.observationType with
    | observed => simp [Detection.shows, htid, hobs] at h
    | predicted =>
        cases r with
        | none => rfl
        | some s => exact congrArg some (forget_predict s c.frameNumber)
  · rfl

variable {c}

/-- **Induction over the detections of a call.** -/
theorem foldl_trackOne_induction {P : VehicleRecord → Prop}
    (hcreate : ∀ d, P (VehicleRecord.create d tid c.frameNumber c.timestamp))
    (hagain : ∀ s d, P s → P (s.again hypot d c.frameNumber c.timestamp))
    (hpredict : ∀ s, P s → P (s.predict c.frameNumber)) {r : Option VehicleRecord}
    (hr : ∀ s, r = some s → P s) (ds : List Detection) :
    ∀ s, ds.foldl (c.trackOne hypot tid) r = some s → P s := by
  induction ds generalizing r with
  | nil => exact hr
  | cons d ds ih =>
      refine ih fun s hs => ?_
      unfold trackOne at hs
      split_ifs at hs with htid
      · cases hobs : d.observationType with
        | observed =>
            rw [hobs] at hs
            obtain rfl := Option.some.inj hs
            cases r with
            | none => exact hcreate d
            | some s₀ => exact hagain s₀ d (hr s₀ rfl)
        | predicted =>
            rw [hobs] at hs
            obtain ⟨s₀, hs₀, rfl⟩ := Option.map_eq_some_iff.mp hs
            exact hpredict s₀ (hr s₀ hs₀)
      · exact hr s hs

variable {tid}

/-- Detections that do not show the vehicle leave no evidence. -/
theorem foldl_trackOne_forget {ds : List Detection} (h : ds.any (·.shows tid) = false)
    (r : Option VehicleRecord) :
    (ds.foldl (c.trackOne hypot tid) r).map (·.forget) = r.map (·.forget) := by
  induction ds generalizing r with
  | nil => rfl
  | cons d ds ih =>
      rw [List.any_cons, Bool.or_eq_false_iff] at h
      rw [List.foldl_cons, ih h.2, trackOne_forget hypot c tid h.1]

/-- Detections that show the vehicle leave it alive, last seen in the call. -/
theorem foldl_trackOne_shows {ds : List Detection} (h : ds.any (·.shows tid) = true)
    (r : Option VehicleRecord) : ∃ s, ds.foldl (c.trackOne hypot tid) r = some s
      ∧ s.lastSeenTimestamp = c.timestamp ∧ s.isAlive = true := by
  induction ds generalizing r with
  | nil => simp at h
  | cons d ds ih =>
      rw [List.any_cons, Bool.or_eq_true] at h
      by_cases hrest : ds.any (·.shows tid) = true
      · exact ih hrest _
      · have hd : d.shows tid = true := h.resolve_right hrest
        rw [List.foldl_cons, trackOne_shows hypot c tid hd]
        -- what follows leaves no evidence any more
        have hforget := foldl_trackOne_forget hypot (c := c)
          (Bool.not_eq_true _ ▸ hrest) (some (c.sight hypot tid r d))
        obtain ⟨s, hs, hsame⟩ := Option.map_eq_some_iff.mp hforget
        exact ⟨s, hs,
          (congrArg (·.lastSeenTimestamp) hsame).trans (sight_lastSeenTimestamp hypot c tid r d),
          (congrArg (·.isAlive) hsame).trans (sight_isAlive hypot c tid r d)⟩

theorem track_observed (h : c.observes tid = true) (r : Option VehicleRecord) :
    ∃ s, c.track hypot tid r = some s ∧ s.lastSeenTimestamp = c.timestamp ∧ s.isAlive = true := by
  unfold track
  rw [if_pos h]
  exact foldl_trackOne_shows hypot h r

/-- A call without an observation: nothing to keep, a record that is dropped, or a record that is
kept but for its marks. -/
theorem track_unobserved (h : c.observes tid = false) (r : Option VehicleRecord) :
    r = none ∧ c.track hypot tid r = none
      ∨ (∃ s, r = some s ∧ Config.trackRemovalGraceSec < c.timestamp - s.lastSeenTimestamp
          ∧ c.track hypot tid r = none)
      ∨ ∃ s s', r = some s ∧ c.timestamp - s.lastSeenTimestamp ≤ Config.trackRemovalGraceSec
          ∧ c.track hypot tid r = some s' ∧ s'.forget = { s.forget with isAlive := false } := by
  have hforget := foldl_trackOne_forget hypot (c := c) h r
  unfold track
  rw [h, if_neg (by simp)]
  cases r with
  | none =>
      rw [Option.map_eq_none_iff.mp hforget]
      exact Or.inl ⟨rfl, rfl⟩
  | some s =>
      obtain ⟨s', hs', hsame⟩ := Option.map_eq_some_iff.mp hforget
      have hlast : s'.lastSeenTimestamp = s.lastSeenTimestamp :=
        congrArg (·.lastSeenTimestamp) hsame
      rw [hs', Option.filter_some, hlast]
      right
      by_cases hfresh : c.timestamp - s.lastSeenTimestamp ≤ Config.trackRemovalGraceSec
      · rw [if_pos (by simpa using hfresh)]
        exact Or.inr ⟨s, _, rfl, hfresh, rfl,
          congrArg (fun s : VehicleRecord => { s with isAlive := false }) hsame⟩
      · rw [if_neg (by simpa using hfresh)]
        exact Or.inl ⟨s, rfl, not_le.mp hfresh, rfl⟩

/-- With no id coming twice, the one detection that shows the vehicle decides. -/
theorem track_sight (hrep : c.NoRepeats) {d : Detection} (hd : d ∈ c.detections)
    (hshows : d.shows tid = true) (r : Option VehicleRecord) :
    c.track hypot tid r = some (c.sight hypot tid r d) := by
  have hobs : c.observes tid = true := List.any_eq_true.mpr ⟨d, hd, hshows⟩
  have hid : d.trackId = some tid := by
    simp only [Detection.shows, Bool.and_eq_true, decide_eq_true_eq] at hshows
    exact hshows.1
  -- detections of other vehicles leave the record alone
  have hskip : ∀ ds : List Detection, (∀ d ∈ ds, d.trackId ≠ some tid) →
      ∀ r, ds.foldl (c.trackOne hypot tid) r = r := by
    intro ds
    induction ds with
    | nil => intro _ r; rfl
    | cons d ds ih =>
        intro hds r
        rw [List.foldl_cons]
        have hone : c.trackOne hypot tid r d = r := by
          unfold trackOne
          rw [if_neg (hds d List.mem_cons_self)]
        rw [hone]
        exact ih (fun d hd => hds d (List.mem_cons_of_mem _ hd)) r
  obtain ⟨pre, post, hsplit⟩ := List.mem_iff_append.mp hd
  unfold NoRepeats at hrep
  rw [hsplit, List.filterMap_append, List.filterMap_cons_some hid, List.nodup_append] at hrep
  obtain ⟨-, hpost, hcross⟩ := hrep
  -- no detection before or after it shows the vehicle again
  have hpre : ∀ d ∈ pre, d.trackId ≠ some tid := by
    intro d' hd' heq
    exact hcross tid (List.mem_filterMap.mpr ⟨d', hd', heq⟩) tid List.mem_cons_self rfl
  have hpost' : ∀ d ∈ post, d.trackId ≠ some tid := by
    intro d' hd' heq
    exact (List.nodup_cons.mp hpost).1 (List.mem_filterMap.mpr ⟨d', hd', heq⟩)
  unfold track
  rw [if_pos hobs, hsplit, List.foldl_append, List.foldl_cons, hskip pre hpre,
    trackOne_shows hypot c tid hshows, hskip post hpost']

end UpdateCall

/-! ## A record and its history -/

/-- The record agrees with the history: when its vehicle was last seen, and that no call of the
history came too late for it. -/
structure Lives (past : List UpdateCall) (tid : Int) (s : VehicleRecord) : Prop where
  lastSeen : lastObserved past tid = some s.lastSeenTimestamp
  recent : ∀ c ∈ past, c.timestamp - s.lastSeenTimestamp ≤ Config.trackRemovalGraceSec
  alive : s.isAlive = true ↔ ∃ c, past.head? = some c ∧ c.observes tid = true

/-- Some call came too late for the last observation. -/
def Gone (past : List UpdateCall) (tid : Int) : Prop :=
  ∀ t, lastObserved past tid = some t → ∃ c ∈ past, Config.trackRemovalGraceSec < c.timestamp - t

/-- The record there is, or that there is none, agrees with the history. -/
def Agrees (past : List UpdateCall) (tid : Int) : Option VehicleRecord → Prop
  | none => Gone past tid
  | some s => Lives past tid s

/-- Too late once is too late for good. -/
theorem Gone.cons {past : List UpdateCall} {tid : Int} (h : Gone past tid) {c : UpdateCall}
    (hobs : c.observes tid = false) : Gone (c :: past) tid := by
  intro t ht
  rw [lastObserved_cons, hobs] at ht
  obtain ⟨c', hc', hlate⟩ := h t ht
  exact ⟨c', List.mem_cons_of_mem _ hc', hlate⟩

/-- **There is a record exactly as long as no call comes too late.** -/
theorem recordAfter_agrees (hypot : Int → Int → Rat) {past : List UpdateCall} (tid : Int)
    (htime : Chronological past) : Agrees past tid (recordAfter hypot tid past) := by
  induction past with
  | nil => intro t ht; cases ht
  | cons c past ih =>
      obtain ⟨hle, hpast⟩ := List.pairwise_cons.mp htime
      have hr := ih hpast
      rw [recordAfter]
      by_cases hobs : c.observes tid = true
      · obtain ⟨s, hs, hseen, halive⟩ :=
          UpdateCall.track_observed hypot hobs (recordAfter hypot tid past)
        rw [hs]
        refine ⟨by rw [lastObserved_cons, if_pos hobs, hseen], fun c' hc' => ?_, ?_⟩
        · have hgrace : (0 : Rat) ≤ Config.trackRemovalGraceSec := by
            unfold Config.trackRemovalGraceSec
            norm_num
          have hc : c'.timestamp ≤ c.timestamp := by
            rcases List.mem_cons.mp hc' with rfl | hc'
            · exact le_refl _
            · exact hle c' hc'
          rw [hseen]
          linarith
        · exact ⟨fun _ => ⟨c, rfl, hobs⟩, fun _ => halive⟩
      · -- the call does not show the vehicle
        rw [Bool.not_eq_true] at hobs
        have hlast : lastObserved (c :: past) tid = lastObserved past tid := by
          rw [lastObserved_cons, hobs]
          rfl
        rcases UpdateCall.track_unobserved hypot hobs (recordAfter hypot tid past) with
          ⟨hnone, htrack⟩ | ⟨s, hsome, hlate, htrack⟩ | ⟨s, s', hsome, hfresh, htrack, hsame⟩
        · -- there was no record, and there is none
          rw [hnone] at hr
          rw [htrack]
          exact Gone.cons hr hobs
        · -- the call comes too late, and the record goes
          rw [hsome] at hr
          rw [htrack]
          intro t ht
          rw [hlast, hr.lastSeen] at ht
          obtain rfl := Option.some.inj ht
          exact ⟨c, List.mem_cons_self, hlate⟩
        · -- the record is kept, as not alive
          rw [hsome] at hr
          rw [htrack]
          have hseen : s'.lastSeenTimestamp = s.lastSeenTimestamp :=
            congrArg (·.lastSeenTimestamp) hsame
          have hdead : s'.isAlive = false := congrArg (·.isAlive) hsame
          refine ⟨by rw [hlast, hr.lastSeen, hseen], fun c' hc' => ?_, ?_⟩
          · rw [hseen]
            rcases List.mem_cons.mp hc' with rfl | hc'
            · exact hfresh
            · exact hr.recent c' hc'
          · simp [hdead, hobs]

theorem recordAfter_lives {hypot : Int → Int → Rat} {past : List UpdateCall} {tid : Int}
    {s : VehicleRecord} (htime : Chronological past) (h : recordAfter hypot tid past = some s) :
    Lives past tid s := by
  have hagrees := recordAfter_agrees hypot tid htime
  rwa [h] at hagrees

/-- **Induction over a history**: what holds of a new record, and is kept by an observation that is
not earlier than the last and by whatever leaves no evidence. -/
theorem recordAfter_induction {hypot : Int → Int → Rat} {tid : Int} {P : VehicleRecord → Prop}
    (hcreate : ∀ (c : UpdateCall) d, P (VehicleRecord.create d tid c.frameNumber c.timestamp))
    (hagain : ∀ (c : UpdateCall) s d, s.lastSeenTimestamp ≤ c.timestamp → P s →
      P (s.again hypot d c.frameNumber c.timestamp))
    (hforget : ∀ s s' : VehicleRecord, { s.forget with isAlive := true }
      = { s'.forget with isAlive := true } → P s → P s')
    {past : List UpdateCall} (htime : Chronological past) :
    ∀ s, recordAfter hypot tid past = some s → P s := by
  induction past with
  | nil => intro s hs; cases hs
  | cons c past ih =>
      have hpast := (List.pairwise_cons.mp htime).2
      -- no record of the past is ahead of the call
      have hstart : ∀ s, recordAfter hypot tid past = some s →
          P s ∧ s.lastSeenTimestamp ≤ c.timestamp := by
        intro s hs
        exact ⟨ih hpast s hs, lastObserved_le htime (recordAfter_lives hpast hs).lastSeen⟩
      have hseen := UpdateCall.foldl_trackOne_induction hypot tid (c := c)
        (P := fun s => P s ∧ s.lastSeenTimestamp ≤ c.timestamp)
        (fun d => ⟨hcreate c d, le_refl _⟩)
        (fun s d hs => ⟨hagain c s d hs.2 hs.1, le_refl _⟩)
        (fun s hs => ⟨hforget s _ rfl hs.1, hs.2⟩) hstart c.detections
      intro s hs
      rw [recordAfter] at hs
      unfold UpdateCall.track at hs
      dsimp only at hs
      split_ifs at hs
      · exact (hseen s hs).1
      · obtain ⟨s₀, hs₀, rfl⟩ := Option.map_eq_some_iff.mp hs
        exact hforget s₀ _ rfl (hseen s₀ (Option.filter_eq_some_iff.mp hs₀).1).1

/-- The counter of a record; no record counts nothing. -/
def seenFrames (r : Option VehicleRecord) : Nat := r.elim 0 (·.consecutiveSeenFrames)

/-- **The counter of the record is the number of sightings since it was made.** -/
theorem seenFrames_recordAfter (hypot : Int → Int → Rat) {past : List UpdateCall} (tid : Int)
    (htime : Chronological past) (hrep : ∀ c ∈ past, c.NoRepeats) :
    seenFrames (recordAfter hypot tid past) = sightings past tid := by
  induction past with
  | nil => rfl
  | cons c past ih =>
      have hpast := (List.pairwise_cons.mp htime).2
      have hr := ih hpast fun c hc => hrep c (List.mem_cons_of_mem _ hc)
      have hagrees := recordAfter_agrees hypot tid hpast
      rw [recordAfter]
      by_cases hobs : c.observes tid = true
      · obtain ⟨d, hd, hshows⟩ := List.any_eq_true.mp hobs
        rw [UpdateCall.track_sight hypot (hrep c List.mem_cons_self) hd hshows,
          sightings_observed hobs, ← hr]
        cases recordAfter hypot tid past <;> rfl
      · rw [Bool.not_eq_true] at hobs
        rw [sightings_unobserved hobs, ← hr]
        rcases UpdateCall.track_unobserved hypot hobs (recordAfter hypot tid past) with
          ⟨hnone, htrack⟩ | ⟨s, hsome, hlate, htrack⟩ | ⟨s, s', hsome, hfresh, htrack, hsame⟩
        · rw [htrack, hnone]
          split_ifs <;> rfl
        · rw [hsome] at hagrees
          have hdrops : c.drops past tid = true := by
            simp [UpdateCall.drops, hobs, hagrees.lastSeen, hlate]
          rw [htrack, if_pos hdrops]
          rfl
        · rw [hsome] at hagrees
          have hdrops : c.drops past tid = false := by
            simp [UpdateCall.drops, hobs, hagrees.lastSeen, not_lt.mpr hfresh]
          rw [htrack, hdrops, hsome]
          exact congrArg (·.consecutiveSeenFrames) hsame

/-- What every record says about itself. -/
structure Coherent (tid : Int) (s : VehicleRecord) : Prop where
  trackId : s.trackId = tid
  /-- The counter starts at one. -/
  seen : 0 < s.consecutiveSeenFrames
  confirmed : s.isConfirmed = true ↔ Config.minConfirmationFrames ≤ s.consecutiveSeenFrames

theorem recordAfter_coherent {hypot : Int → Int → Rat} {past : List UpdateCall} {tid : Int}
    (htime : Chronological past) :
    ∀ s, recordAfter hypot tid past = some s → Coherent tid s := by
  refine recordAfter_induction ?_ ?_ ?_ htime
  · intro c d
    refine ⟨rfl, Nat.one_pos, ?_⟩
    show false = true ↔ Config.minConfirmationFrames ≤ 1
    decide
  · intro c s d _ hs
    refine ⟨hs.trackId, Nat.succ_pos _, ?_⟩
    have hconfirmed := hs.confirmed
    show (s.isConfirmed || decide (Config.minConfirmationFrames ≤ s.consecutiveSeenFrames + 1))
      = true ↔ Config.minConfirmationFrames ≤ s.consecutiveSeenFrames + 1
    rw [Bool.or_eq_true, decide_eq_true_eq, hconfirmed]
    omega
  · intro s s' hsame hs
    have hid : s.trackId = s'.trackId := congrArg (·.trackId) hsame
    have hseen : s.consecutiveSeenFrames = s'.consecutiveSeenFrames :=
      congrArg (·.consecutiveSeenFrames) hsame
    have hconfirmed : s.isConfirmed = s'.isConfirmed := congrArg (·.isConfirmed) hsame
    exact ⟨hid ▸ hs.trackId, hseen ▸ hs.seen, hseen ▸ hconfirmed ▸ hs.confirmed⟩

/-! ## The lanes -/

namespace VehicleStateManager

/-- `get_confirmed_vehicles_by_lane().get(lane, [])`. -/
def confirmedIn (m : VehicleStateManager) (lane : String) : List VehicleRecord :=
  (m.getConfirmedVehiclesByLane.get? lane).getD []

/-- `historical_tracks_count.get(lane, set())`. -/
def historicalIn (m : VehicleStateManager) (lane : String) : Finset Int :=
  (m.historicalTracksCount.get? lane).getD ∅

theorem get?_groupOne (grouped : Dict String (List VehicleRecord)) (s : VehicleRecord)
    (lane : String) : ((groupOne grouped s).get? lane).getD []
      = (grouped.get? lane).getD [] ++ if s.lane = lane then [s] else [] := by
  unfold groupOne
  rw [Dict.get?_set]
  by_cases h : s.lane = lane
  · simp [h]
  · rw [if_neg (Ne.symm h), if_neg h, List.append_nil]

/-- The vehicles of a lane, in the order of the records. -/
theorem confirmedIn_eq (m : VehicleStateManager) (lane : String) :
    m.confirmedIn lane
      = m.activeStates.values.filter fun s => s.isAlive && s.isConfirmed && s.lane = lane := by
  have hfill : ∀ (vehicles : List VehicleRecord) (grouped : Dict String (List VehicleRecord)),
      ((vehicles.foldl groupOne grouped).get? lane).getD []
        = (grouped.get? lane).getD [] ++ vehicles.filter fun s => s.lane = lane := by
    intro vehicles
    induction vehicles with
    | nil => intro grouped; simp
    | cons s vehicles ih =>
        intro grouped
        rw [List.foldl_cons, ih, get?_groupOne, List.append_assoc, List.filter_cons]
        split_ifs <;> simp_all
  unfold confirmedIn getConfirmedVehiclesByLane
  rw [hfill, List.filter_filter]
  have hnone : ((∅ : Dict String (List VehicleRecord)).get? lane).getD [] = [] := rfl
  rw [hnone, List.nil_append]
  refine List.filter_congr fun s _ => ?_
  rw [Bool.and_comm]

theorem mem_confirmedIn {m : VehicleStateManager} {lane : String} {s : VehicleRecord} :
    s ∈ m.confirmedIn lane ↔ (∃ tid, m.activeStates.get? tid = some s)
      ∧ s.isAlive = true ∧ s.isConfirmed = true ∧ s.lane = lane := by
  rw [confirmedIn_eq, List.mem_filter, Dict.mem_values_iff]
  simp only [Bool.and_eq_true, decide_eq_true_eq, and_assoc]

/-- A confirmed vehicle is counted for its lane. -/
def Counted (m : VehicleStateManager) : Prop :=
  ∀ tid s, m.activeStates.get? tid = some s → s.isConfirmed = true → tid ∈ m.historicalIn s.lane

theorem counted_predictOne {m : VehicleStateManager} (h : m.Counted) (d : Detection)
    (tid frameNumber : Int) : (m.predictOne d tid frameNumber).1.Counted := by
  unfold predictOne
  cases hget : m.activeStates.get? tid with
  | none => exact h
  | some s₀ =>
      intro tid' s hs hconfirmed
      dsimp only at hs
      rw [Dict.get?_set] at hs
      split_ifs at hs with hid
      · obtain rfl := Option.some.inj hs
        exact hid ▸ h tid s₀ hget hconfirmed
      · exact h tid' s hs hconfirmed

/-- The counts only grow. -/
theorem historicalIn_observeOne (hypot : Int → Int → Rat) (m : VehicleStateManager)
    (d : Detection) (tid frameNumber : Int) (timestamp : Rat) (lane : String) :
    m.historicalIn lane ⊆ (m.observeOne hypot d tid frameNumber timestamp).1.historicalIn lane := by
  unfold observeOne historicalIn
  dsimp only
  split_ifs
  · rw [Dict.get?_set]
    split_ifs with hlane
    · rw [hlane]
      exact Finset.subset_insert _ _
    · exact Finset.Subset.refl _
  · exact Finset.Subset.refl _

theorem lane_sighted (hypot : Int → Int → Rat) (m : VehicleStateManager) (d : Detection)
    (tid frameNumber : Int) (timestamp : Rat) :
    (m.sighted hypot d tid frameNumber timestamp).lane = d.laneName := by
  unfold sighted
  split <;> rfl

theorem counted_observeOne (hypot : Int → Int → Rat) {m : VehicleStateManager} (h : m.Counted)
    (d : Detection) (tid frameNumber : Int) (timestamp : Rat) :
    (m.observeOne hypot d tid frameNumber timestamp).1.Counted := by
  intro tid' s hs hconfirmed
  have hgrows := historicalIn_observeOne hypot m d tid frameNumber timestamp s.lane
  have hstates : (m.observeOne hypot d tid frameNumber timestamp).1.activeStates
      = m.activeStates.set tid (m.sighted hypot d tid frameNumber timestamp) := rfl
  rw [hstates, Dict.get?_set] at hs
  split_ifs at hs with hid
  · obtain rfl := Option.some.inj hs
    rw [lane_sighted]
    unfold observeOne historicalIn
    dsimp only
    rw [if_pos hconfirmed, Dict.get?_set_self, hid]
    exact Finset.mem_insert_self _ _
  · exact hgrows (h tid' s hs hconfirmed)

theorem counted_updateOne (hypot : Int → Int → Rat) (c : UpdateCall) {u : Updating}
    (h : u.manager.Counted) (d : Detection) :
    (updateOne hypot c.frameNumber c.timestamp u d).manager.Counted := by
  unfold updateOne
  cases d.trackId with
  | none => exact h
  | some tid =>
      cases d.observationType with
      | observed => exact counted_observeOne hypot h d tid c.frameNumber c.timestamp
      | predicted => exact counted_predictOne h d tid c.frameNumber

/-- **Every call keeps the counts.** -/
theorem counted_update (hypot : Int → Int → Rat) {m : VehicleStateManager} (h : m.Counted)
    (c : UpdateCall) : (m.update hypot c).1.Counted := by
  have hseen : ∀ (ds : List Detection) (u : Updating), u.manager.Counted →
      (ds.foldl (updateOne hypot c.frameNumber c.timestamp) u).manager.Counted := by
    intro ds
    induction ds with
    | nil => intro u hu; exact hu
    | cons d ds ih => intro u hu; exact ih _ (counted_updateOne hypot c hu d)
  intro tid s hs hconfirmed
  -- the purge takes records away and marks others as not alive
  unfold update purgeStaleTracks at hs
  dsimp only at hs
  rw [Dict.get?_filter_eq_some, Dict.get?_mapValues] at hs
  obtain ⟨s₀, hs₀, rfl⟩ := Option.map_eq_some_iff.mp hs.1
  have hmark : ∀ ids, (VehicleRecord.markUnseen ids tid s₀).isConfirmed = s₀.isConfirmed
      ∧ (VehicleRecord.markUnseen ids tid s₀).lane = s₀.lane := by
    intro ids
    unfold VehicleRecord.markUnseen
    split_ifs <;> exact ⟨rfl, rfl⟩
  rw [(hmark _).1] at hconfirmed
  rw [(hmark _).2]
  exact hseen c.detections { manager := m } h tid s₀ hs₀ hconfirmed

theorem counted_run (hypot : Int → Int → Rat) (calls : List UpdateCall) :
    (final (update hypot) {} calls).Counted := by
  have hstart : Counted {} := by intro tid s hs; cases hs
  have hstep : ∀ (m : VehicleStateManager) (c : UpdateCall), m.Counted →
      (m.update hypot c).1.Counted := fun m c h => counted_update hypot h c
  exact final_invariant_of_step hstep hstart calls

end VehicleStateManager

/-! ## After a run -/

section

variable {hypot : Int → Int → Rat} {calls : List UpdateCall}

theorem chronological_reverse (h : calls.Pairwise fun c c' => c.timestamp ≤ c'.timestamp) :
    Chronological calls.reverse := List.pairwise_reverse.mpr h

theorem get?_run_snoc (hypot : Int → Int → Rat) (calls : List UpdateCall) (c : UpdateCall)
    (tid : Int) :
    (final (VehicleStateManager.update hypot) {} (calls ++ [c])).activeStates.get? tid
      = recordAfter hypot tid (c :: calls.reverse) := by
  have hget := (VehicleStateManager.get?_run hypot (calls ++ [c]) tid).2
  rwa [List.reverse_append] at hget

/-- The records of a run carry the ids they are kept under. -/
theorem trackId_run (htime : Chronological calls.reverse) {tid : Int} {s : VehicleRecord}
    (h : (final (VehicleStateManager.update hypot) {} calls).activeStates.get? tid = some s) :
    s.trackId = tid := by
  rw [(VehicleStateManager.get?_run hypot calls tid).2] at h
  exact (recordAfter_coherent htime s h).trackId

theorem nodup_confirmedIn_run (htime : Chronological calls.reverse) (lane : String) :
    (((final (VehicleStateManager.update hypot) {} calls).confirmedIn lane).map
      (·.trackId)).Nodup := by
  let m := final (VehicleStateManager.update hypot) {} calls
  have hkeys : m.activeStates.values.map (·.trackId) = m.activeStates.keys := by
    unfold Dict.values Dict.keys
    rw [List.map_map]
    refine List.map_congr_left fun item hitem => ?_
    exact trackId_run htime ((Dict.mem_items_iff m.activeStates).mp hitem)
  rw [VehicleStateManager.confirmedIn_eq]
  refine List.Nodup.sublist (List.filter_sublist.map _) ?_
  rw [hkeys]
  exact m.activeStates.nodup

theorem mem_historicalIn_run (htime : Chronological calls.reverse) {lane : String}
    {s : VehicleRecord}
    (h : s ∈ (final (VehicleStateManager.update hypot) {} calls).confirmedIn lane) :
    s.trackId ∈ (final (VehicleStateManager.update hypot) {} calls).historicalIn lane := by
  obtain ⟨⟨tid, hget⟩, -, hconfirmed, rfl⟩ := VehicleStateManager.mem_confirmedIn.mp h
  rw [trackId_run htime hget]
  exact VehicleStateManager.counted_run hypot calls tid s hget hconfirmed

/-- A vehicle that is listed for a lane is listed by the record kept under its id. -/
theorem get?_of_confirmedIn_run (htime : Chronological calls.reverse) {tid : Int} {lane : String}
    (h : tid ∈ ((final (VehicleStateManager.update hypot) {} calls).confirmedIn lane).map
      (·.trackId)) :
    ∃ s, (final (VehicleStateManager.update hypot) {} calls).activeStates.get? tid = some s
      ∧ s ∈ (final (VehicleStateManager.update hypot) {} calls).confirmedIn lane := by
  obtain ⟨s, hs, rfl⟩ := List.mem_map.mp h
  obtain ⟨⟨tid, hsome⟩, -⟩ := VehicleStateManager.mem_confirmedIn.mp hs
  have hid := trackId_run htime hsome
  exact ⟨s, hid ▸ hsome, hs⟩

/-- **The active states** are those of the vehicles that were observed lately. -/
theorem contains_run_iff {c : UpdateCall} (htime : Chronological (calls ++ [c]).reverse)
    (tid : Int) :
    (final (VehicleStateManager.update hypot) {} (calls ++ [c])).activeStates.contains tid = true
      ↔ ∃ t, lastObserved (calls ++ [c]).reverse tid = some t
        ∧ c.timestamp - Config.trackRemovalGraceSec ≤ t := by
  rw [List.reverse_append] at htime ⊢
  change Chronological (c :: calls.reverse) at htime
  show _ ↔ ∃ t, lastObserved (c :: calls.reverse) tid = some t ∧ _
  have hagrees := recordAfter_agrees hypot tid htime
  unfold Dict.contains
  rw [get?_run_snoc]
  cases hr : recordAfter hypot tid (c :: calls.reverse) with
  | none =>
      rw [hr] at hagrees
      simp only [Option.isSome_none, Bool.false_eq_true, false_iff, not_exists, not_and, not_le]
      intro t ht
      obtain ⟨c', hc', hlate⟩ := hagrees t ht
      have hle : c'.timestamp ≤ c.timestamp := by
        rcases List.mem_cons.mp hc' with rfl | hc'
        · exact le_refl _
        · exact (List.pairwise_cons.mp htime).1 c' hc'
      linarith
  | some s =>
      rw [hr] at hagrees
      have hrecent := hagrees.recent c List.mem_cons_self
      simp only [Option.isSome_some, true_iff]
      exact ⟨s.lastSeenTimestamp, hagrees.lastSeen, by linarith⟩

/-- **The listed vehicles** are those that the call observes after enough others did. -/
theorem exists_confirmedIn_run_iff {c : UpdateCall} (htime : Chronological (calls ++ [c]).reverse)
    (hrep : ∀ c' ∈ calls ++ [c], c'.NoRepeats) (tid : Int) :
    (∃ lane, tid ∈ ((final (VehicleStateManager.update hypot) {} (calls ++ [c])).confirmedIn
        lane).map (·.trackId))
      ↔ c.observes tid = true
        ∧ Config.minConfirmationFrames - 1 ≤ sightings calls.reverse tid := by
  let m := final (VehicleStateManager.update hypot) {} (calls ++ [c])
  have hget := get?_run_snoc hypot calls c tid
  have hchron : Chronological (c :: calls.reverse) := by rwa [List.reverse_append] at htime
  have hcount : ∀ s, m.activeStates.get? tid = some s → c.observes tid = true →
      s.consecutiveSeenFrames = sightings calls.reverse tid + 1 := by
    intro s hs hobs
    have hseen := seenFrames_recordAfter hypot tid hchron
      fun c' hc' => hrep c' (by simpa [or_comm] using hc')
    rw [← hget, hs, sightings_observed hobs] at hseen
    exact hseen
  have hlives : ∀ s, m.activeStates.get? tid = some s →
      (s.isAlive = true ↔ c.observes tid = true) := by
    intro s hs
    rw [(recordAfter_lives hchron (hget.symm.trans hs)).alive]
    simp
  have hconfirmed : ∀ s, m.activeStates.get? tid = some s →
      (s.isConfirmed = true ↔ Config.minConfirmationFrames ≤ s.consecutiveSeenFrames) :=
    fun s hs => (recordAfter_coherent hchron s (hget.symm.trans hs)).confirmed
  constructor
  · rintro ⟨lane, h⟩
    obtain ⟨s, hs, hmem⟩ := get?_of_confirmedIn_run htime h
    obtain ⟨-, halive, hconf, -⟩ := VehicleStateManager.mem_confirmedIn.mp hmem
    have hobs := (hlives s hs).mp halive
    have hn := hcount s hs hobs
    have hmin := (hconfirmed s hs).mp hconf
    exact ⟨hobs, by omega⟩
  · rintro ⟨hobs, hmin⟩
    obtain ⟨s, hs, -⟩ :=
      UpdateCall.track_observed hypot hobs (recordAfter hypot tid calls.reverse)
    have hsome : m.activeStates.get? tid = some s := hget.trans hs
    have hn := hcount s hsome hobs
    refine ⟨s.lane, List.mem_map.mpr ⟨s, ?_, trackId_run htime hsome⟩⟩
    refine VehicleStateManager.mem_confirmedIn.mpr
      ⟨⟨tid, hsome⟩, (hlives s hsome).mpr hobs, (hconfirmed s hsome).mpr ?_, rfl⟩
    omega

/-- No lane shows more vehicles than it has counted. -/
theorem liveCount_le_run (htime : Chronological calls.reverse) :
    ∀ item ∈ generateStats (final (VehicleStateManager.update hypot) {} calls),
      item.2.liveCount ≤ item.2.historicalCount := by
  intro item hitem
  unfold generateStats at hitem
  obtain ⟨lane, -, rfl⟩ := List.mem_map.mp hitem
  let m := final (VehicleStateManager.update hypot) {} calls
  have hsub : ((m.confirmedIn lane).map (·.trackId)).toFinset ⊆ m.historicalIn lane := by
    intro tid htid
    obtain ⟨s, hs, rfl⟩ := List.mem_map.mp (List.mem_toFinset.mp htid)
    exact mem_historicalIn_run htime hs
  have hcard := Finset.card_le_card hsub
  rw [List.toFinset_card_of_nodup (nodup_confirmedIn_run htime lane), List.length_map] at hcard
  show (((m.confirmedIn lane).map (·.toVehicleState)).length : Int) ≤ (m.historicalIn lane).card
  rw [List.length_map]
  exact_mod_cast hcard

end

namespace Proof

/--
**The life cycle of a tracked vehicle.** After a call at time `T` of any run, the
active states are those of the vehicles last observed no longer than the grace
period before `T`. The vehicles listed as confirmed are those observed in the call
and in enough earlier calls since their record was made; each is listed once, for
one lane, and is counted for that lane, so that no lane shows more vehicles than it
has counted.
-/
theorem vehicle_life_cycle (hypot : Int → Int → Rat) (calls : List UpdateCall) (c : UpdateCall)
    (htime : (calls ++ [c]).Pairwise fun c c' => c.timestamp ≤ c'.timestamp)
    (hrep : ∀ c' ∈ calls ++ [c], c'.NoRepeats) :
    let m := final (VehicleStateManager.update hypot) {} (calls ++ [c])
    (∀ tid, m.activeStates.contains tid = true
        ↔ ∃ t, lastObserved (calls ++ [c]).reverse tid = some t
          ∧ c.timestamp - Config.trackRemovalGraceSec ≤ t)
      ∧ (∀ tid, (∃ lane, tid ∈ (m.confirmedIn lane).map (·.trackId))
        ↔ c.observes tid = true
          ∧ Config.minConfirmationFrames - 1 ≤ sightings calls.reverse tid)
      ∧ (∀ tid lane lane', tid ∈ (m.confirmedIn lane).map (·.trackId) →
        tid ∈ (m.confirmedIn lane').map (·.trackId) → lane = lane')
      ∧ (∀ lane, ((m.confirmedIn lane).map (·.trackId)).Nodup)
      ∧ (∀ tid lane, tid ∈ (m.confirmedIn lane).map (·.trackId) → tid ∈ m.historicalIn lane)
      ∧ ∀ item ∈ generateStats m, item.2.liveCount ≤ item.2.historicalCount := by
  intro m
  have hchron := chronological_reverse htime
  refine ⟨contains_run_iff hchron, exists_confirmedIn_run_iff hchron hrep,
    fun tid lane lane' h h' => ?_, nodup_confirmedIn_run hchron, fun tid lane h => ?_,
    liveCount_le_run hchron⟩
  · obtain ⟨s, hs, hmem⟩ := get?_of_confirmedIn_run hchron h
    obtain ⟨s', hs', hmem'⟩ := get?_of_confirmedIn_run hchron h'
    obtain rfl := Option.some.inj (hs.symm.trans hs')
    have hlane := (VehicleStateManager.mem_confirmedIn.mp hmem).2.2.2
    have hlane' := (VehicleStateManager.mem_confirmedIn.mp hmem').2.2.2
    exact hlane.symm.trans hlane'
  · obtain ⟨s, hs, rfl⟩ := List.mem_map.mp h
    exact mem_historicalIn_run hchron hs

/-- A car is seen twice, and then not for three seconds. -/
theorem vehicle_life_cycle_car :
    let car : Detection := { className := "car", bbox := (0, 0, 10, 10), trackId := some 1,
                             lane := some "North" }
    let calls : List UpdateCall := [⟨[car], 1, 0⟩, ⟨[car], 2, 1⟩]
    let away : UpdateCall := ⟨[], 3, 4⟩
    (final (VehicleStateManager.update fun _ _ => 0) {} calls).activeStates.contains 1 = true
      ∧ (final (VehicleStateManager.update fun _ _ => 0) {}
          (calls ++ [away])).activeStates.contains 1 = false := by
  intro car calls away
  have hseen := (vehicle_life_cycle (fun _ _ => 0) [⟨[car], 1, 0⟩] ⟨[car], 2, 1⟩
    (by decide +kernel) (by decide +kernel)).1 1
  have hlost := (vehicle_life_cycle (fun _ _ => 0) calls away
    (by decide +kernel) (by decide +kernel)).1 1
  refine ⟨hseen.mpr ⟨1, by decide +kernel, by decide +kernel⟩, ?_⟩
  rw [Bool.eq_false_iff, Ne, hlost]
  rintro ⟨t, ht, hle⟩
  have hlast : lastObserved (calls ++ [away]).reverse 1 = some 1 := by decide +kernel
  rw [hlast] at ht
  obtain rfl := Option.some.inj ht
  exact absurd hle (by decide +kernel)

end Proof

end SmartTraffic
