import SmartTraffic.Proof.QueueTime

/-!
# Outages and waiting time

Records are dropped by the calls that miss their vehicle, and by no other. A vehicle
that is back after an outage is a new one exactly if some call has noticed that it was
away; an outage in which no call was made is taken for time in the lane.
-/

namespace SmartTraffic

open Lib

/-- The counters and times of a vehicle that has just appeared. -/
structure Restarted (s : VehicleRecord) : Prop where
  timeInLane : s.timeInLaneSec = 0
  queueTime : s.queueTimeSec = 0
  lowMotion : s.consecutiveLowMotionFrames = 0
  seen : s.consecutiveSeenFrames = 1
  unconfirmed : s.isConfirmed = false

/-- When the vehicle was last observed before a detection that follows `pre` in the call. -/
def lastSighting (past : List UpdateCall) (c : UpdateCall) (pre : List Detection) (tid : Int) :
    Option Rat :=
  if pre.any (·.shows tid) then some c.timestamp else lastObserved past tid

section

variable (hypot : Int → Int → Rat)

/-- The manager after some calls. -/
def managerAfter (calls : List UpdateCall) : VehicleStateManager :=
  final (VehicleStateManager.update hypot) {} calls

/-- The manager after some calls and a part of the next one. -/
def managerWithin (calls : List UpdateCall) (c : UpdateCall) (pre : List Detection) :
    VehicleStateManager :=
  (pre.foldl (VehicleStateManager.updateOne hypot c.frameNumber c.timestamp)
    { manager := managerAfter hypot calls }).manager

/-- An outage is not waiting time. -/
structure OutageIsNoWaiting (calls : List UpdateCall) : Prop where
  /-- A vehicle that is back after more than the expiration timeout is a new one. -/
  restarts : ∀ before c after, calls = before ++ c :: after →
    ∀ pre d post, c.detections = pre ++ d :: post →
    ∀ tid t, d.shows tid = true → lastSighting before.reverse c pre tid = some t →
      Config.trackExpirationTimeoutSec < c.timestamp - t →
      ∃ s, (managerWithin hypot before c (pre ++ [d])).activeStates.get? tid = some s
        ∧ Restarted s
  /-- No update adds more than the expiration timeout to a time. -/
  adds : ∀ before c after, calls = before ++ c :: after → ∀ tid s,
    (managerAfter hypot (before ++ [c])).activeStates.get? tid = some s →
      s.timeInLaneSec ≤ ((managerAfter hypot before).activeStates.get? tid).elim 0 (·.timeInLaneSec)
          + Config.trackExpirationTimeoutSec
        ∧ s.queueTimeSec ≤ ((managerAfter hypot before).activeStates.get? tid).elim 0
          (·.queueTimeSec) + Config.trackExpirationTimeoutSec

/-- Some call notices every outage: it comes more than the grace period after the last
observation, and before the vehicle is back. -/
def OutagesNoticed (calls : List UpdateCall) : Prop :=
  ∀ before c after, calls = before ++ c :: after → ∀ tid t, c.observes tid = true →
    lastObserved before.reverse tid = some t →
    Config.trackExpirationTimeoutSec < c.timestamp - t →
    ∃ c' ∈ before, Config.trackRemovalGraceSec < c'.timestamp - t

variable {hypot}

theorem get?_managerAfter (calls : List UpdateCall) (tid : Int) :
    (managerAfter hypot calls).activeStates.get? tid = recordAfter hypot tid calls.reverse :=
  (VehicleStateManager.get?_run hypot calls tid).2

theorem get?_managerWithin (calls : List UpdateCall) (c : UpdateCall) (pre : List Detection)
    (tid : Int) : (managerWithin hypot calls c pre).activeStates.get? tid
      = pre.foldl (c.trackOne hypot tid) (recordAfter hypot tid calls.reverse) := by
  obtain ⟨hstd, hget⟩ := VehicleStateManager.get?_run hypot calls tid
  have hfold := (VehicleStateManager.foldl_updateOne hypot c
    (u := { manager := managerAfter hypot calls }) hstd pre tid).2.1
  rw [← hget]
  exact hfold

/-- A record that is still there has not been noticed to be late. -/
theorem not_noticed {past : List UpdateCall} {tid : Int} {s : VehicleRecord} {t : Rat}
    (htime : Chronological past) (h : recordAfter hypot tid past = some s)
    (ht : lastObserved past tid = some t) {c : UpdateCall} (hc : c ∈ past) :
    ¬Config.trackRemovalGraceSec < c.timestamp - t := by
  have hlives := recordAfter_lives htime h
  rw [hlives.lastSeen] at ht
  obtain rfl := Option.some.inj ht
  exact not_lt.mpr (hlives.recent c hc)

/-- **A call adds no more to the times of a record than has passed since it was last seen.** -/
theorem track_adds {past : List UpdateCall} {c : UpdateCall} {tid : Int} {s : VehicleRecord}
    (htime : Chronological (c :: past)) (hobs : c.observes tid = true)
    (h : recordAfter hypot tid (c :: past) = some s) {gap : Rat} (hgap : 0 ≤ gap)
    (hlast : ∀ s₀, recordAfter hypot tid past = some s₀ →
      c.timestamp - s₀.lastSeenTimestamp ≤ gap) :
    s.timeInLaneSec ≤ (recordAfter hypot tid past).elim 0 (·.timeInLaneSec) + gap
      ∧ s.queueTimeSec ≤ (recordAfter hypot tid past).elim 0 (·.queueTimeSec) + gap := by
  have hpast := (List.pairwise_cons.mp htime).2
  let r := recordAfter hypot tid past
  let time₀ : Rat := r.elim 0 (·.timeInLaneSec)
  let queue₀ : Rat := r.elim 0 (·.queueTimeSec)
  -- a record that is not there counts as one without time
  have hbase : 0 ≤ time₀ ∧ 0 ≤ queue₀ := by
    cases hr : r with
    | none => simp [time₀, queue₀, hr]
    | some s₀ =>
        have hs₀ := recordAfter_accounted hpast s₀ hr
        have hnonneg := hs₀.queue_nonneg
        have hle := hs₀.queue_le
        simp only [time₀, queue₀, hr, Option.elim_some]
        exact ⟨by linarith, hnonneg⟩
  -- what is still to come of the gap is left over
  have hfold := UpdateCall.foldl_trackOne_induction hypot tid (c := c)
    (P := fun s => s.lastSeenTimestamp ≤ c.timestamp
      ∧ s.timeInLaneSec + (c.timestamp - s.lastSeenTimestamp) ≤ time₀ + gap
      ∧ s.queueTimeSec + (c.timestamp - s.lastSeenTimestamp) ≤ queue₀ + gap)
    (by
      intro d
      -- a new record
      refine ⟨le_refl _, ?_, ?_⟩
      · show (0 : Rat) + (c.timestamp - c.timestamp) ≤ time₀ + gap
        linarith
      · show (0 : Rat) + (c.timestamp - c.timestamp) ≤ queue₀ + gap
        linarith)
    (by
      rintro s d ⟨hle, htime, hqueue⟩
      -- the record is brought up to the time of the call, and the gap is used up
      have hseen : (s.again hypot d c.frameNumber c.timestamp).lastSeenTimestamp
          = c.timestamp := rfl
      refine ⟨le_refl _, ?_, ?_⟩
      · rw [hseen]
        by_cases hlane : s.lane = d.laneName
        · rw [(s.again_of_stay hypot d c.frameNumber c.timestamp hlane hle).1]
          linarith
        · rw [(s.again_of_switch hypot d c.frameNumber c.timestamp hlane).1]
          linarith
      · rw [hseen]
        by_cases hlane : s.lane = d.laneName
        · rw [(s.again_of_stay hypot d c.frameNumber c.timestamp hlane hle).2]
          split_ifs <;> linarith
        · rw [(s.again_of_switch hypot d c.frameNumber c.timestamp hlane).2.1]
          linarith)
    (fun s hs => hs) (r := r)
    (by
      -- before the call, the whole gap is to come
      intro s₀ hs₀
      have hgap₀ := hlast s₀ hs₀
      have hle := lastObserved_le htime (recordAfter_lives hpast hs₀).lastSeen
      have htime₀ : time₀ = s₀.timeInLaneSec := by simp [time₀, hs₀]
      have hqueue₀ : queue₀ = s₀.queueTimeSec := by simp [queue₀, hs₀]
      refine ⟨hle, ?_, ?_⟩
      · rw [htime₀]; linarith
      · rw [hqueue₀]; linarith)
    c.detections
  rw [recordAfter] at h
  unfold UpdateCall.track at h
  rw [if_pos hobs] at h
  obtain ⟨hle, htotal, hwait⟩ := hfold s h
  exact ⟨by linarith, by linarith⟩

/-- A call that misses a vehicle adds nothing. -/
theorem track_adds_nothing {past : List UpdateCall} {c : UpdateCall} {tid : Int}
    {s : VehicleRecord} (hobs : c.observes tid = false)
    (h : recordAfter hypot tid (c :: past) = some s) :
    s.timeInLaneSec = (recordAfter hypot tid past).elim 0 (·.timeInLaneSec)
      ∧ s.queueTimeSec = (recordAfter hypot tid past).elim 0 (·.queueTimeSec) := by
  rw [recordAfter] at h
  rcases UpdateCall.track_unobserved hypot hobs (recordAfter hypot tid past) with
    ⟨-, htrack⟩ | ⟨-, -, -, htrack⟩ | ⟨s₀, s', hsome, -, htrack, hsame⟩
  · rw [htrack] at h
    cases h
  · rw [htrack] at h
    cases h
  · rw [htrack] at h
    obtain rfl := Option.some.inj h
    rw [hsome]
    exact ⟨congrArg (·.timeInLaneSec) hsame, congrArg (·.queueTimeSec) hsame⟩

/-- **Back after an outage that was noticed, a vehicle is a new one.** -/
theorem restarted_of_noticed {before : List UpdateCall} {c : UpdateCall} {pre : List Detection}
    {d : Detection} {tid : Int} {t : Rat} (htime : Chronological (c :: before.reverse))
    (hpre : pre.any (·.shows tid) = false) (hd : d.shows tid = true)
    (ht : lastObserved before.reverse tid = some t)
    (hnoticed : ∃ c' ∈ before, Config.trackRemovalGraceSec < c'.timestamp - t) :
    ∃ s, (managerWithin hypot before c (pre ++ [d])).activeStates.get? tid = some s
      ∧ Restarted s := by
  have hpast := (List.pairwise_cons.mp htime).2
  have hnone : recordAfter hypot tid before.reverse = none := by
    cases hr : recordAfter hypot tid before.reverse with
    | none => rfl
    | some s =>
        obtain ⟨c', hc', hlate⟩ := hnoticed
        exact absurd hlate (not_noticed hpast hr ht (List.mem_reverse.mpr hc'))
  have hstill : pre.foldl (c.trackOne hypot tid) none = none :=
    Option.map_eq_none_iff.mp (UpdateCall.foldl_trackOne_forget hypot hpre none)
  refine ⟨VehicleRecord.create d tid c.frameNumber c.timestamp, ?_, rfl, rfl, rfl, rfl, rfl⟩
  rw [get?_managerWithin, hnone, List.foldl_append, hstill]
  exact UpdateCall.trackOne_shows hypot c tid hd none

/-- A call that observes a vehicle has a first detection that shows it. -/
theorem exists_first_shows {c : UpdateCall} {tid : Int} (hobs : c.observes tid = true) :
    ∃ pre d post, c.detections = pre ++ d :: post ∧ pre.any (·.shows tid) = false
      ∧ d.shows tid = true := by
  have hsome : (c.detections.find? (·.shows tid)).isSome = true := by
    rw [List.find?_isSome]
    simpa [UpdateCall.observes] using hobs
  obtain ⟨d, hfind⟩ := Option.isSome_iff_exists.mp hsome
  obtain ⟨hd, pre, post, hdets, hfirst⟩ := List.find?_eq_some_iff_append.mp hfind
  refine ⟨pre, d, post, hdets, ?_, hd⟩
  rw [List.any_eq_false]
  intro d' hd'
  simpa using hfirst d' hd'

/-- **A vehicle that is a new one when it is back has been missed**: an old record goes on
counting. -/
theorem noticed_of_restarted {before : List UpdateCall} {c : UpdateCall} {pre : List Detection}
    {d : Detection} {tid : Int} {t : Rat} {s : VehicleRecord}
    (htime : Chronological (c :: before.reverse)) (hpre : pre.any (·.shows tid) = false)
    (hd : d.shows tid = true) (ht : lastObserved before.reverse tid = some t)
    (hs : (managerWithin hypot before c (pre ++ [d])).activeStates.get? tid = some s)
    (hrestarted : Restarted s) :
    ∃ c' ∈ before, Config.trackRemovalGraceSec < c'.timestamp - t := by
  have hpast := (List.pairwise_cons.mp htime).2
  rw [get?_managerWithin, List.foldl_append] at hs
  have hforget := UpdateCall.foldl_trackOne_forget hypot (c := c) hpre
    (recordAfter hypot tid before.reverse)
  cases hr : recordAfter hypot tid before.reverse with
  | none =>
      have hagrees := recordAfter_agrees hypot tid hpast
      rw [hr] at hagrees
      obtain ⟨c', hc', hlate⟩ := hagrees t ht
      exact ⟨c', List.mem_reverse.mp hc', hlate⟩
  | some s₀ =>
      rw [hr] at hforget hs
      obtain ⟨s₁, hs₁, hsame⟩ := Option.map_eq_some_iff.mp hforget
      have hcoherent := recordAfter_coherent hpast s₀ hr
      have hseen : s₁.consecutiveSeenFrames = s₀.consecutiveSeenFrames :=
        congrArg (·.consecutiveSeenFrames) hsame
      have hagain : s.consecutiveSeenFrames = s₁.consecutiveSeenFrames + 1 := by
        have hone : some (c.sight hypot tid (some s₁) d) = some s := by
          rw [← hs, hs₁]
          exact (UpdateCall.trackOne_shows hypot c tid hd (some s₁)).symm
        rw [← Option.some.inj hone]
        rfl
      have hfirst := hrestarted.seen
      have hpos := hcoherent.seen
      omega

end

namespace Proof

/--
**An outage is not waiting time exactly if it is noticed.** In a run whose clock never
goes back, every vehicle that is back after more than the expiration timeout is
treated as a new one, and no update adds more than the timeout to a time, if and only
if during every such outage some call comes more than the grace period after the last
observation.
-/
theorem outage_is_no_waiting_iff (hypot : Int → Int → Rat) (calls : List UpdateCall)
    (htime : calls.Pairwise fun c c' => c.timestamp ≤ c'.timestamp) :
    OutageIsNoWaiting hypot calls ↔ OutagesNoticed calls := by
  have hchron : ∀ before c after, calls = before ++ c :: after →
      Chronological (c :: before.reverse) := by
    intro before c after hsplit
    have hrev := chronological_reverse htime
    rw [hsplit, List.reverse_append, List.reverse_cons, List.append_assoc] at hrev
    exact (List.pairwise_append.mp hrev).2.1
  have htimeout : (0 : Rat) ≤ Config.trackExpirationTimeoutSec := by
    unfold Config.trackExpirationTimeoutSec
    norm_num
  constructor
  · intro hno before c after hsplit tid t hobs ht hout
    obtain ⟨pre, d, post, hdets, hpre, hd⟩ := exists_first_shows hobs
    have hlast : lastSighting before.reverse c pre tid = some t := by
      unfold lastSighting
      rw [hpre]
      exact ht
    obtain ⟨s, hs, hrestarted⟩ :=
      hno.restarts before c after hsplit pre d post hdets tid t hd hlast hout
    exact noticed_of_restarted (hchron before c after hsplit) hpre hd ht hs hrestarted
  · intro hnoticed
    refine ⟨fun before c after hsplit pre d post hdets tid t hd ht hout => ?_,
      fun before c after hsplit tid s hs => ?_⟩
    · have hobs : c.observes tid = true := by
        refine List.any_eq_true.mpr ⟨d, ?_, hd⟩
        rw [hdets]
        simp
      unfold lastSighting at ht
      split_ifs at ht with hpre
      · -- seen earlier in the same call, it has not been away
        obtain rfl := Option.some.inj ht
        rw [sub_self] at hout
        exact absurd hout (not_lt.mpr htimeout)
      · exact restarted_of_noticed (hchron before c after hsplit) (Bool.not_eq_true _ ▸ hpre) hd ht
          (hnoticed before c after hsplit tid t hobs ht hout)
    · have hchain := hchron before c after hsplit
      have hpast := (List.pairwise_cons.mp hchain).2
      rw [get?_managerAfter, List.reverse_append] at hs
      change recordAfter hypot tid (c :: before.reverse) = some s at hs
      rw [get?_managerAfter]
      by_cases hobs : c.observes tid = true
      · refine track_adds hchain hobs hs htimeout fun s₀ hs₀ => ?_
        -- an observation adds at most what the outage was noticed for
        by_contra hlong
        have hlast := (recordAfter_lives hpast hs₀).lastSeen
        obtain ⟨c', hc', hlate⟩ :=
          hnoticed before c after hsplit tid s₀.lastSeenTimestamp hobs hlast (not_le.mp hlong)
        exact not_noticed hpast hs₀ hlast (List.mem_reverse.mpr hc') hlate
      · rw [Bool.not_eq_true] at hobs
        -- without an observation nothing is added
        obtain ⟨htotal, hwait⟩ := track_adds_nothing hobs hs
        rw [htotal, hwait]
        exact ⟨by linarith, by linarith⟩

/-- A car is back after ten seconds without a call: it keeps its record, and the ten seconds count
as time in its lane. -/
theorem quiet_outage_is_waiting :
    ¬OutageIsNoWaiting (fun _ _ => 0)
      [⟨[{ className := "car", bbox := (0, 0, 10, 10), trackId := some 1, lane := some "North" }],
        1, 0⟩,
       ⟨[{ className := "car", bbox := (0, 0, 10, 10), trackId := some 1, lane := some "North" }],
        2, 10⟩] := by
  intro hno
  have htime : ((managerAfter (fun _ _ => 0)
      [⟨[{ className := "car", bbox := (0, 0, 10, 10), trackId := some 1, lane := some "North" }],
        1, 0⟩,
       ⟨[{ className := "car", bbox := (0, 0, 10, 10), trackId := some 1, lane := some "North" }],
        2, 10⟩]).activeStates.get? 1).map (·.timeInLaneSec) = some 10 := by decide +kernel
  obtain ⟨s, hs, hten⟩ := Option.map_eq_some_iff.mp htime
  have hadds := (hno.adds [_] _ [] rfl 1 s hs).1
  rw [hten] at hadds
  exact absurd hadds (by decide +kernel)

/-- With a call in between, the outage is noticed, and the car is a new one. -/
theorem outage_is_no_waiting_iff_car :
    OutagesNoticed
        [⟨[{ className := "car", bbox := (0, 0, 10, 10), trackId := some 1 }], 1, 0⟩, ⟨[], 2, 5⟩,
         ⟨[{ className := "car", bbox := (0, 0, 10, 10), trackId := some 1 }], 3, 10⟩]
      ∧ OutageIsNoWaiting (fun _ _ => 0)
        [⟨[{ className := "car", bbox := (0, 0, 10, 10), trackId := some 1 }], 1, 0⟩, ⟨[], 2, 5⟩,
         ⟨[{ className := "car", bbox := (0, 0, 10, 10), trackId := some 1 }], 3, 10⟩] := by
  have hnoticed : OutagesNoticed
      [⟨[{ className := "car", bbox := (0, 0, 10, 10), trackId := some 1 }], 1, 0⟩, ⟨[], 2, 5⟩,
       ⟨[{ className := "car", bbox := (0, 0, 10, 10), trackId := some 1 }], 3, 10⟩] := by
    intro before c after hsplit tid t hobs hlast hout
    rcases before with _ | ⟨c₁, _ | ⟨c₂, _ | ⟨c₃, before⟩⟩⟩
    · cases hlast
    · -- nothing is observed in the second call
      obtain ⟨-, rfl, -⟩ := by simpa using hsplit
      cases hobs
    · -- the second call comes five seconds after the only observation there is
      obtain ⟨rfl, rfl, rfl, -⟩ := by simpa using hsplit
      obtain ⟨c', hfind, rfl⟩ := Option.map_eq_some_iff.mp hlast
      have hseen := List.find?_some hfind
      rcases List.mem_cons.mp (List.mem_of_find?_eq_some hfind) with rfl | hfirst
      · cases hseen
      · obtain rfl := List.mem_singleton.mp hfirst
        exact ⟨_, List.mem_cons_of_mem _ List.mem_cons_self, by decide +kernel⟩
    · simp at hsplit
  exact ⟨hnoticed, (outage_is_no_waiting_iff _ _ (by decide +kernel)).mpr hnoticed⟩

end Proof

end SmartTraffic
