import SmartTraffic.Signal.Scheduler

/-!
# Whose turn it is

Sequences of `select_eligible` calls, each with its own scores, statistics and
fresh set, on one scheduler.

Without an eligible priority vehicle a call is a serve turn of the rotor, so the
winners depend on eligibility alone and a waiting approach is served within its
clockwise gap, which is at most three. An emergency is an interrupt: it moves
the cursor behind the approach it serves, and when that approach lies between a
waiting lane and the lane served before it, the waiting lane loses its turn.
-/

namespace SmartTraffic.Proof

open SmartTraffic Lib

/-- The arguments of one `select_eligible` call. -/
structure SelectCall where
  result : PriorityResult
  laneStats : List (LaneName × LaneStatistics)
  fresh : List LaneName

namespace SelectCall

/-- A lane is eligible: it is scored, fresh, and its `raw_count` is positive. -/
def eligible (c : SelectCall) (lane : LaneName) : Bool :=
  isEligible c.result c.laneStats c.fresh lane

/-- The emergency lane the call serves, if an eligible lane carries a priority vehicle. -/
def emergency (c : SelectCall) : Option LaneName :=
  (emergencyWinner c.result c.laneStats c.fresh).map (·.lane)

/-- No eligible lane carries a priority vehicle. -/
def NoEmergency (c : SelectCall) : Prop :=
  ∀ sc ∈ demandOf c.result c.laneStats c.fresh,
    (statsOf c.laneStats sc.lane).any (·.hasPriorityVehicle) = false

/-- The same call with other score values: the same lanes are scored, in the same order. -/
def Rescored (c c' : SelectCall) : Prop :=
  c'.result.scores.map (·.lane) = c.result.scores.map (·.lane)
    ∧ c'.laneStats = c.laneStats ∧ c'.fresh = c.fresh

/-- The turn of the rotor the call takes. -/
def turn (c : SelectCall) : Turn 4 := turnOf c.result c.laneStats c.fresh

end SelectCall

/-- The scheduler after a sequence of calls. -/
def afterCalls (s : SignalScheduler) (calls : List SelectCall) : SignalScheduler :=
  calls.foldl (fun s c => (s.selectEligible c.result c.laneStats c.fresh).2) s

/-- The lane each call selects. -/
def selections (s : SignalScheduler) : List SelectCall → List (Option LaneName)
  | [] => []
  | c :: cs =>
      s.selectedLane c.result c.laneStats c.fresh
        :: selections (s.selectEligible c.result c.laneStats c.fresh).2 cs

theorem selections_append (s : SignalScheduler) (xs ys : List SelectCall) :
    selections s (xs ++ ys) = selections s xs ++ selections (afterCalls s xs) ys := by
  induction xs generalizing s with
  | nil => rfl
  | cons c cs ih => rw [List.cons_append, selections, selections, ih]; rfl

theorem selections_singleton (s : SignalScheduler) (c : SelectCall) :
    selections s [c] = [s.selectedLane c.result c.laneStats c.fresh] := rfl

/-! ## The rotor behind the calls -/

/-- **A sequence of calls runs the rotor.** -/
theorem selections_winners (s : SignalScheduler) (calls : List SelectCall) :
    (selections s calls).map (Option.map cycleIndex)
      = winners s.nextCycleIndex (calls.map SelectCall.turn) := by
  induction calls generalizing s with
  | nil => rfl
  | cons c cs ih =>
      obtain ⟨hlane, hcur⟩ := selectEligible_turn s c.result c.laneStats c.fresh
      simp only [selections, List.map_cons, winners]
      rw [hlane, ih, hcur]
      rfl

theorem map_cycleIndex_inj {a b : Option LaneName}
    (h : a.map cycleIndex = b.map cycleIndex) : a = b :=
  Option.map_injective (fun _ _ => cycleIndex_inj) h

theorem mem_selections_iff {s : SignalScheduler} {calls : List SelectCall} {lane : LaneName} :
    some lane ∈ selections s calls
      ↔ some (cycleIndex lane) ∈ winners s.nextCycleIndex (calls.map SelectCall.turn) := by
  rw [← selections_winners, List.mem_map]
  constructor
  · intro h; exact ⟨some lane, h, rfl⟩
  · rintro ⟨o, ho, heq⟩
    rw [← map_cycleIndex_inj (b := some lane) heq]; exact ho

theorem emergency_none_iff (c : SelectCall) : c.emergency = none ↔ c.NoEmergency := by
  unfold SelectCall.emergency SelectCall.NoEmergency emergencyWinner
  rw [Option.map_eq_none_iff, List.argmax_eq_none, List.filter_eq_nil_iff]
  simp only [Bool.not_eq_true]

theorem turn_of_noEmergency {c : SelectCall} (h : c.NoEmergency) :
    c.turn = .serve fun i => c.eligible (cycleOrder i) := by
  have hnone := (emergency_none_iff c).mpr h
  unfold SelectCall.emergency at hnone
  rw [Option.map_eq_none_iff] at hnone
  unfold SelectCall.turn turnOf SelectCall.eligible
  rw [hnone]

theorem turn_of_emergency {c : SelectCall} {lane : LaneName} (h : c.emergency = some lane) :
    c.turn = .interrupt (cycleIndex lane) := by
  unfold SelectCall.emergency at h
  obtain ⟨w, hw, hl⟩ := Option.map_eq_some_iff.mp h
  unfold SelectCall.turn turnOf
  rw [hw, ← hl]

/-! ## Demand never decides the turn order -/

/-- Eligibility reads the lanes of the scores, not their values. -/
theorem eligible_rescored {c c' : SelectCall} (h : c.Rescored c') (lane : LaneName) :
    c'.eligible lane = c.eligible lane := by
  obtain ⟨hl, hst, hfr⟩ := h
  have key : ∀ d : SelectCall, d.eligible lane
      = ((d.result.scores.map (·.lane)).any fun l =>
          d.fresh.contains l && ((statsOf d.laneStats l).any fun st => 0 < st.rawCount)
            && decide (l = lane)) := by
    intro d
    unfold SelectCall.eligible isEligible demandOf isDemand
    rw [List.any_filter, List.any_map]
    rfl
  rw [key, key, hl, hst, hfr]

theorem noEmergency_rescored {c c' : SelectCall} (h : c.Rescored c') (hc : c.NoEmergency) :
    c'.NoEmergency := by
  intro sc hsc
  -- the lane of this score is scored in `c` as well, by a score of its own
  have hel : c'.eligible sc.lane = true := by
    unfold SelectCall.eligible isEligible
    exact List.any_eq_true.mpr ⟨sc, hsc, by simp⟩
  rw [eligible_rescored h] at hel
  unfold SelectCall.eligible isEligible at hel
  obtain ⟨sc₀, hsc₀, hl⟩ := List.any_eq_true.mp hel
  rw [h.2.1, ← of_decide_eq_true hl]
  exact hc sc₀ hsc₀

/-- Two emergency-free sequences with the same eligible lanes at each call run the same turns. -/
theorem turns_eq_of_eligible {calls calls' : List SelectCall}
    (h : List.Forall₂ (fun c c' => c.NoEmergency ∧ c'.NoEmergency
      ∧ ∀ lane, c'.eligible lane = c.eligible lane) calls calls') :
    calls'.map SelectCall.turn = calls.map SelectCall.turn := by
  induction h with
  | nil => rfl
  | cons hc _ ih =>
      obtain ⟨h1, h2, h3⟩ := hc
      rw [List.map_cons, List.map_cons, ih, turn_of_noEmergency h1, turn_of_noEmergency h2]
      congr 2
      funext i
      exact h3 (cycleOrder i)

theorem selections_eq_of_turns {s : SignalScheduler} {calls calls' : List SelectCall}
    (h : calls'.map SelectCall.turn = calls.map SelectCall.turn) :
    selections s calls' = selections s calls := by
  have hmap : (selections s calls').map (Option.map cycleIndex)
      = (selections s calls).map (Option.map cycleIndex) := by
    rw [selections_winners, selections_winners, h]
  exact List.map_injective_iff.mpr (fun _ _ => map_cycleIndex_inj) hmap

/-- A lane eligible at four calls of a stretch in which no other call finds anyone is served. -/
theorem served_within_four {s : SignalScheduler} {calls : List SelectCall} {lane : LaneName}
    (hnorm : ∀ c ∈ calls, c.NoEmergency)
    (hwait : ∀ c ∈ calls, c.eligible lane = true ∨ ∀ l, c.eligible l = false)
    (hfour : 4 ≤ (calls.filter (·.eligible lane)).length) :
    some lane ∈ selections s calls := by
  rw [mem_selections_iff]
  have hturns : calls.map SelectCall.turn
      = (calls.map fun c i => c.eligible (cycleOrder i)).map Turn.serve := by
    rw [List.map_map]
    exact List.map_congr_left fun c hc => turn_of_noEmergency (hnorm c hc)
  rw [hturns]
  refine served_of_waiting _ _ ?_ ?_
  · intro p hp
    obtain ⟨c, hc, rfl⟩ := List.mem_map.mp hp
    dsimp only
    rw [cycleOrder_cycleIndex]
    rcases hwait c hc with h | h
    · exact Or.inl h
    · exact Or.inr fun i => h (cycleOrder i)
  · have hlt := gap_lt s.nextCycleIndex (cycleIndex lane)
    rw [List.filter_map, List.length_map]
    simp only [Function.comp_def, cycleOrder_cycleIndex]
    omega

/--
**Demand never decides the turn order.**

For every sequence of calls without an eligible priority vehicle, from any
scheduler state: replacing the score values leaves every selection unchanged, as
does any change that keeps the eligible lanes of each call; and in any stretch
of the sequence, a lane eligible at four calls, all others of the stretch finding
nobody eligible, is selected at one of them.
-/
theorem turn_order_ignores_demand (s : SignalScheduler) (calls : List SelectCall)
    (hnorm : ∀ c ∈ calls, c.NoEmergency) :
    (∀ calls', List.Forall₂ SelectCall.Rescored calls calls' →
        selections s calls' = selections s calls)
      ∧ (∀ calls', List.Forall₂ (fun c c' => c'.NoEmergency
            ∧ ∀ lane, c'.eligible lane = c.eligible lane) calls calls' →
          selections s calls' = selections s calls)
      ∧ (∀ before stretch rest lane, calls = before ++ stretch ++ rest →
          (∀ c ∈ stretch, c.eligible lane = true ∨ ∀ l, c.eligible l = false) →
          4 ≤ (stretch.filter (·.eligible lane)).length →
          some lane ∈ selections (afterCalls s before) stretch) := by
  refine ⟨?_, ?_, ?_⟩
  · intro calls' h
    refine selections_eq_of_turns (turns_eq_of_eligible ?_)
    rw [List.forall₂_iff_get] at h ⊢
    obtain ⟨hlen, hr⟩ := h
    refine ⟨hlen, fun i h1 h2 => ?_⟩
    have hno := hnorm _ (List.get_mem calls ⟨i, h1⟩)
    exact ⟨hno, noEmergency_rescored (hr i h1 h2) hno, eligible_rescored (hr i h1 h2)⟩
  · intro calls' h
    refine selections_eq_of_turns (turns_eq_of_eligible ?_)
    rw [List.forall₂_iff_get] at h ⊢
    obtain ⟨hlen, hr⟩ := h
    exact ⟨hlen, fun i h1 h2 => ⟨hnorm _ (List.get_mem calls ⟨i, h1⟩), hr i h1 h2⟩⟩
  · intro before stretch rest lane hsplit hwait hfour
    refine served_within_four (fun c hc => hnorm c ?_) hwait hfour
    rw [hsplit]
    exact List.mem_append_left _ (List.mem_append_right _ hc)

/-- One approach with one vehicle, scored at `score`. -/
def sampleScore (lane : LaneName) (score : Rat) : PriorityScore :=
  { lane := lane, score := score, rank := 0,
    breakdown := { pce := 0, queue := 0, congestion := 0 } }

/-- Fresh approaches, one vehicle each, `flagged` ones with a priority vehicle. -/
def sampleStats (lanes flagged : List LaneName) : List (LaneName × LaneStatistics) :=
  lanes.map fun l => (l, { laneName := l.key, rawCount := 1, hasPriorityVehicle := l ∈ flagged })

/-- A call in which exactly `lanes` are eligible, `flagged` ones with a priority vehicle. -/
def sampleCall (lanes flagged : List LaneName) : SelectCall where
  result :=
    { scores := lanes.map fun l => sampleScore l (if l ∈ flagged then 1000 else 1)
      highestPriority := none
      timestamp := 1 }
  laneStats := sampleStats lanes flagged
  fresh := lanes

instance (c : SelectCall) : Decidable c.NoEmergency :=
  inferInstanceAs (Decidable (∀ _ ∈ _, _))

theorem turn_order_ignores_demand_north_east :
    selections {} ((List.replicate 4 (sampleCall [.north, .east] [])).map fun c =>
        { c with result :=
          { c.result with scores := [sampleScore .north 3, sampleScore .east 9] } })
      = selections {} (List.replicate 4 (sampleCall [.north, .east] []))
      ∧ some LaneName.east ∈ selections {} (List.replicate 4 (sampleCall [.north, .east] [])) := by
  have hno : ∀ c ∈ List.replicate 4 (sampleCall [.north, .east] []), c.NoEmergency := by
    decide +kernel
  obtain ⟨h1, -, h3⟩ := turn_order_ignores_demand {} _ hno
  refine ⟨h1 _ ?_, h3 [] _ [] .east (List.append_nil _).symm ?_ (by decide +kernel)⟩
  · exact List.forall₂_map_right_iff.mpr (List.forall₂_same.mpr fun c hc => by
      rw [List.eq_of_mem_replicate hc]; exact ⟨rfl, rfl, rfl⟩)
  · intro c hc
    left
    rw [List.eq_of_mem_replicate hc]; decide +kernel

/-! ## Emergencies and the waiting lane -/

/--
A stretch of calls between two normal turns of `m` during which `l` waits: `first`
selects `m` in its normal turn, `l` is eligible at every later call up to and
including `last`, and `last` is the next normal selection of `m`.
-/
structure WaitWindow (s : SignalScheduler) (first : SelectCall) (mid : List SelectCall)
    (last : SelectCall) (l m : LaneName) : Prop where
  /-- The waiting lane is not the one served. -/
  ne : l ≠ m
  /-- The window opens with a normal selection of `m`. -/
  first_normal : first.NoEmergency
  first_selects : s.selectedLane first.result first.laneStats first.fresh = some m
  /-- `l` is eligible throughout. -/
  waits : ∀ c ∈ mid, c.eligible l = true
  waits_last : last.eligible l = true
  /-- The window closes with a normal selection of `m`. -/
  last_normal : last.NoEmergency
  last_selects : (selections (afterCalls s [first]) (mid ++ [last])).getLast? = some (some m)

/-- Clockwise from `l`, the lane `x` comes strictly before `m`. -/
def Between (l x m : LaneName) : Prop :=
  x ≠ l ∧ gap (cycleIndex l) (cycleIndex x) < gap (cycleIndex l) (cycleIndex m)

instance (l x m : LaneName) : Decidable (Between l x m) := inferInstanceAs (Decidable (_ ∧ _))

/-- An emergency that does not fall between the two lanes leaves `l` ahead of `m`. -/
theorem before_of_not_between {l x m : LaneName} (hne : l ≠ m) (h : ¬Between l x m) :
    x = l ∨ Before (cycleIndex x + 1) (cycleIndex l) (cycleIndex m) := by
  revert h
  cases l <;> cases x <;> cases m <;> first | exact absurd rfl hne | decide

theorem harmless_of_call {c : SelectCall} {l m : LaneName} (hne : l ≠ m)
    (hel : c.eligible l = true) (hem : ∀ x, c.emergency = some x → ¬Between l x m) :
    c.turn.Harmless (cycleIndex l) (cycleIndex m) := by
  cases he : c.emergency with
  | none =>
      rw [turn_of_noEmergency ((emergency_none_iff c).mp he)]
      simpa only [Turn.Harmless, cycleOrder_cycleIndex] using hel
  | some x =>
      rw [turn_of_emergency he]
      rcases before_of_not_between hne (hem x he) with rfl | hb
      · exact Or.inl rfl
      · exact Or.inr hb

/-- The cursor after a normal selection of `m` stands right behind it. -/
theorem cursor_after_selection {s : SignalScheduler} {c : SelectCall} {m : LaneName}
    (h : s.selectedLane c.result c.laneStats c.fresh = some m) :
    (afterCalls s [c]).nextCycleIndex = cycleIndex m + 1 := by
  obtain ⟨hlane, hcur⟩ := selectEligible_turn s c.result c.laneStats c.fresh
  rw [h] at hlane
  simp only [afterCalls, List.foldl_cons, List.foldl_nil]
  rw [hcur, ← hlane]
  rfl

/--
**A waiting lane keeps its turn when no emergency falls between it and the lane served.**

In every window, if no call serves an emergency on a lane strictly between the
waiting lane `l` and `m` in clockwise order, `l` is selected before `m` gets its
next normal turn.
-/
theorem waiting_lane_served (s : SignalScheduler) (first last : SelectCall)
    (mid : List SelectCall) (l m : LaneName) (hw : WaitWindow s first mid last l m)
    (hem : ∀ c ∈ mid, ∀ x, c.emergency = some x → ¬Between l x m) :
    some l ∈ selections (afterCalls s [first]) mid := by
  have hlast : some (cycleIndex l)
      ∈ winners (cycleIndex m + 1) (mid.map SelectCall.turn ++ [last.turn]) := by
    rw [turn_of_noEmergency hw.last_normal]
    refine served_before (l := cycleIndex l) (m := cycleIndex m) ?_ _ _ ?_ ?_ ?_
    · rw [cycleOrder_cycleIndex]; exact hw.waits_last
    · exact before_of_served fun h => hw.ne (cycleIndex_inj h)
    · intro t ht
      obtain ⟨c, hc, rfl⟩ := List.mem_map.mp ht
      exact harmless_of_call hw.ne (hw.waits c hc) (hem c hc)
    · have := hw.last_selects
      have hsel := selections_winners (afterCalls s [first]) (mid ++ [last])
      rw [cursor_after_selection hw.first_selects, List.map_append, List.map_singleton,
        turn_of_noEmergency hw.last_normal] at hsel
      rw [← hsel, List.getLast?_map, this]
      rfl
  have hall : some l ∈ selections (afterCalls s [first]) (mid ++ [last]) := by
    rw [mem_selections_iff, cursor_after_selection hw.first_selects, List.map_append,
      List.map_singleton]
    exact hlast
  -- the closing call selects `m`, so the selection of `l` is an earlier one
  rw [selections_append, List.mem_append] at hall
  rcases hall with h | h
  · exact h
  · exfalso
    have hl := hw.last_selects
    rw [selections_append, selections_singleton] at hl
    rw [selections_singleton] at h
    rw [List.getLast?_append, List.getLast?_singleton, Option.some_or, Option.some_inj] at hl
    rw [List.mem_singleton, hl] at h
    exact hw.ne (Option.some.inj h)

/-! ## Emergencies that do cost a turn -/

/-- An emergency on `x` while `l` and `x` are eligible, between two turns in which `m` is served. -/
def costlyMid (l x : LaneName) : List SelectCall := [sampleCall [l, x] [x]]

theorem costly_window : ∀ l x m : LaneName, Between l x m →
    (sampleCall [m] []).NoEmergency
      ∧ (sampleCall [l, m] []).NoEmergency
      ∧ (sampleCall [l, m] []).eligible l = true
      ∧ (∀ c ∈ costlyMid l x, c.eligible l = true ∧ c.emergency = some x)
      ∧ selections {} [sampleCall [m] []] = [some m]
      ∧ selections (afterCalls {} [sampleCall [m] []]) (costlyMid l x ++ [sampleCall [l, m] []])
        = [some x, some m] := by
  intro l x m h
  cases l <;> cases x <;> cases m <;> first | exact absurd h (by decide) | decide +kernel

/-- The window around `costlyMid` is one, and it never serves `l`. -/
theorem costly_unserved {l x m : LaneName} (h : Between l x m) :
    WaitWindow {} (sampleCall [m] []) (costlyMid l x) (sampleCall [l, m] []) l m
      ∧ some l ∉ selections (afterCalls {} [sampleCall [m] []]) (costlyMid l x) := by
  obtain ⟨hf, hn, hel, hmid, hsf, hsel⟩ := costly_window l x m h
  have hlm : l ≠ m := by rintro rfl; exact absurd h.2 (by unfold gap; simp)
  rw [selections_singleton, List.singleton_inj] at hsf
  refine ⟨⟨hlm, hf, hsf, fun c hc => (hmid c hc).1, hel, hn, ?_⟩, ?_⟩
  · rw [hsel]; rfl
  · intro hmem
    have hall := List.mem_append_left (selections (afterCalls (afterCalls {} [sampleCall [m] []])
      (costlyMid l x)) [sampleCall [l, m] []]) hmem
    rw [← selections_append, hsel] at hall
    rcases List.mem_cons.mp hall with he | he
    · exact h.1 (Option.some.inj he).symm
    · exact hlm (Option.some.inj (List.mem_singleton.mp he))

/--
**When emergencies do not cost a waiting lane its turn.**

Let emergencies be confined to the lanes of `X`. Then `l` is served in every
window between two normal turns of `m` if and only if no lane of `X` lies
strictly between `l` and `m` in clockwise order.
-/
theorem emergencies_keep_turn_iff (l m : LaneName) (X : LaneName → Prop) :
    (∀ s first mid last, WaitWindow s first mid last l m →
        (∀ c ∈ mid, ∀ x, c.emergency = some x → X x) →
        some l ∈ selections (afterCalls s [first]) mid)
      ↔ ∀ x, X x → ¬Between l x m := by
  constructor
  · intro h x hx hb
    obtain ⟨hw, hno⟩ := costly_unserved hb
    refine hno (h _ _ _ _ hw fun c hc y hy => ?_)
    rw [((costly_window l x m hb).2.2.2.1 c hc).2, Option.some.injEq] at hy
    exact hy ▸ hx
  · intro h s first mid last hw hem
    exact waiting_lane_served s first last mid l m hw fun c hc x hx => h x (hem c hc x hx)

/-- North is served, south's emergency is served, and north is served again: east waited in vain. -/
theorem emergency_costs_turn : ¬∀ s first mid last l m, WaitWindow s first mid last l m →
    some l ∈ selections (afterCalls s [first]) mid := by
  intro h
  obtain ⟨hw, hno⟩ := costly_unserved (l := .east) (x := .south) (m := .north) (by decide)
  exact hno (h _ _ _ _ _ _ hw)

end SmartTraffic.Proof
