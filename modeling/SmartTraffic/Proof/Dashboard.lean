import SmartTraffic.Dashboard.ViewModel
import SmartTraffic.Signal.Keys
import SmartTraffic.Proof.Telemetry

/-!
# The lamps of the dashboard

A lamp is green when the payload names its approach and the state is not YELLOW. The
server also names an approach while all is red: during the all-red clearance, and, when
no phase is active, the approach of the frame that a snapshot was built from. So, while
the phase on display stands, the lamps are right exactly for the payloads that do not
name an approach in ALL_RED, or that the dashboard does not trust.
-/

namespace SmartTraffic.Proof

open SmartTraffic Lib

/-- The approach is the one of the active decision, and the last thing reported is its green. -/
def IsActiveGreen (s : Publisher) (lane : LaneName) : Prop :=
  ∃ d r, s.runtime.world.pipeline.activeDecision = some d ∧ d.greenLane = lane
    ∧ s.newest = some r ∧ r.signalState = .green

/-- The dashboard shows green only for green. -/
structure GreenOnlyForGreen (s : Publisher) (payload : TelemetryPayload)
    (view : DashboardViewModel) : Prop where
  lamp : ∀ lane, (view.lanes lane).isGreen = true →
    payload.signal.signalState = .green ∧ IsActiveGreen s lane
  single : ∀ lane lane', (view.lanes lane).isGreen = true → (view.lanes lane').isGreen = true →
    lane = lane'
  label : ∀ lane, (view.lanes lane).statusLabel = "CURRENT GREEN" →
    payload.signal.signalState = .green ∧ IsActiveGreen s lane

/--
A trusted green is still on: since the step it comes from no step has moved the phase
on, and no STOP or RESTART has cleared it.
-/
def GreenStands (s : Publisher) (payload : TelemetryPayload) (t : TelemetryState) : Prop :=
  payload.signal.signalState = .green → t.pipelineHealthy = true →
    StillOn s s.shownStep .green ∧ s.resetSince = false

/-- A payload in ALL_RED names no approach, or the dashboard takes the pipeline for unhealthy. -/
def NamesNobodyInRed (payload : TelemetryPayload) (t : TelemetryState) : Prop :=
  payload.signal.signalState = .allRed → t.pipelineHealthy = true →
    ∀ lane : LaneName, payload.signal.activePhase.toLower ≠ lane.key

theorem key_ne_none (lane : LaneName) : "none".toLower ≠ lane.key := by
  cases lane <;> decide +kernel

theorem empty_toLower (lane : LaneName) : "".toLower ≠ lane.key := by
  cases lane <;> decide +kernel

/-- **When a lamp is green.** -/
theorem isGreen_iff {t : TelemetryState} {payload : TelemetryPayload}
    (ht : t.telemetry = some payload) {lane : LaneName} : t.isGreen lane = true
      ↔ t.pipelineHealthy = true ∧ payload.signal.activePhase.toLower = lane.key
        ∧ payload.signal.signalState ≠ .yellow := by
  unfold TelemetryState.isGreen TelemetryState.activePhaseName orText
  rw [ht, Option.map_some, Option.map_some, Bool.and_eq_true, Bool.and_eq_true, decide_eq_true_eq,
    decide_eq_true_eq, and_assoc]
  dsimp only
  by_cases hempty : payload.signal.activePhase = ""
  · rw [if_pos hempty, hempty]
    constructor
    · rintro ⟨-, hname, -⟩
      exact absurd hname (key_ne_none lane)
    · rintro ⟨-, hname, -⟩
      exact absurd hname (empty_toLower lane)
  · rw [if_neg hempty]
    simp only [ne_eq, Option.some.injEq]

/-- CURRENT GREEN is the label of a green lamp. -/
theorem isGreen_of_label {t : TelemetryState} {nodes : List MobileNode} {lane : LaneName}
    (h : (t.laneViewModel nodes lane).statusLabel = "CURRENT GREEN") : t.isGreen lane = true := by
  unfold TelemetryState.laneViewModel at h
  dsimp only at h
  split_ifs at h with h1 h2 h3
  · exact absurd h (by decide)
  · exact h3
  · exact absurd h (by decide)
  · exact absurd h (by decide)

/-- **A payload that names an approach in green** names the active one, if the green stands. -/
theorem runtimeSnapshot_active {s : Publisher} (h : Board s) (hlog : Logged s) {py : Python}
    {r : Reading} {lane : LaneName}
    (hname : (s.runtimeSnapshot py r).activePhase.toLower = lane.key)
    (hgreen : (s.runtimeSnapshot py r).signalState = .green)
    (hstands : StillOn s s.shownStep .green ∧ s.resetSince = false) : IsActiveGreen s lane := by
  have hnot : ∀ reason, (Publisher.noSignal reason).signalState ≠ .green := by
    intro reason hred; cases hred
  unfold Publisher.runtimeSnapshot at hname hgreen
  split_ifs at hname hgreen
  · exact absurd hgreen (hnot _)
  · exact absurd hgreen (hnot _)
  · exact absurd hgreen (hnot _)
  · cases hf : s.latestSnapshot with
    | none => rw [hf] at hgreen; exact absurd hgreen (hnot _)
    | some f =>
        rw [hf, Option.getD_some] at hname hgreen
        cases hshown : s.shown with
        | none =>
            rw [(h.blank hshown f hf).2] at hgreen
            cases hgreen
        | some shown =>
            obtain ⟨f', hf', hdisplays⟩ := h.shown shown hshown
            obtain rfl := Option.some.inj (hf.symm.trans hf')
            -- what is lit is the approach of the decision
            have hstate : shown.signalState = .green := hdisplays.state.symm.trans hgreen
            obtain ⟨d, hd, hphase⟩ := hdisplays.lit (by rw [hstate]; decide)
            rw [hphase] at hname
            have hlight : light shown = some (lane, .green) :=
              light_eq_some.mpr ⟨hstate, by decide, d, hd, toLower_value.mp hname⟩
            -- and it is the light of the most recent result, which left the active decision
            have hnewest := (stillHolds_of_stillOn hlog (.shown hshown)
              (hstate ▸ hstands.1)).agrees _ hlight
            obtain ⟨r', hr', hlight'⟩ := Option.bind_eq_some_iff.mp hnewest
            obtain ⟨hstate', -, d', hd', hlane⟩ := light_eq_some.mp hlight'
            cases hlast : s.steps.getLast? with
            | none =>
                nomatch hr'.symm.trans (hlog.started (List.getLast?_eq_none_iff.mp hlast))
            | some last =>
                obtain ⟨r'', hr'', hyields⟩ := hlog.newest last hlast
                obtain rfl := Option.some.inj (hr'.symm.trans hr'')
                have hactive := hlog.active last hlast
                rw [hstands.2, if_neg Bool.false_ne_true, ← yields_signalDecision hyields,
                  hd'] at hactive
                exact ⟨d', r', hactive, hlane, hr', hstate'⟩

/-- **The lamps are right exactly for such a payload.** -/
theorem greenOnlyForGreen_iff {s : Publisher} (h : Board s) (hlog : Logged s) (py : Python)
    (r : Reading) {t : TelemetryState} (ht : t.telemetry = some (s.telemetryPayload py r))
    (hstands : GreenStands s (s.telemetryPayload py r) t) (nodes : List MobileNode) :
    GreenOnlyForGreen s (s.telemetryPayload py r) (t.dashboardViewModel nodes)
      ↔ NamesNobodyInRed (s.telemetryPayload py r) t := by
  constructor
  · intro hlamps hred hhealthy lane hname
    have hgreen : t.isGreen lane = true :=
      (isGreen_iff ht).mpr ⟨hhealthy, hname, by rw [hred]; decide⟩
    have hstate := (hlamps.lamp lane hgreen).1
    rw [hred] at hstate
    cases hstate
  · intro hcond
    have hlamp : ∀ lane, t.isGreen lane = true →
        (s.telemetryPayload py r).signal.signalState = .green ∧ IsActiveGreen s lane := by
      intro lane hgreen
      obtain ⟨hhealthy, hname, hyellow⟩ := (isGreen_iff ht).mp hgreen
      have hstate : (s.telemetryPayload py r).signal.signalState = .green := by
        cases hs : (s.telemetryPayload py r).signal.signalState with
        | green => rfl
        | yellow => exact absurd hs hyellow
        | allRed => exact absurd hname (hcond hs hhealthy lane)
      exact ⟨hstate, runtimeSnapshot_active h hlog hname hstate (hstands hstate hhealthy)⟩
    refine ⟨hlamp, fun lane lane' h1 h2 => ?_, fun lane hlabel => ?_⟩
    · obtain ⟨-, hname, -⟩ := (isGreen_iff ht).mp h1
      obtain ⟨-, hname', -⟩ := (isGreen_iff ht).mp h2
      exact key_injective (hname.symm.trans hname')
    · exact hlamp lane (isGreen_of_label hlabel)

/--
**The dashboard shows green only for green exactly if no trusted payload names an
approach in ALL_RED**, as long as the green on display stands.

For every run of the publisher, whatever the worker, the ticker, the coordinator and
the operator do, every payload that `runtime_snapshot` builds after it, and every
connection, clock and list of nodes of the dashboard.
-/
theorem dashboard_green_iff (py : Python) {s : Publisher} (hs : AtStart s) (run : List Turn)
    (r : Reading) (t : TelemetryState)
    (ht : t.telemetry = some ((final (Publisher.step py) s run).telemetryPayload py r))
    (hstands : GreenStands (final (Publisher.step py) s run)
      ((final (Publisher.step py) s run).telemetryPayload py r) t) (nodes : List MobileNode) :
    GreenOnlyForGreen (final (Publisher.step py) s run)
        ((final (Publisher.step py) s run).telemetryPayload py r) (t.dashboardViewModel nodes)
      ↔ NamesNobodyInRed ((final (Publisher.step py) s run).telemetryPayload py r) t :=
  greenOnlyForGreen_iff (final_invariant_of_step (board_step py) hs.board run)
    (final_invariant_of_step (fun s t (h : Logged s) => logged_turn h py t) hs.logged run) py r ht
    hstands nodes

/-- A dashboard that has just received the payload. -/
def received (payload : TelemetryPayload) : TelemetryState where
  telemetry := some payload
  isConnected := true
  lastUpdated := some 0

/-- The north has been given its green. -/
theorem dashboard_green_iff_north :
    GreenOnlyForGreen
      (final (Publisher.step plainPython) {} (frameRun ++ [.commit (readingAt 100 "") true]))
      ((final (Publisher.step plainPython) {}
        (frameRun ++ [.commit (readingAt 100 "") true])).telemetryPayload plainPython
          (readingAt 100 ""))
      ((received ((final (Publisher.step plainPython) {}
        (frameRun ++ [.commit (readingAt 100 "") true])).telemetryPayload plainPython
          (readingAt 100 ""))).dashboardViewModel [⟨"North Approach", .connected⟩]) := by
  let s := final (Publisher.step plainPython) {} (frameRun ++ [.commit (readingAt 100 "") true])
  have hgreen : (s.telemetryPayload plainPython (readingAt 100 "")).signal.signalState
      = .green := by decide +kernel
  have hleaves : s.steps.all leavesPhase = true := by decide +kernel
  have hnone : s.steps.drop (s.shownStep + 1) = [] := List.isEmpty_iff.mp (by decide +kernel)
  refine (dashboard_green_iff plainPython atStart_init _ (readingAt 100 "") _ rfl
    (fun _ _ => ⟨⟨fun step hlast => ?_, fun _ step hstep => ?_⟩, ?_⟩) _).mpr fun hred => ?_
  · exact List.all_eq_true.mp hleaves step (List.mem_of_getLast? hlast)
  · have hstep : step ∈ s.steps.drop (s.shownStep + 1) := hstep
    rw [hnone] at hstep
    exact absurd hstep List.not_mem_nil
  · decide +kernel
  · nomatch hgreen.symm.trans hred

/-- The frame of an empty road is processed: no phase starts. -/
def emptyRun : List Turn :=
  .setSessions (northSession 100) :: batchTurns (emptyPacket .north 100) 100
    ++ [.commit (readingAt 100 "") true]

/-- No phase is active, the snapshot names the approach of its frame, and the lamp is green. -/
theorem empty_road_shown_green : ¬∀ (py : Python) (s : Publisher), AtStart s →
    ∀ (run : List Turn) (r : Reading) (t : TelemetryState),
      t.telemetry = some ((final (Publisher.step py) s run).telemetryPayload py r) →
      ∀ nodes : List MobileNode, GreenOnlyForGreen (final (Publisher.step py) s run)
        ((final (Publisher.step py) s run).telemetryPayload py r)
        (t.dashboardViewModel nodes) := by
  intro h
  have hrun := h plainPython {} atStart_init emptyRun (readingAt 100 "")
    (received ((final (Publisher.step plainPython) {} emptyRun).telemetryPayload plainPython
      (readingAt 100 ""))) rfl [⟨"North Approach", .connected⟩]
  have hlabel := hrun.label .north (by decide +kernel)
  have hred : ((final (Publisher.step plainPython) {} emptyRun).telemetryPayload plainPython
      (readingAt 100 "")).signal.signalState = .allRed := by decide +kernel
  rw [hred] at hlabel
  cases hlabel.1

end SmartTraffic.Proof
