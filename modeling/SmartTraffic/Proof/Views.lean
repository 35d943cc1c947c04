import SmartTraffic.Proof.Telemetry
import SmartTraffic.Proof.Hold

/-!
# The two read views

After an iteration of the ticker the signal can be read in two places. The
payload of `runtime_snapshot` shows the result that was applied to it last, for
as long as the approach it names has a session and a frame of the last three
seconds. The live intersection reads the active decision and its start time, and
knows no lost camera, only a stall.

Both views come down to at most one lit approach (`payload_color`, `live_color`).
They agree exactly when the phase that is lit is the one the payload was left
with, and its camera is live.
-/

namespace SmartTraffic.Proof

open SmartTraffic Lib

/-! ## Colours and lights -/

theorem colorOf_eq_green {signal : Option (LaneName × SignalState)} {lane : LaneName} :
    colorOf signal lane = .green ↔ signal = some (lane, .green) := by
  unfold colorOf
  split_ifs with hgreen hyellow
  · exact iff_of_true rfl hgreen
  · exact iff_of_false (by decide) hgreen
  · exact iff_of_false (by decide) hgreen

theorem colorOf_eq_yellow {signal : Option (LaneName × SignalState)} {lane : LaneName} :
    colorOf signal lane = .yellow ↔ signal = some (lane, .yellow) := by
  unfold colorOf
  split_ifs with hgreen hyellow
  · rw [hgreen]
    exact iff_of_false (by decide) (by simp)
  · exact iff_of_true rfl hyellow
  · exact iff_of_false (by decide) hyellow

/-- Only a green or a yellow is a light. -/
def IsLit (signal : Option (LaneName × SignalState)) : Prop :=
  ∀ lane, signal ≠ some (lane, .allRed)

/-- **The colours of the approaches determine the light.** -/
theorem colorOf_injective {signal signal' : Option (LaneName × SignalState)} (h : IsLit signal)
    (h' : IsLit signal') : (∀ lane, colorOf signal lane = colorOf signal' lane)
      ↔ signal = signal' := by
  refine ⟨fun hcolor => Option.ext fun shown => ?_, fun heq lane => by rw [heq]⟩
  obtain ⟨lane, state⟩ := shown
  show signal = some (lane, state) ↔ signal' = some (lane, state)
  cases state with
  | green => rw [← colorOf_eq_green, ← colorOf_eq_green, hcolor lane]
  | yellow => rw [← colorOf_eq_yellow, ← colorOf_eq_yellow, hcolor lane]
  | allRed => exact iff_of_false (h lane) (h' lane)

/-- A signal, unless it is all red. -/
def litOnly (signal : Option (LaneName × SignalState)) : Option (LaneName × SignalState) :=
  signal.filter fun shown => shown.2 ≠ .allRed

theorem litOnly_isLit (signal : Option (LaneName × SignalState)) : IsLit (litOnly signal) := by
  intro lane hred
  exact absurd (Option.filter_eq_some_iff.mp hred).2 (by simp)

/-- An all-red signal colours no approach. -/
theorem colorOf_litOnly (signal : Option (LaneName × SignalState)) (lane : LaneName) :
    colorOf (litOnly signal) lane = colorOf signal lane := by
  cases signal with
  | none => rfl
  | some shown =>
      obtain ⟨lane', state⟩ := shown
      cases state with
      | green => rfl
      | yellow => rfl
      | allRed =>
          show colorOf none lane = colorOf (some (lane', .allRed)) lane
          unfold colorOf
          simp

theorem light_isLit (o : Option PipelineResult) : IsLit (o.bind light) := by
  intro lane hred
  obtain ⟨r, -, hlight⟩ := Option.bind_eq_some_iff.mp hred
  exact absurd rfl (light_eq_some.mp hlight).2.1

/-! ## The payload -/

/-- The colour of an approach as the fields of a payload imply it. -/
def impliedColor (f : SignalFields) (lane : LaneName) : SignalColor :=
  if f.activePhase = lane.value then
    match f.signalState with
    | .green => .green
    | .yellow => .yellow
    | .allRed => .red
  else .red

theorem impliedColor_of_blank {f : SignalFields} (h : Blank f) (lane : LaneName) :
    impliedColor f lane = .red := by
  unfold impliedColor
  rw [h.1]
  exact if_neg (value_ne_none lane).symm

theorem impliedColor_of_displays {f : SignalFields} {r : PipelineResult} (h : Displays f r)
    (lane : LaneName) : impliedColor f lane = colorOf (light r) lane := by
  by_cases hred : r.signalState = .allRed
  · -- an all-red payload may name an approach
    have hdark : light r = none := by
      by_contra hne
      obtain ⟨⟨lane', state⟩, hlit⟩ := Option.ne_none_iff_exists'.mp hne
      obtain ⟨hstate, hlit, -⟩ := light_eq_some.mp hlit
      exact hlit (hstate.symm.trans hred)
    unfold impliedColor
    rw [hdark, h.state, hred]
    split_ifs <;> rfl
  · obtain ⟨d, hd, hphase⟩ := h.lit hred
    have hlight : light r = some (d.greenLane, r.signalState) :=
      light_eq_some.mpr ⟨rfl, hred, d, hd, rfl⟩
    unfold impliedColor
    rw [hlight, h.state, hphase]
    by_cases hlane : d.greenLane = lane
    · subst hlane
      rw [if_pos rfl]
      cases hstate : r.signalState with
      | green => exact (colorOf_eq_green.mpr rfl).symm
      | yellow => exact (colorOf_eq_yellow.mpr rfl).symm
      | allRed => exact absurd hstate hred
    · rw [if_neg fun heq => hlane (value_injective heq)]
      by_contra hne
      rcases colorOf_ne_red.mp (Ne.symm hne) with hs | hs
      · exact hlane (Prod.mk.inj (Option.some.inj hs)).1
      · exact hlane (Prod.mk.inj (Option.some.inj hs)).1

/-- The light of the payload: that of the result on display, unless it is blanked. -/
def payloadLight (py : Python) (s : Publisher) (r : Reading) : Option (LaneName × SignalState) :=
  if s.hides py r then none else s.shown.bind light

/-- **The payload shows one light at most.** -/
theorem payload_color {s : Publisher} (h : Board s) (py : Python) (r : Reading) (lane : LaneName) :
    impliedColor (s.runtimeSnapshot py r) lane = colorOf (payloadLight py s r) lane := by
  unfold payloadLight
  cases hhides : s.hides py r with
  | true =>
      obtain ⟨-, f, hf, hblank⟩ := publishTicker_of_hides hhides
      obtain rfl : s.runtimeSnapshot py r = f := Option.some.inj hf
      rw [impliedColor_of_blank hblank]
      rfl
  | false =>
      obtain ⟨hsame, f, hf, lane', -, hname⟩ := publishTicker_of_not_hides hhides
      have hfields : s.runtimeSnapshot py r = f :=
        Option.some.inj ((congrArg Publisher.latestSnapshot hsame).trans hf)
      rw [hfields]
      cases hshown : s.shown with
      | none =>
          rw [(h.blank hshown f hf).1] at hname
          exact absurd hname (none_toLower lane')
      | some shown =>
          obtain ⟨f', hf', hdisplays⟩ := h.shown shown hshown
          obtain rfl := Option.some.inj (hf'.symm.trans hf)
          exact impliedColor_of_displays hdisplays lane

theorem payloadLight_isLit (py : Python) (s : Publisher) (r : Reading) :
    IsLit (payloadLight py s r) := by
  unfold payloadLight
  split_ifs
  · exact fun lane hred => nomatch hred
  · exact light_isLit _

/-- The payload is lit exactly while the camera of the lit approach is live. -/
theorem payloadLight_eq_some {s : Publisher} (h : Board s) {py : Python} {r : Reading}
    {lane : LaneName} {state : SignalState} : payloadLight py s r = some (lane, state)
      ↔ s.isLive py r lane = true ∧ s.shown.bind light = some (lane, state) := by
  have hhides : s.shown.bind light = some (lane, state) →
      (s.hides py r = true ↔ s.isLive py r lane = false) := by
    intro hlit
    obtain ⟨result, hshown, hlight⟩ := Option.bind_eq_some_iff.mp hlit
    obtain ⟨hstate, hne, d, hd, rfl⟩ := light_eq_some.mp hlight
    obtain ⟨f, hf, hdisplays⟩ := h.shown result hshown
    obtain ⟨d', hd', hphase⟩ := hdisplays.lit (by rw [hstate]; exact hne)
    obtain rfl := Option.some.inj (hd.symm.trans hd')
    exact hides_iff hf hphase
  unfold payloadLight
  constructor
  · intro hlight
    split_ifs at hlight with hh
    refine ⟨?_, hlight⟩
    by_contra hdead
    exact hh ((hhides hlight).mpr (by simpa using hdead))
  · rintro ⟨hlive, hlight⟩
    rw [if_neg fun hh => ?_]
    · exact hlight
    · exact absurd (((hhides hlight).mp hh).symm.trans hlive) Bool.false_ne_true

/-- Blanking a payload twice at one reading is blanking it once. -/
theorem publishTicker_payloadLight {s : Publisher} (py : Python) (r : Reading) :
    payloadLight py (s.publishTicker py r) r = payloadLight py s r := by
  cases hhides : s.hides py r with
  | true =>
      unfold payloadLight
      rw [(publishTicker_of_hides hhides).1, if_pos hhides]
      exact ite_self none
  | false => rw [(publishTicker_of_not_hides hhides).1]

/-! ## The live intersection -/

/-- The green or yellow of the active phase, unless the system is stopped or stalled. -/
def activeLight (s : Publisher) (now : Rat) : Option (LaneName × SignalState) :=
  if s.runtime.systemRunning && !s.liveContext.aiStalled now then
    litOnly (s.runtime.world.pipeline.activeDecision.map fun d =>
      (d.greenLane, TrafficPipeline.signalStateAt d (s.runtime.world.pipeline.elapsedSec now)))
  else none

theorem activeLight_isLit (s : Publisher) (now : Rat) : IsLit (activeLight s now) := by
  unfold activeLight
  split_ifs
  · exact litOnly_isLit _
  · exact fun lane hred => nomatch hred

/-- **The live intersection shows one light at most.** -/
theorem live_color (d : DigitalIntersection) (s : Publisher) (now : Rat) (lane : LaneName) :
    ((d.getSnapshot false s.liveContext now).approaches lane).signal
      = colorOf (activeLight s now) lane := by
  show (DigitalIntersection.SimSnapshot.approaches (if s.runtime.systemRunning then
      d.liveSnapshot s.liveContext s.runtime.world.pipeline now
    else DigitalIntersection.safeHoldSnapshot s.liveContext now) lane).signal = _
  unfold activeLight
  cases hrun : s.runtime.systemRunning with
  | false => rfl
  | true =>
      show colorOf (s.liveContext.signal s.runtime.world.pipeline now) lane = _
      cases hstall : s.liveContext.aiStalled now with
      | true => rw [signal_of_stalled hstall]; rfl
      | false =>
          rw [signal_of_not_stalled hstall]
          exact (colorOf_litOnly _ lane).symm

/-! ## Agreement -/

/-- Both views give every approach the same colour. -/
def ViewsAgree (py : Python) (d : DigitalIntersection) (s : Publisher) (r : Reading) : Prop :=
  ∀ lane, ((d.getSnapshot false s.liveContext r.monotonic).approaches lane).signal
    = impliedColor (s.runtimeSnapshot py r) lane

theorem viewsAgree_iff {s : Publisher} (h : Board s) (py : Python) (d : DigitalIntersection)
    (r : Reading) : ViewsAgree py d s r ↔ activeLight s r.monotonic = payloadLight py s r := by
  unfold ViewsAgree
  rw [← colorOf_injective (activeLight_isLit s r.monotonic) (payloadLight_isLit py s r)]
  refine forall_congr' fun lane => ?_
  rw [live_color, payload_color h]

/-- The result an iteration leaves the payload with: its own only if it has a decision. -/
def leftInPayload (s : Publisher) : Turn → Option PipelineResult
  | .finish _ => s.finishing.bind fun result =>
      if s.latestSnapshot.isSome && result.signalDecision.isSome then some result else s.shown
  | _ => s.shown

/-- The phase that is lit at the reading is the one in the payload, and its camera is live. -/
structure ViewsMatch (py : Python) (s : Publisher) (t : Turn) (r : Reading) : Prop where
  /-- A green or yellow phase has a live camera, and the payload was left with this light. -/
  lit : ∀ lane state, activeLight s r.monotonic = some (lane, state) →
    s.isLive py r lane = true ∧ (leftInPayload s t).bind light = some (lane, state)
  /-- Otherwise the payload is dark, or was left with a light whose camera is not live. -/
  dark : activeLight s r.monotonic = none → ∀ lane state,
    (leftInPayload s t).bind light = some (lane, state) → s.isLive py r lane = false

/-- The condition on a state that is published as it is. -/
theorem lights_eq_iff {s : Publisher} (h : Board s) {py : Python} {r : Reading} :
    activeLight s r.monotonic = payloadLight py s r
      ↔ (∀ lane state, activeLight s r.monotonic = some (lane, state) →
          s.isLive py r lane = true ∧ s.shown.bind light = some (lane, state))
        ∧ (activeLight s r.monotonic = none → ∀ lane state,
          s.shown.bind light = some (lane, state) → s.isLive py r lane = false) := by
  constructor
  · intro heq
    refine ⟨fun lane state hactive => ?_, fun hactive lane state hlit => ?_⟩
    · exact (payloadLight_eq_some h).mp (heq.symm.trans hactive)
    · by_contra hlive
      have hpayload : payloadLight py s r = some (lane, state) :=
        (payloadLight_eq_some h).mpr ⟨by simpa using hlive, hlit⟩
      rw [← heq, hactive] at hpayload
      nomatch hpayload
  · rintro ⟨hlit, hdark⟩
    cases hactive : activeLight s r.monotonic with
    | some shown => exact ((payloadLight_eq_some h).mpr (hlit shown.1 shown.2 hactive)).symm
    | none =>
        cases hpayload : payloadLight py s r with
        | none => rfl
        | some shown =>
            obtain ⟨hlive, hshown⟩ := (payloadLight_eq_some h).mp
              (show payloadLight py s r = some (shown.1, shown.2) from hpayload)
            exact absurd ((hdark hactive _ _ hshown).symm.trans hlive) Bool.false_ne_true

/-- What an iteration publishes shows as the state before it says. -/
theorem publishTicker_viewsAgree {s : Publisher} (h : Board s) (py : Python)
    (d : DigitalIntersection) (r : Reading) : ViewsAgree py d (s.publishTicker py r) r
      ↔ activeLight s r.monotonic = payloadLight py s r := by
  rw [viewsAgree_iff (board_publishTicker h py r), publishTicker_payloadLight]
  rfl

/-- The parts of a publisher that the live intersection and the streams are read from. -/
def observable (s : Publisher) :=
  (s.runtime, s.sessions, s.frameUpdatedAt, s.lastFrameMonotonic)

theorem activeLight_of_observable {s s' : Publisher} (h : observable s' = observable s)
    (now : Rat) : activeLight s' now = activeLight s now := by
  simp only [observable, Prod.mk.injEq] at h
  obtain ⟨hruntime, -, hframes, hlast⟩ := h
  unfold activeLight Publisher.liveContext
  rw [hruntime, hframes, hlast]

theorem isLive_of_observable {s s' : Publisher} (h : observable s' = observable s) (py : Python)
    (r : Reading) (lane : LaneName) : s'.isLive py r lane = s.isLive py r lane := by
  simp only [observable, Prod.mk.injEq] at h
  obtain ⟨hruntime, hsessions, hframes, -⟩ := h
  unfold Publisher.isLive
  rw [hruntime, hsessions, hframes]

theorem apply_observable (s : Publisher) (result : PipelineResult) :
    observable (s.apply result) = observable s := by
  unfold Publisher.apply
  split <;> rfl

/-- Applying a result leaves the payload with it, or with what was there. -/
theorem apply_shown (s : Publisher) (result : PipelineResult) : (s.apply result).shown
    = if s.latestSnapshot.isSome && result.signalDecision.isSome then some result
      else s.shown := by
  unfold Publisher.apply
  cases hlatest : s.latestSnapshot with
  | none => rfl
  | some fields => rfl

/-- **After a completed iteration the views agree exactly if the lights match.** -/
theorem iteration_viewsAgree {py : Python} {s : Publisher} (h : Board s) (d : DigitalIntersection)
    {t : Turn} {r : Reading} (hpublishes : (s.step py t).2 = some (.ticker r)) :
    ViewsAgree py d (s.step py t).1 r ↔ ViewsMatch py s t r := by
  have hcases := step_publishes hpublishes
  generalize (s.step py t).1 = s' at hcases ⊢
  cases hcases with
  | tick =>
      rw [publishTicker_viewsAgree h, lights_eq_iff h]
      exact ⟨fun hmatch => ⟨hmatch.1, hmatch.2⟩, fun hmatch => ⟨hmatch.lit, hmatch.dark⟩⟩
  | @finish _ result hfinishing =>
      have hidle : Board { s with finishing := none } := board_of_posted_eq h rfl h.jobs
      have happlied := board_apply hidle result
      have hobs : observable ({ s with finishing := none }.apply result) = observable s :=
        apply_observable _ result
      have hshown : ({ s with finishing := none }.apply result).shown
          = leftInPayload s (.finish r) := by
        rw [apply_shown]
        unfold leftInPayload
        rw [hfinishing]
        rfl
      rw [publishTicker_viewsAgree happlied, lights_eq_iff happlied,
        activeLight_of_observable hobs, hshown]
      simp only [isLive_of_observable hobs]
      exact ⟨fun hmatch => ⟨hmatch.1, hmatch.2⟩, fun hmatch => ⟨hmatch.lit, hmatch.dark⟩⟩

/--
**In every run the two views agree after an iteration of the ticker exactly if the
phase that is lit then is the one the payload was left with, and its camera is live.**
-/
theorem read_views_agree (py : Python) (d : DigitalIntersection) {s : Publisher} (hs : Starting s)
    (run : List Turn) : ∀ e ∈ events (Publisher.step py) s run, ∀ r, e.out = some (.ticker r) →
      (ViewsAgree py d e.post r ↔ ViewsMatch py e.pre e.input r) := by
  intro e he r hpublishes
  obtain ⟨before, t, rest, -, rfl⟩ := (mem_events_iff _).mp he
  have hboard : Board (final (Publisher.step py) s before) :=
    final_invariant_of_step (board_step py) hs.board before
  exact iteration_viewsAgree hboard d hpublishes

/-! ## A frame, an iteration, and a lost camera -/

theorem finish_publishes {s : Publisher} (h : s.finishing.isSome = true) (py : Python)
    (r : Reading) : (s.step py (.finish r)).2 = some (.ticker r) := by
  obtain ⟨result, hfin⟩ := Option.isSome_iff_exists.mp h
  show (s.finish py r).2 = _
  unfold Publisher.finish
  rw [hfin]

/-- A green phase, and a ticker iteration up to its last stretch. -/
def greenRun : List Turn :=
  frameRun ++ [.commit (readingAt 100 "") true, .commit (readingAt 100 "") true,
    .tick (readingAt 101 ""), workTurn 101, .tick (readingAt 101 ""), workTurn 101]

theorem read_views_agree_north : ViewsAgree plainPython (DigitalIntersection.init 10 60 3 2)
    (Publisher.step plainPython (final (Publisher.step plainPython) {} greenRun)
      (.finish (readingAt 101 ""))).1 (readingAt 101 "") := by
  let finish : Turn := .finish (readingAt 101 "")
  let s := final (Publisher.step plainPython) {} greenRun
  have hactive : activeLight s 101 = some (.north, .green) := by decide +kernel
  have hleft : (leftInPayload s finish).bind light = some (.north, .green) := by decide +kernel
  have hlive : s.isLive plainPython (readingAt 101 "") .north = true := by decide +kernel
  refine (read_views_agree plainPython (DigitalIntersection.init 10 60 3 2) (s := {})
    ⟨rfl, rfl, rfl, rfl, rfl, rfl⟩ (greenRun ++ [finish])
    (eventOf (Publisher.step plainPython) s finish)
    ((mem_events_iff _).mpr ⟨_, _, [], rfl, rfl⟩) (readingAt 101 "")
    (finish_publishes (by decide +kernel) _ _)).mpr ?_
  refine ⟨fun lane state hlit => ?_, fun hdark => ?_⟩
  · obtain ⟨rfl, rfl⟩ := Prod.mk.inj (Option.some.inj (hactive.symm.trans hlit))
    exact ⟨hlive, hleft⟩
  · nomatch hactive.symm.trans hdark

/-- The camera of the green approach is disconnected before the iteration ends. -/
def lostCameraRun : List Turn := greenRun ++ [.setSessions {}, .forget "north"]

/-- The payload turns red, and the live intersection goes on showing the green. -/
theorem lost_camera_stays_green : ¬∀ (py : Python) (d : DigitalIntersection) (s : Publisher),
    Starting s → ∀ run : List Turn, ∀ e ∈ events (Publisher.step py) s run, ∀ r,
      e.out = some (.ticker r) → ViewsAgree py d e.post r := by
  intro h
  let finish : Turn := .finish (readingAt 101 "")
  let s := final (Publisher.step plainPython) {} lostCameraRun
  let d := DigitalIntersection.init 10 60 3 2
  have hagree : ViewsAgree plainPython d (s.step plainPython finish).1 (readingAt 101 "") :=
    h plainPython d {} ⟨rfl, rfl, rfl, rfl, rfl, rfl⟩ (lostCameraRun ++ [finish])
      (eventOf (Publisher.step plainPython) s finish)
      ((mem_events_iff _).mpr ⟨_, _, [], rfl, rfl⟩) (readingAt 101 "")
      (finish_publishes (by decide +kernel) _ _)
  have hpayload : impliedColor ((s.step plainPython finish).1.runtimeSnapshot plainPython
      (readingAt 101 "")) .north = .red := by decide +kernel
  have hlive : ((d.getSnapshot false (s.step plainPython finish).1.liveContext 101).approaches
      .north).signal = .green := by decide +kernel
  nomatch hlive.symm.trans ((hagree .north).trans hpayload)

end SmartTraffic.Proof
