import SmartTraffic.Dashboard.Connection

/-!
# One attempt at a time

A mounted provider always has exactly one thing that keeps its connection going: a socket
whose end it will hear of, or a timer. So it never gives up and never has two connections,
however often the user asks for a new attempt and whenever the browser delivers its events.

Between the end of a driver and the start of the next one there is none. `Quiet` says so;
`retry` and `connect` lead out of it, the end of a socket, the end of a wait and `cleanup`
lead into it.
-/

namespace SmartTraffic.Web

open Lib TelemetryProvider

/-! ## The invariant -/

/-- The provider will hear of its end. -/
def TelemetrySocket.driving (k : TelemetrySocket) : Prop :=
  k.onclose = true ∧ k.readyState ≠ .closed

/-- Its connection may deliver messages, now or later. -/
def TelemetrySocket.live (k : TelemetrySocket) : Prop :=
  k.readyState = .connecting ∨ k.readyState = .opened

instance (k : TelemetrySocket) : Decidable k.driving := inferInstanceAs (Decidable (_ ∧ _))

instance (k : TelemetrySocket) : Decidable k.live := inferInstanceAs (Decidable (_ ∨ _))

theorem TelemetrySocket.close_of_not_live {k : TelemetrySocket} (h : ¬k.live) : k.close = k := by
  unfold TelemetrySocket.live at h
  unfold TelemetrySocket.close
  cases hk : k.readyState with
  | connecting => exact absurd (Or.inl hk) h
  | opened => exact absurd (Or.inr hk) h
  | _ => rfl

theorem TelemetrySocket.close_run (k : TelemetrySocket) : k.close.run = k.run := by
  unfold TelemetrySocket.close
  cases k.readyState <;> rfl

theorem TelemetrySocket.close_not_live (k : TelemetrySocket) : ¬k.close.live := by
  unfold TelemetrySocket.close TelemetrySocket.live
  cases hk : k.readyState <;> simp [hk]

/-- What holds of every run, also of those that have been cleaned up. -/
structure Base (s : TelemetryProvider) : Prop where
  freshSocket : ∀ i k, s.sockets i = some k → i < s.socketCount
  freshTimer : ∀ t r, s.timers t = some r → t < s.timerCount
  socketRun : ∀ i k, s.sockets i = some k → k.run < s.runCount
  socketVar : ∀ e i, (s.runs e).socket = some i → ∃ k, s.sockets i = some k ∧ k.run = e
  currentRun : ∀ e, s.current = some e → e < s.runCount ∧ (s.runs e).active = true
  inactive : ∀ e < s.runCount, s.current ≠ some e → (s.runs e).active = false
  live : ∀ i k, s.sockets i = some k → k.live → k.onclose = true
  detached : ∀ i k, s.sockets i = some k → k.onclose = false → s.current ≠ some k.run

/-- Nothing drives the connection. -/
structure Quiet (s : TelemetryProvider) : Prop where
  sockets : ∀ i k, s.sockets i = some k → ¬k.driving
  timers : ∀ t, s.timers t = none

/-- A socket drives the connection of the run `e`. -/
structure Attached (s : TelemetryProvider) (e i : Nat) (k : TelemetrySocket) : Prop where
  socket : s.sockets i = some k
  driving : k.driving
  run : k.run = e
  var : (s.runs e).socket = some i
  alone : ∀ j k', s.sockets j = some k' → k'.driving → j = i
  timers : ∀ t, s.timers t = none
  connected : k.readyState ≠ .connecting → s.isConnected = true
  /-- What is shown of a connection that is still being made is left from the run before a manual
  retry. -/
  carried : s.isConnected = true → k.readyState = .connecting → (s.runs e).manual = true

/-- A timer drives the connection of the run `e`. -/
structure Waits (s : TelemetryProvider) (e t : Nat) (r : RetryTimer) : Prop where
  timer : s.timers t = some r
  run : r.run = e
  var : (s.runs e).timer = some t
  alone : ∀ t', s.timers t' ≠ none → t' = t
  sockets : ∀ i k, s.sockets i = some k → ¬k.driving
  delay : r.delay = retryDelay (s.runs e).attempts
  attempts : 1 ≤ (s.runs e).attempts
  isConnected : s.isConnected = false

/-- What drives the connection of a run. -/
inductive Driver (s : TelemetryProvider) (e : Nat) : Prop
  | socket {i : Nat} {k : TelemetrySocket} (h : Attached s e i k)
  | timer {t : Nat} {r : RetryTimer} (h : Waits s e t r)

/-- What is shown of the attempts. -/
structure Counted (s : TelemetryProvider) (e : Nat) : Prop where
  reconnectCount : s.reconnectCount = (s.runs e).attempts
  isConnectionFailed : s.isConnectionFailed = decide (5 ≤ (s.runs e).attempts)

structure Wired (s : TelemetryProvider) : Prop where
  base : Base s
  driver : ∀ e, s.current = some e → Driver s e
  counted : ∀ e, s.current = some e → Counted s e
  quiet : s.current = none → Quiet s

/-! ## Out of the quiet -/

theorem update_eq_some {V : Type} {f : Nat → Option V} {i j : Nat} {v w : V}
    (h : Function.update f i (some v) j = some w) : j = i ∧ w = v ∨ j ≠ i ∧ f j = some w := by
  by_cases hj : j = i
  · subst hj
    rw [Function.update_self] at h
    exact Or.inl ⟨rfl, (Option.some.inj h).symm⟩
  · rw [Function.update_of_ne hj] at h
    exact Or.inr ⟨hj, h⟩

/-- The other runs keep what they have. -/
theorem Base.setCurrentRun {s : TelemetryProvider} (h : Base s) {e : Nat}
    (hcurrent : s.current = some e) (s' : TelemetryProvider) (hcount : s'.runCount = s.runCount)
    (hcur : s'.current = s.current) (run : EffectRun) (hactive : run.active = true)
    (hruns : s'.runs = Function.update s.runs e run) :
    (∀ e', s'.current = some e' → e' < s'.runCount ∧ (s'.runs e').active = true)
      ∧ ∀ e' < s'.runCount, s'.current ≠ some e' → (s'.runs e').active = false := by
  refine ⟨fun e' he' => ?_, fun e' hlt hne => ?_⟩
  · rw [hcur, hcurrent] at he'
    obtain rfl := Option.some.inj he'
    rw [hcount, hruns, Function.update_self]
    exact ⟨(h.currentRun e hcurrent).1, hactive⟩
  · rw [hcur] at hne
    rw [hcount] at hlt
    have hne' : e' ≠ e := fun heq => hne (heq ▸ hcurrent)
    rw [hruns, Function.update_of_ne hne']
    exact h.inactive e' hlt hne

theorem wired_scheduleRetry {s : TelemetryProvider} {e : Nat} (h : Base s) (hq : Quiet s)
    (hcurrent : s.current = some e) : Wired (s.scheduleRetry e) := by
  obtain ⟨hrun, hinactive⟩ := h.setCurrentRun hcurrent (s.scheduleRetry e) rfl rfl
    { s.runs e with attempts := (s.runs e).attempts + 1, timer := some s.timerCount }
    (h.currentRun e hcurrent).2 rfl
  have hself : (s.scheduleRetry e).runs e
      = { s.runs e with attempts := (s.runs e).attempts + 1, timer := some s.timerCount } :=
    Function.update_self ..
  refine ⟨⟨h.freshSocket, fun t r ht => ?_, h.socketRun, fun e' i hvar => ?_, hrun, hinactive,
    h.live, h.detached⟩, fun e' he' => ?_, fun e' he' => ?_, fun hnone => ?_⟩
  · rcases update_eq_some ht with ⟨rfl, -⟩ | ⟨-, hold⟩
    · exact Nat.lt_succ_self _
    · exact absurd hold (by rw [hq.timers t]; simp)
  · by_cases heq : e' = e
    · subst heq
      rw [hself] at hvar
      exact h.socketVar e' i hvar
    · unfold scheduleRetry at hvar
      dsimp only at hvar
      rw [Function.update_of_ne heq] at hvar
      exact h.socketVar e' i hvar
  · obtain rfl : e = e' := Option.some.inj (hcurrent.symm.trans he')
    refine .timer (t := s.timerCount) ⟨Function.update_self .., rfl, by rw [hself],
      fun t' ht' => ?_, hq.sockets, by rw [hself], by rw [hself]; exact Nat.le_add_left 1 _, rfl⟩
    by_contra hne
    unfold scheduleRetry at ht'
    dsimp only at ht'
    rw [Function.update_of_ne hne] at ht'
    exact ht' (hq.timers t')
  · obtain rfl : e = e' := Option.some.inj (hcurrent.symm.trans he')
    exact ⟨by rw [hself]; rfl, by rw [hself]; rfl⟩
  · exact absurd (hcurrent.symm.trans hnone) (by simp)

theorem wired_retry {s : TelemetryProvider} {e : Nat} (h : Base s) (hq : Quiet s)
    (hcurrent : s.current = some e) : Wired (s.retry e) := by
  unfold retry
  rw [if_pos (h.currentRun e hcurrent).2]
  exact wired_scheduleRetry h hq hcurrent

theorem wired_newSocket {s : TelemetryProvider} {e : Nat} (h : Base s) (hq : Quiet s)
    (hcurrent : s.current = some e) (hcounted : Counted s e)
    (hcarried : s.isConnected = true → (s.runs e).manual = true) : Wired (s.newSocket e) := by
  obtain ⟨hrun, hinactive⟩ := h.setCurrentRun hcurrent (s.newSocket e) rfl rfl
    { s.runs e with socket := some s.socketCount } (h.currentRun e hcurrent).2 rfl
  have hself : (s.newSocket e).runs e = { s.runs e with socket := some s.socketCount } :=
    Function.update_self ..
  have hnew : (s.newSocket e).sockets s.socketCount = some { run := e } :=
    Function.update_self ..
  have hdriving : ({ run := e } : TelemetrySocket).driving := ⟨rfl, by simp⟩
  refine ⟨⟨fun i k hk => ?_, h.freshTimer, fun i k hk => ?_, fun e' i hvar => ?_, hrun, hinactive,
    fun i k hk hlive => ?_, fun i k hk hoff => ?_⟩, fun e' he' => ?_, fun e' he' => ?_,
    fun hnone => ?_⟩
  · -- the number of the new socket is unused
    rcases update_eq_some hk with ⟨rfl, -⟩ | ⟨-, hold⟩
    · exact Nat.lt_succ_self _
    · exact (h.freshSocket i k hold).trans (Nat.lt_succ_self _)
  · rcases update_eq_some hk with ⟨-, rfl⟩ | ⟨-, hold⟩
    · exact (h.currentRun e hcurrent).1
    · exact h.socketRun i k hold
  · -- the run's variable holds the new socket, those of other runs are as before
    by_cases heq : e' = e
    · subst heq
      rw [hself] at hvar
      obtain rfl := Option.some.inj hvar
      exact ⟨_, hnew, rfl⟩
    · unfold newSocket at hvar
      dsimp only at hvar
      rw [Function.update_of_ne heq] at hvar
      obtain ⟨k, hk, hke⟩ := h.socketVar e' i hvar
      have hi : i ≠ s.socketCount := (h.freshSocket i k hk).ne
      exact ⟨k, (Function.update_of_ne hi ..).trans hk, hke⟩
  · rcases update_eq_some hk with ⟨-, rfl⟩ | ⟨-, hold⟩
    · rfl
    · exact h.live i k hold hlive
  · rcases update_eq_some hk with ⟨-, rfl⟩ | ⟨-, hold⟩
    · cases hoff
    · exact h.detached i k hold hoff
  · -- nothing else drives, as the provider was quiet
    obtain rfl : e = e' := Option.some.inj (hcurrent.symm.trans he')
    refine .socket (i := s.socketCount) ⟨hnew, hdriving, rfl, by rw [hself],
      fun j k' hk' hd => ?_, hq.timers, fun hne => absurd rfl hne,
      fun hup _ => by rw [hself]; exact hcarried hup⟩
    rcases update_eq_some hk' with ⟨rfl, -⟩ | ⟨-, hold⟩
    · rfl
    · exact absurd hd (hq.sockets j k' hold)
  · obtain rfl : e = e' := Option.some.inj (hcurrent.symm.trans he')
    exact ⟨by rw [hself]; exact hcounted.1, by rw [hself]; exact hcounted.2⟩
  · exact absurd (hcurrent.symm.trans hnone) (by simp)

theorem wired_connect {s : TelemetryProvider} {e : Nat} (h : Base s) (hq : Quiet s)
    (hcurrent : s.current = some e) (hcounted : Counted s e)
    (hcarried : s.isConnected = true → (s.runs e).manual = true) (constructs : Bool) :
    Wired (s.connect e constructs) := by
  unfold connect
  rw [if_pos (h.currentRun e hcurrent).2]
  cases constructs with
  | true => exact wired_newSocket h hq hcurrent hcounted hcarried
  | false => exact wired_retry h hq hcurrent

theorem beginRun_self (s : TelemetryProvider) (manual : Bool) :
    (s.beginRun manual).runs s.runCount = { manual := manual } :=
  Function.update_self ..

theorem base_beginRun {s : TelemetryProvider} (h : Base s) (hcurrent : s.current = none)
    (manual : Bool) : Base (s.beginRun manual) := by
  refine ⟨h.freshSocket, h.freshTimer, fun i k hk => ?_, fun e i hvar => ?_, fun e he => ?_,
    fun e hlt hne => ?_, h.live, fun i k hk _ heq => ?_⟩
  · exact (h.socketRun i k hk).trans (Nat.lt_succ_self _)
  · unfold beginRun at hvar
    dsimp only at hvar
    by_cases he : e = s.runCount
    · subst he
      rw [Function.update_self] at hvar
      cases hvar
    · rw [Function.update_of_ne he] at hvar
      exact h.socketVar e i hvar
  · obtain rfl := Option.some.inj he
    exact ⟨Nat.lt_succ_self _, by rw [beginRun_self]⟩
  · have he : e ≠ s.runCount := fun heq => hne (heq ▸ rfl)
    refine (congrArg EffectRun.active (Function.update_of_ne he ..)).trans ?_
    exact h.inactive e (Nat.lt_of_le_of_ne (Nat.le_of_lt_succ hlt) he) (by rw [hcurrent]; simp)
  · -- an old socket belongs to an old run
    exact absurd (Option.some.inj heq) (h.socketRun i k hk).ne'

theorem wired_startEffect {s : TelemetryProvider} (h : Base s) (hq : Quiet s)
    (hcurrent : s.current = none) {manual : Bool} (hshown : s.isConnected = true → manual = true)
    (constructs : Bool) : Wired (s.startEffect manual constructs) := by
  have hself := beginRun_self s manual
  have hcounted : Counted (s.beginRun manual) s.runCount :=
    ⟨by rw [hself]; rfl, by rw [hself]; rfl⟩
  refine wired_connect (base_beginRun h hcurrent manual) ⟨hq.sockets, hq.timers⟩ rfl hcounted
    (fun hup => ?_) constructs
  rw [hself]
  exact hshown hup

/-- A display without anything on it changes nothing of the runs and of the browser. -/
theorem Base.initialDisplay {s : TelemetryProvider} (h : Base s) : Base s.initialDisplay :=
  ⟨h.freshSocket, h.freshTimer, h.socketRun, h.socketVar, h.currentRun, h.inactive, h.live,
    h.detached⟩

/-! ## Into the quiet -/

/-- A socket that keeps its run and its handler, and does not come to life again. -/
theorem Base.setSocket {s : TelemetryProvider} (h : Base s) {i : Nat} {k : TelemetrySocket}
    (hk : s.sockets i = some k) (k' : TelemetrySocket) (hrun : k'.run = k.run)
    (honclose : k'.onclose = k.onclose) (hlive : k'.live → k.live) : Base (s.setSocket i k') where
  freshSocket j k'' hj := by
    rcases update_eq_some hj with ⟨rfl, -⟩ | ⟨-, hold⟩
    · exact h.freshSocket j k hk
    · exact h.freshSocket j k'' hold
  freshTimer := h.freshTimer
  socketRun j k'' hj := by
    rcases update_eq_some hj with ⟨-, rfl⟩ | ⟨-, hold⟩
    · rw [hrun]; exact h.socketRun i k hk
    · exact h.socketRun j k'' hold
  socketVar e j hvar := by
    obtain ⟨k'', hk'', he⟩ := h.socketVar e j hvar
    by_cases hj : j = i
    · subst hj
      obtain rfl := Option.some.inj (hk.symm.trans hk'')
      exact ⟨k', Function.update_self .., hrun.trans he⟩
    · exact ⟨k'', (Function.update_of_ne hj ..).trans hk'', he⟩
  currentRun := h.currentRun
  inactive := h.inactive
  live j k'' hj hl := by
    rcases update_eq_some hj with ⟨-, rfl⟩ | ⟨-, hold⟩
    · rw [honclose]; exact h.live i k hk (hlive hl)
    · exact h.live j k'' hold hl
  detached j k'' hj hoff := by
    rcases update_eq_some hj with ⟨-, rfl⟩ | ⟨-, hold⟩
    · rw [hrun]; exact h.detached i k hk (honclose ▸ hoff)
    · exact h.detached j k'' hold hoff

theorem Base.dropTimer {s : TelemetryProvider} (h : Base s) (t : Nat) : Base (s.dropTimer t) where
  freshSocket := h.freshSocket
  freshTimer t' r ht := by
    by_cases heq : t' = t
    · subst heq
      rw [TelemetryProvider.dropTimer] at ht
      dsimp only at ht
      rw [Function.update_self] at ht
      cases ht
    · exact h.freshTimer t' r ((Function.update_of_ne heq ..).symm.trans ht)
  socketRun := h.socketRun
  socketVar := h.socketVar
  currentRun := h.currentRun
  inactive := h.inactive
  live := h.live
  detached := h.detached

/-- The wait of the run is over. -/
theorem Waits.quiet {s : TelemetryProvider} {e t : Nat} {r : RetryTimer} (h : Waits s e t r) :
    Quiet (s.dropTimer t) := by
  refine ⟨h.sockets, fun t' => ?_⟩
  by_cases heq : t' = t
  · subst heq
    exact Function.update_self ..
  · by_contra hne
    exact heq (h.alone t' fun hnone => hne ((Function.update_of_ne heq ..).trans hnone))

/-- The socket of the run is closed. -/
theorem Attached.quiet {s : TelemetryProvider} {e i : Nat} {k k' : TelemetrySocket}
    (h : Attached s e i k) (hk' : ¬k'.driving) : Quiet (s.setSocket i k') := by
  refine ⟨fun j k'' hj hd => ?_, h.timers⟩
  rcases update_eq_some hj with ⟨-, rfl⟩ | ⟨hne, hold⟩
  · exact hk' hd
  · exact hne (h.alone j k'' hold hd)

/-- A socket that is on its way out or ended is not closed again. -/
theorem onerror_eq {s : TelemetryProvider} {e : Nat}
    (h : ∀ i k, (s.runs e).socket = some i → s.sockets i = some k → ¬k.live) :
    s.onerror e = s := by
  unfold onerror
  cases hvar : (s.runs e).socket with
  | none => rfl
  | some i =>
      dsimp only
      cases hk : s.sockets i with
      | none => rfl
      | some k =>
          dsimp only
          rw [TelemetrySocket.close_of_not_live (h i k hvar hk), TelemetryProvider.setSocket, ← hk,
            Function.update_eq_self]

/-- A live socket is the one that drives the current run. -/
theorem Wired.attached {s : TelemetryProvider} (h : Wired s) {i : Nat} {k : TelemetrySocket}
    (hk : s.sockets i = some k) (hd : k.driving) :
    s.current = some k.run ∧ Attached s k.run i k := by
  cases hcurrent : s.current with
  | none => exact absurd hd ((h.quiet hcurrent).sockets i k hk)
  | some e =>
      cases h.driver e hcurrent with
      | timer hw => exact absurd hd (hw.sockets i k hk)
      | socket ha =>
          obtain rfl := ha.alone i k hk hd
          obtain rfl := Option.some.inj (ha.socket.symm.trans hk)
          obtain rfl := ha.run
          exact ⟨rfl, ha⟩

theorem Wired.waits {s : TelemetryProvider} (h : Wired s) {t : Nat} {r : RetryTimer}
    (ht : s.timers t = some r) : s.current = some r.run ∧ Waits s r.run t r := by
  cases hcurrent : s.current with
  | none => exact absurd ((h.quiet hcurrent).timers t) (by rw [ht]; simp)
  | some e =>
      cases h.driver e hcurrent with
      | socket ha => exact absurd (ha.timers t) (by rw [ht]; simp)
      | timer hw =>
          obtain rfl := hw.alone t (by rw [ht]; simp)
          obtain rfl := Option.some.inj (hw.timer.symm.trans ht)
          obtain rfl := hw.run
          exact ⟨rfl, hw⟩

/-- What `cleanup` leaves of the sockets: one that is let go, and the others. -/
theorem release_sockets {s : TelemetryProvider} {run : EffectRun} {j : Nat} {k : TelemetrySocket}
    (h : (s.release run).sockets j = some k) :
    (∃ k', run.socket = some j ∧ s.sockets j = some k' ∧ k = { k'.close with onclose := false })
      ∨ run.socket ≠ some j ∧ s.sockets j = some k := by
  unfold release at h
  cases hvar : run.socket with
  | none =>
      rw [hvar] at h
      exact Or.inr ⟨by simp, h⟩
  | some i =>
      rw [hvar] at h
      dsimp only [Option.elim] at h
      by_cases hj : j = i
      · subst hj
        rw [Function.update_self] at h
        obtain ⟨k', hk', rfl⟩ := Option.map_eq_some_iff.mp h
        exact Or.inl ⟨k', rfl, hk', rfl⟩
      · rw [Function.update_of_ne hj] at h
        exact Or.inr ⟨fun heq => hj (Option.some.inj heq).symm, h⟩

theorem quiet_cleanup {s : TelemetryProvider} (h : Wired s) {e : Nat}
    (hcurrent : s.current = some e) : Quiet (s.cleanup e) := by
  refine ⟨fun j k hk hd => ?_, fun t => ?_⟩
  · rcases release_sockets hk with ⟨k', -, -, rfl⟩ | ⟨hvar, hold⟩
    · exact absurd hd.1 (by simp)
    · -- a driving socket is the one of the current run
      obtain ⟨hcurrent', ha⟩ := h.attached hold hd
      obtain rfl := Option.some.inj (hcurrent.symm.trans hcurrent')
      exact hvar ha.var
  · show ((s.runs e).timer.elim s.timers fun t => Function.update s.timers t none) t = none
    cases htimer : s.timers t with
    | none =>
        cases (s.runs e).timer with
        | none => exact htimer
        | some t' =>
            dsimp only [Option.elim]
            by_cases heq : t = t'
            · rw [heq]; exact Function.update_self ..
            · exact (Function.update_of_ne heq ..).trans htimer
    | some r =>
        obtain ⟨hcurrent', hw⟩ := h.waits htimer
        obtain rfl := Option.some.inj (hcurrent.symm.trans hcurrent')
        rw [hw.var]
        exact Function.update_self ..

theorem base_cleanup {s : TelemetryProvider} (h : Wired s) {e : Nat}
    (hcurrent : s.current = some e) : Base (s.cleanup e) where
  freshSocket j k hk := by
    rcases release_sockets hk with ⟨k', -, hold, -⟩ | ⟨-, hold⟩
    · exact h.base.freshSocket j k' hold
    · exact h.base.freshSocket j k hold
  freshTimer t r ht := absurd ((quiet_cleanup h hcurrent).timers t) (by rw [ht]; simp)
  socketRun j k hk := by
    rcases release_sockets hk with ⟨k', -, hold, rfl⟩ | ⟨-, hold⟩
    · show k'.close.run < _
      rw [k'.close_run]
      exact h.base.socketRun j k' hold
    · exact h.base.socketRun j k hold
  socketVar e' i hvar := by
    have hvar' : (s.runs e').socket = some i := by
      by_cases heq : e' = e
      · subst heq
        have hself : (s.cleanup e').runs e' = { s.runs e' with active := false } :=
          Function.update_self ..
        rw [hself] at hvar
        exact hvar
      · exact (congrArg EffectRun.socket (Function.update_of_ne heq ..)).symm.trans hvar
    -- the socket is still there, but it may have been closed
    obtain ⟨k, hk, hke⟩ := h.base.socketVar e' i hvar'
    show ∃ k, (s.release (s.runs e)).sockets i = some k ∧ k.run = e'
    unfold release
    cases hcur : (s.runs e).socket with
    | none => exact ⟨k, hk, hke⟩
    | some j =>
        dsimp only [Option.elim]
        by_cases hj : i = j
        · subst hj
          rw [hk]
          exact ⟨_, Function.update_self .., k.close_run.trans hke⟩
        · exact ⟨k, (Function.update_of_ne hj ..).trans hk, hke⟩
  currentRun e' he' := by cases he'
  inactive e' hlt _ := by
    by_cases heq : e' = e
    · subst heq
      have hself : (s.cleanup e').runs e' = { s.runs e' with active := false } :=
        Function.update_self ..
      rw [hself]
    · refine (congrArg EffectRun.active (Function.update_of_ne heq ..)).trans ?_
      exact h.base.inactive e' hlt fun hcur =>
        heq (Option.some.inj (hcur.symm.trans hcurrent))
  live j k hk hlive := by
    rcases release_sockets hk with ⟨k', -, -, rfl⟩ | ⟨-, hold⟩
    · exact absurd hlive k'.close_not_live
    · exact h.base.live j k hold hlive
  detached _ _ _ _ := by intro hcur; cases hcur

/-! ## One event -/

theorem wired_cleanup {s : TelemetryProvider} (h : Wired s) {e : Nat}
    (hcurrent : s.current = some e) : Wired (s.cleanup e) where
  base := base_cleanup h hcurrent
  driver _ he := by cases he
  counted _ he := by cases he
  quiet _ := quiet_cleanup h hcurrent

/-- The socket of the current run goes on, and is connected. -/
theorem Attached.goesOn {s s' : TelemetryProvider} {e i : Nat} {k : TelemetrySocket}
    (h : Attached s e i k) (k' : TelemetrySocket) (hrun : k'.run = k.run) (hd : k'.driving)
    (hstate : k'.readyState ≠ .connecting) (hup : s'.isConnected = true)
    (hruns : s'.runs = s.runs) (htimers : s'.timers = s.timers)
    (hsockets : s'.sockets = Function.update s.sockets i (some k')) : Attached s' e i k' where
  socket := by rw [hsockets, Function.update_self]
  driving := hd
  run := hrun.trans h.run
  var := by rw [hruns]; exact h.var
  alone j k'' hj hd' := by
    rw [hsockets] at hj
    rcases update_eq_some hj with ⟨rfl, -⟩ | ⟨-, hold⟩
    · rfl
    · exact h.alone j k'' hold hd'
  timers := by rw [htimers]; exact h.timers
  connected _ := hup
  carried _ hc := absurd hc hstate

theorem wired_opened {s : TelemetryProvider} (h : Wired s) {i : Nat} {k : TelemetrySocket}
    (hk : s.sockets i = some k) (hstate : k.readyState = .connecting) :
    Wired ((s.setSocket i { k with readyState := .opened }).onopen k.run) := by
  have honclose := h.base.live i k hk (Or.inl hstate)
  obtain ⟨hcurrent, ha⟩ := h.attached hk ⟨honclose, by rw [hstate]; simp⟩
  have hbase := h.base.setSocket hk { k with readyState := .opened } rfl rfl
    fun _ => Or.inl hstate
  have hactive : ((s.setSocket i { k with readyState := .opened }).runs k.run).active = true :=
    (h.base.currentRun _ hcurrent).2
  unfold onopen
  rw [if_pos hactive]
  refine ⟨⟨hbase.freshSocket, hbase.freshTimer, hbase.socketRun, hbase.socketVar,
    hbase.currentRun, hbase.inactive, hbase.live, hbase.detached⟩, fun e he => ?_,
    fun e he => ⟨(h.counted e he).1, (h.counted e he).2⟩, fun hnone => ?_⟩
  · obtain rfl := Option.some.inj (hcurrent.symm.trans he)
    exact .socket (ha.goesOn { k with readyState := .opened } rfl ⟨honclose, by simp⟩
      (by simp) rfl rfl rfl rfl)
  · exact absurd (hcurrent.symm.trans hnone) (by simp)

theorem wired_closing {s : TelemetryProvider} (h : Wired s) {i : Nat} {k : TelemetrySocket}
    (hk : s.sockets i = some k) (hstate : k.readyState = .opened) :
    Wired (s.setSocket i { k with readyState := .closing }) := by
  have honclose := h.base.live i k hk (Or.inr hstate)
  obtain ⟨hcurrent, ha⟩ := h.attached hk ⟨honclose, by rw [hstate]; simp⟩
  have hbase := h.base.setSocket hk { k with readyState := .closing } rfl rfl
    fun _ => Or.inr hstate
  refine ⟨hbase, fun e he => ?_, fun e he => ⟨(h.counted e he).1, (h.counted e he).2⟩,
    fun hnone => ?_⟩
  · obtain rfl := Option.some.inj (hcurrent.symm.trans he)
    have hup := ha.connected (by rw [hstate]; simp)
    exact .socket (ha.goesOn { k with readyState := .closing } rfl ⟨honclose, by simp⟩
      (by simp) hup rfl rfl rfl)
  · exact absurd (hcurrent.symm.trans hnone) (by simp)

/-- Taking over a payload only touches what is counted and shown. -/
theorem wired_takePayload {s : TelemetryProvider} (h : Wired s) {e i : Nat} {k : TelemetrySocket}
    (hcurrent : s.current = some e) (ha : Attached s e i k) (payload : Json) (date : Rat) :
    Wired (s.takePayload e payload date) := by
  obtain ⟨hrun, hinactive⟩ := h.base.setCurrentRun hcurrent
    (s.takePayload e payload date) rfl rfl { s.runs e with attempts := 0 }
    (h.base.currentRun e hcurrent).2 rfl
  have hself : (s.takePayload e payload date).runs e = { s.runs e with attempts := 0 } :=
    Function.update_self ..
  refine ⟨⟨h.base.freshSocket, h.base.freshTimer, h.base.socketRun, fun e' i hvar => ?_, hrun,
    hinactive, h.base.live, h.base.detached⟩, fun e' he' => ?_, fun e' he' => ?_,
    fun hnone => ?_⟩
  · by_cases heq : e' = e
    · subst heq
      rw [hself] at hvar
      exact h.base.socketVar e' i hvar
    · have hsame : (s.takePayload e payload date).runs e' = s.runs e' :=
        Function.update_of_ne heq ..
      rw [hsame] at hvar
      exact h.base.socketVar e' i hvar
  · obtain rfl : e = e' := Option.some.inj (hcurrent.symm.trans he')
    exact .socket ⟨ha.socket, ha.driving, ha.run, by rw [hself]; exact ha.var, ha.alone,
      ha.timers, ha.connected, fun hup hc => by rw [hself]; exact ha.carried hup hc⟩
  · obtain rfl : e = e' := Option.some.inj (hcurrent.symm.trans he')
    exact ⟨by rw [hself]; rfl, by rw [hself]; rfl⟩
  · exact absurd (hcurrent.symm.trans hnone) (by simp)

theorem wired_onmessage {s : TelemetryProvider} (h : Wired s) {i : Nat} {k : TelemetrySocket}
    (hk : s.sockets i = some k) (hstate : k.readyState = .opened) (data : Option Json)
    (date : Rat) : Wired (s.onmessage k.run data date) := by
  have honclose := h.base.live i k hk (Or.inr hstate)
  obtain ⟨hcurrent, ha⟩ := h.attached hk ⟨honclose, by rw [hstate]; simp⟩
  unfold onmessage
  rw [if_pos (h.base.currentRun _ hcurrent).2]
  cases data.bind acceptedPayload with
  | none => exact h
  | some payload => exact wired_takePayload h hcurrent ha payload date

/-- The end of a socket that had been let go. -/
theorem wired_setSocket_detached {s : TelemetryProvider} (h : Wired s) {i : Nat}
    {k k' : TelemetrySocket} (hk : s.sockets i = some k) (hoff : k.onclose = false)
    (hrun : k'.run = k.run) (honclose : k'.onclose = k.onclose) (hlive : ¬k'.live) :
    Wired (s.setSocket i k') := by
  have hd : ¬k.driving := fun hd => absurd hd.1 (by rw [hoff]; simp)
  have hd' : ¬k'.driving := fun hd => absurd hd.1 (by rw [honclose, hoff]; simp)
  refine ⟨h.base.setSocket hk k' hrun honclose fun hl => absurd hl hlive, fun e he => ?_,
    fun e he => ⟨(h.counted e he).1, (h.counted e he).2⟩, fun hnone => ?_⟩
  · cases h.driver e he with
    | socket ha =>
        rename_i j k₀
        have hne : j ≠ i := by
          rintro rfl
          exact hd (Option.some.inj (ha.socket.symm.trans hk) ▸ ha.driving)
        refine .socket ⟨(Function.update_of_ne hne ..).trans ha.socket, ha.driving, ha.run, ha.var,
          fun j' k'' hj hd'' => ?_, ha.timers, ha.connected, ha.carried⟩
        rcases update_eq_some hj with ⟨-, rfl⟩ | ⟨-, hold⟩
        · exact absurd hd'' hd'
        · exact ha.alone j' k'' hold hd''
    | timer hw =>
        refine .timer ⟨hw.timer, hw.run, hw.var, hw.alone, fun j k'' hj hd'' => ?_, hw.delay,
          hw.attempts, hw.isConnected⟩
        rcases update_eq_some hj with ⟨-, rfl⟩ | ⟨-, hold⟩
        · exact hd' hd''
        · exact hw.sockets j k'' hold hd''
  · refine ⟨fun j k'' hj hd'' => ?_, (h.quiet hnone).timers⟩
    rcases update_eq_some hj with ⟨-, rfl⟩ | ⟨-, hold⟩
    · exact hd' hd''
    · exact (h.quiet hnone).sockets j k'' hold hd''

/-- An error is reported when nothing of its run is live any more. -/
theorem onerror_ended {s : TelemetryProvider} (h : Wired s) {i : Nat} {k : TelemetrySocket}
    (hk : s.sockets i = some k) (hnot : k.readyState ≠ .closed) :
    (s.setSocket i { k with readyState := .closed }).onerror k.run
      = s.setSocket i { k with readyState := .closed } := by
  refine onerror_eq fun j k'' hvar hj hlive => ?_
  rcases update_eq_some hj with ⟨-, rfl⟩ | ⟨hne, hold⟩
  · exact absurd hlive (by simp [TelemetrySocket.live])
  · -- the live socket drives the current run, and it is the only one
    have honclose := h.base.live j k'' hold hlive
    have hopen : k''.readyState ≠ .closed := by
      rcases hlive with hl | hl <;> rw [hl] <;> simp
    obtain ⟨hcurrent, ha⟩ := h.attached hold ⟨honclose, hopen⟩
    obtain ⟨k₂, hk₂, hrun₂⟩ := h.base.socketVar k.run j hvar
    obtain rfl := Option.some.inj (hold.symm.trans hk₂)
    by_cases hoff : k.onclose = true
    · exact hne (ha.alone i k hk ⟨hoff, hnot⟩).symm
    · exact h.base.detached i k hk (by simpa using hoff) (hcurrent.trans (by rw [hrun₂]))

theorem wired_ended {s : TelemetryProvider} (h : Wired s) {i : Nat} {k : TelemetrySocket}
    (hk : s.sockets i = some k) (hnot : k.readyState ≠ .closed) (failed : Bool) :
    Wired (s.ended i k failed) := by
  have herror : (if failed then (s.setSocket i { k with readyState := .closed }).onerror k.run
      else s.setSocket i { k with readyState := .closed })
      = s.setSocket i { k with readyState := .closed } := by
    cases failed with
    | true => exact onerror_ended h hk hnot
    | false => rfl
  have hnotlive : ¬({ k with readyState := .closed } : TelemetrySocket).live := by
    simp [TelemetrySocket.live]
  unfold ended
  dsimp only
  rw [herror]
  by_cases hon : k.onclose = true
  · rw [if_pos hon]
    obtain ⟨hcurrent, ha⟩ := h.attached hk ⟨hon, hnot⟩
    have hbase := h.base.setSocket hk { k with readyState := .closed } rfl rfl
      fun hl => absurd hl hnotlive
    exact wired_retry hbase (ha.quiet fun hd => absurd rfl hd.2) hcurrent
  · rw [if_neg hon]
    exact wired_setSocket_detached h hk (by simpa using hon) rfl rfl hnotlive

theorem wired_timeout {s : TelemetryProvider} (h : Wired s) {t : Nat} {r : RetryTimer}
    (ht : s.timers t = some r) (constructs : Bool) :
    Wired ((s.dropTimer t).connect r.run constructs) := by
  obtain ⟨hcurrent, hw⟩ := h.waits ht
  have hdown : (s.dropTimer t).isConnected = false := hw.isConnected
  have hcounted := h.counted _ hcurrent
  exact wired_connect (h.base.dropTimer t) hw.quiet hcurrent ⟨hcounted.1, hcounted.2⟩
    (fun hup => absurd hup (by rw [hdown]; simp)) constructs

theorem wired_step {s : TelemetryProvider} (h : Wired s) (o : Occurrence) : Wired (s.step o) := by
  cases o with
  | mount constructs =>
      dsimp only [TelemetryProvider.step]
      cases hcurrent : s.current with
      | none =>
          have hq := h.quiet hcurrent
          exact wired_startEffect h.base.initialDisplay ⟨hq.sockets, hq.timers⟩ hcurrent
            (fun hup => by cases hup) constructs
      | some e => exact h
  | retryConnection constructs =>
      dsimp only [TelemetryProvider.step]
      cases hcurrent : s.current with
      | none => exact h
      | some e =>
          have hclean := wired_cleanup h hcurrent
          exact wired_startEffect hclean.base (hclean.quiet rfl) rfl (fun _ => rfl) constructs
  | unmount =>
      dsimp only [TelemetryProvider.step]
      cases hcurrent : s.current with
      | none => exact h
      | some e => exact wired_cleanup h hcurrent
  | opened i =>
      dsimp only [TelemetryProvider.step]
      cases hk : s.sockets i with
      | none => exact h
      | some k =>
          dsimp only
          by_cases hstate : k.readyState = .connecting
          · rw [if_pos hstate]; exact wired_opened h hk hstate
          · rw [if_neg hstate]; exact h
  | message i data date =>
      dsimp only [TelemetryProvider.step]
      cases hk : s.sockets i with
      | none => exact h
      | some k =>
          dsimp only
          by_cases hstate : k.readyState = .opened
          · rw [if_pos hstate]; exact wired_onmessage h hk hstate data date
          · rw [if_neg hstate]; exact h
  | closing i =>
      dsimp only [TelemetryProvider.step]
      cases hk : s.sockets i with
      | none => exact h
      | some k =>
          dsimp only
          by_cases hstate : k.readyState = .opened
          · rw [if_pos hstate]; exact wired_closing h hk hstate
          · rw [if_neg hstate]; exact h
  | closed i failed =>
      dsimp only [TelemetryProvider.step]
      cases hk : s.sockets i with
      | none => exact h
      | some k =>
          dsimp only
          by_cases hstate : k.readyState = .closed
          · rw [if_pos hstate]; exact h
          · rw [if_neg hstate]; exact wired_ended h hk hstate failed
  | timeout t constructs =>
      dsimp only [TelemetryProvider.step]
      cases ht : s.timers t with
      | none => exact h
      | some r => exact wired_timeout h ht constructs

theorem wired_init : Wired {} where
  base := by
    refine ⟨fun i k hk => ?_, fun t r ht => ?_, fun i k hk => ?_, fun e i hvar => ?_,
      fun e he => ?_, fun e he => absurd he (Nat.not_lt_zero e), fun i k hk => ?_,
      fun i k hk => ?_⟩
    · cases hk
    · cases ht
    · cases hk
    · cases hvar
    · cases he
    · cases hk
    · cases hk
  driver e he := by cases he
  counted e he := by cases he
  quiet _ := ⟨fun i k hk => (by cases hk), fun _ => rfl⟩

theorem wired_after (os : List Occurrence) : Wired (after os) := by
  unfold after
  induction os using List.reverseRecOn with
  | nil => exact wired_init
  | append_singleton os o ih =>
      rw [List.foldl_append]
      exact wired_step ih o

/-! ## Manual retries -/

/-- The run was begun by a manual retry of a mounted provider. -/
def AskedFor (os : List Occurrence) (e : Nat) : Prop :=
  ∃ before constructs rest, os = before ++ .retryConnection constructs :: rest
    ∧ (after before).current.isSome = true ∧ (after before).runCount = e

/-- Every run keeps what is recorded of how it was begun. -/
def SameOrigins (s s' : TelemetryProvider) : Prop :=
  ∀ e, (s'.runs e).manual = (s.runs e).manual

theorem sameOrigins_update {s s' : TelemetryProvider} {e : Nat} (run : EffectRun)
    (hruns : s'.runs = Function.update s.runs e run) (hrun : run.manual = (s.runs e).manual) :
    SameOrigins s s' := by
  intro e'
  rw [hruns]
  by_cases h : e' = e
  · rw [h, Function.update_self, hrun]
  · rw [Function.update_of_ne h]

theorem sameOrigins_connect (s : TelemetryProvider) (e : Nat) (constructs : Bool) :
    SameOrigins s (s.connect e constructs) := by
  unfold connect
  split_ifs with hactive hnew
  · exact sameOrigins_update { s.runs e with socket := some s.socketCount } rfl rfl
  · rw [retry, if_pos hactive]
    exact sameOrigins_update { s.runs e with
      attempts := (s.runs e).attempts + 1, timer := some s.timerCount } rfl rfl
  · exact fun _ => rfl

theorem sameOrigins_cleanup (s : TelemetryProvider) (e : Nat) : SameOrigins s (s.cleanup e) :=
  sameOrigins_update { s.runs e with active := false } rfl rfl

theorem onerror_runs (s : TelemetryProvider) (e : Nat) : (s.onerror e).runs = s.runs := by
  unfold onerror
  split
  · split <;> rfl
  · rfl

theorem sameOrigins_retry (s : TelemetryProvider) (e : Nat) : SameOrigins s (s.retry e) := by
  unfold retry
  split_ifs
  · exact sameOrigins_update { s.runs e with
      attempts := (s.runs e).attempts + 1, timer := some s.timerCount } rfl rfl
  · exact fun _ => rfl

theorem sameOrigins_ended (s : TelemetryProvider) (i : Nat) (k : TelemetrySocket)
    (failed : Bool) : SameOrigins s (s.ended i k failed) := by
  have hclosed : ∀ s' : TelemetryProvider, s'.runs = s.runs →
      SameOrigins s (if k.onclose then s'.retry k.run else s') := by
    intro s' hs' e
    split_ifs
    · rw [sameOrigins_retry s' k.run e, hs']
    · rw [hs']
  unfold ended
  cases failed with
  | false => exact hclosed _ rfl
  | true => exact hclosed _ (onerror_runs _ _)

/-- **Only a manual retry begins a run that is recorded as one.** -/
theorem manual_step {s : TelemetryProvider} {o : Occurrence} {e : Nat}
    (h : ((s.step o).runs e).manual = true) :
    (s.runs e).manual = true
      ∨ ∃ constructs, o = .retryConnection constructs ∧ s.current.isSome = true
        ∧ s.runCount = e := by
  have hkept : SameOrigins s (s.step o) → (s.runs e).manual = true := fun hs => hs e ▸ h
  cases o with
  | mount constructs =>
      dsimp only [TelemetryProvider.step] at h hkept
      cases hcurrent : s.current with
      | some e' =>
          rw [hcurrent] at h
          exact Or.inl h
      | none =>
          rw [hcurrent] at h
          have hrun := (sameOrigins_connect _ s.runCount constructs e).symm.trans h
          -- the run just begun is the mount's own
          by_cases he : e = s.runCount
          · have hself := congrArg EffectRun.manual (beginRun_self s.initialDisplay false)
            rw [he] at hrun
            cases hself.symm.trans hrun
          · exact Or.inl ((congrArg EffectRun.manual (Function.update_of_ne he ..)).symm.trans hrun)
  | retryConnection constructs =>
      dsimp only [TelemetryProvider.step] at h hkept
      cases hcurrent : s.current with
      | none =>
          rw [hcurrent] at h
          exact Or.inl h
      | some e' =>
          rw [hcurrent] at h
          have hrun := (sameOrigins_connect _ s.runCount constructs e).symm.trans h
          -- the run just begun is the one the user asked for
          by_cases he : e = s.runCount
          · exact Or.inr ⟨constructs, rfl, rfl, he.symm⟩
          · have hold := (congrArg EffectRun.manual (Function.update_of_ne he ..)).symm.trans hrun
            exact Or.inl ((sameOrigins_cleanup s e' e).symm.trans hold)
  | unmount =>
      refine Or.inl (hkept ?_)
      dsimp only [TelemetryProvider.step]
      cases s.current with
      | none => exact fun _ => rfl
      | some e' => exact sameOrigins_cleanup s e'
  | opened i =>
      refine Or.inl (hkept ?_)
      dsimp only [TelemetryProvider.step]
      split
      · split_ifs
        · unfold onopen
          split_ifs <;> exact fun _ => rfl
        · exact fun _ => rfl
      · exact fun _ => rfl
  | message i data date =>
      refine Or.inl (hkept ?_)
      dsimp only [TelemetryProvider.step]
      split
      · rename_i k _
        split_ifs
        · unfold onmessage
          split_ifs
          · split
            · exact sameOrigins_update { s.runs k.run with attempts := 0 } rfl rfl
            · exact fun _ => rfl
          · exact fun _ => rfl
        · exact fun _ => rfl
      · exact fun _ => rfl
  | closing i =>
      refine Or.inl (hkept ?_)
      dsimp only [TelemetryProvider.step]
      split
      · split_ifs <;> exact fun _ => rfl
      · exact fun _ => rfl
  | closed i failed =>
      refine Or.inl (hkept ?_)
      dsimp only [TelemetryProvider.step]
      split
      · split_ifs
        · exact fun _ => rfl
        · exact sameOrigins_ended s i _ failed
      · exact fun _ => rfl
  | timeout t constructs =>
      refine Or.inl (hkept ?_)
      dsimp only [TelemetryProvider.step]
      split
      · exact fun e => sameOrigins_connect (s.dropTimer t) _ constructs e
      · exact fun _ => rfl

theorem askedFor_of_manual {os : List Occurrence} {e : Nat}
    (h : ((after os).runs e).manual = true) : AskedFor os e := by
  induction os using List.reverseRecOn with
  | nil => cases h
  | append_singleton os o ih =>
      have hlast : after (os ++ [o]) = (after os).step o := by
        unfold after
        rw [List.foldl_append]
        rfl
      rw [hlast] at h
      rcases manual_step h with hold | ⟨constructs, rfl, hmounted, hcount⟩
      · obtain ⟨before, constructs, rest, rfl, hb⟩ := ih hold
        exact ⟨before, constructs, rest ++ [o], by rw [List.append_assoc]; rfl, hb⟩
      · exact ⟨os, constructs, [], rfl, hmounted, hcount⟩

/-! ## Every run -/

/-- The sockets whose end the provider will hear of. -/
def TelemetryProvider.drivingSockets (s : TelemetryProvider) : Finset Nat :=
  (Finset.range s.socketCount).filter fun i => (s.sockets i).any fun k => decide k.driving

/-- The sockets that may deliver messages, now or later. -/
def TelemetryProvider.liveSockets (s : TelemetryProvider) : Finset Nat :=
  (Finset.range s.socketCount).filter fun i => (s.sockets i).any fun k => decide k.live

/-- The attempts that are scheduled. -/
def TelemetryProvider.pendingTimers (s : TelemetryProvider) : Finset Nat :=
  (Finset.range s.timerCount).filter fun t => (s.timers t).isSome

theorem mem_drivingSockets {s : TelemetryProvider} (h : Wired s) {i : Nat} :
    i ∈ s.drivingSockets ↔ ∃ k, s.sockets i = some k ∧ k.driving := by
  unfold TelemetryProvider.drivingSockets
  rw [Finset.mem_filter, Finset.mem_range, Option.any_eq_true]
  refine ⟨fun hi => ?_, fun hi => ?_⟩
  · obtain ⟨k, hk, hd⟩ := hi.2
    exact ⟨k, hk, of_decide_eq_true hd⟩
  · obtain ⟨k, hk, hd⟩ := hi
    exact ⟨h.base.freshSocket i k hk, k, hk, decide_eq_true hd⟩

theorem mem_liveSockets {s : TelemetryProvider} (h : Wired s) {i : Nat} :
    i ∈ s.liveSockets ↔ ∃ k, s.sockets i = some k ∧ k.live := by
  unfold TelemetryProvider.liveSockets
  rw [Finset.mem_filter, Finset.mem_range, Option.any_eq_true]
  refine ⟨fun hi => ?_, fun hi => ?_⟩
  · obtain ⟨k, hk, hl⟩ := hi.2
    exact ⟨k, hk, of_decide_eq_true hl⟩
  · obtain ⟨k, hk, hl⟩ := hi
    exact ⟨h.base.freshSocket i k hk, k, hk, decide_eq_true hl⟩

theorem mem_pendingTimers {s : TelemetryProvider} (h : Wired s) {t : Nat} :
    t ∈ s.pendingTimers ↔ s.timers t ≠ none := by
  unfold TelemetryProvider.pendingTimers
  rw [Finset.mem_filter, Finset.mem_range, Option.isSome_iff_ne_none]
  refine ⟨fun ht => ht.2, fun ht => ⟨?_, ht⟩⟩
  obtain ⟨r, hr⟩ := Option.ne_none_iff_exists'.mp ht
  exact h.base.freshTimer t r hr

/-- **A mounted provider has exactly one driver, an unmounted one has none.** After any events there
is one socket whose end it will hear of, or one scheduled attempt, and never both; and a socket
that could still deliver a message is that one. -/
theorem one_driver (os : List Occurrence) :
    (after os).drivingSockets.card + (after os).pendingTimers.card
        = (if (after os).current.isSome then 1 else 0)
      ∧ (after os).liveSockets ⊆ (after os).drivingSockets := by
  have h := wired_after os
  refine ⟨?_, fun i hi => ?_⟩
  · cases hcurrent : (after os).current with
    | none =>
        have hq := h.quiet hcurrent
        have hsockets : (after os).drivingSockets = ∅ :=
          Finset.eq_empty_of_forall_notMem fun i hi => by
            obtain ⟨k, hk, hd⟩ := (mem_drivingSockets h).mp hi
            exact hq.sockets i k hk hd
        have htimers : (after os).pendingTimers = ∅ :=
          Finset.eq_empty_of_forall_notMem fun t ht => (mem_pendingTimers h).mp ht (hq.timers t)
        rw [hsockets, htimers]
        rfl
    | some e =>
        cases h.driver e hcurrent with
        | @socket i k ha =>
            -- the socket is the only one and no timer is set
            have hsockets : (after os).drivingSockets = {i} := by
              ext j
              rw [mem_drivingSockets h, Finset.mem_singleton]
              refine ⟨fun hj => ?_, fun hj => ?_⟩
              · obtain ⟨k', hk', hd⟩ := hj
                exact ha.alone j k' hk' hd
              · rw [hj]; exact ⟨k, ha.socket, ha.driving⟩
            have htimers : (after os).pendingTimers = ∅ :=
              Finset.eq_empty_of_forall_notMem fun t ht =>
                (mem_pendingTimers h).mp ht (ha.timers t)
            rw [hsockets, htimers]
            rfl
        | @timer t r hw =>
            -- the timer is the only one and no socket drives
            have hsockets : (after os).drivingSockets = ∅ :=
              Finset.eq_empty_of_forall_notMem fun i hi => by
                obtain ⟨k, hk, hd⟩ := (mem_drivingSockets h).mp hi
                exact hw.sockets i k hk hd
            have htimers : (after os).pendingTimers = {t} := by
              ext t'
              rw [mem_pendingTimers h, Finset.mem_singleton]
              refine ⟨hw.alone t', fun ht' => ?_⟩
              rw [ht', hw.timer]
              simp
            rw [hsockets, htimers]
            rfl
  · obtain ⟨k, hk, hlive⟩ := (mem_liveSockets h).mp hi
    refine (mem_drivingSockets h).mpr ⟨k, hk, h.base.live i k hk hlive, ?_⟩
    rcases hlive with hl | hl <;> rw [hl] <;> simp

theorem retryDelay_bounds {n : Nat} (h : 1 ≤ n) : 2000 ≤ retryDelay n ∧ retryDelay n ≤ 30000 := by
  have hpow : 2 ^ 1 ≤ 2 ^ min n 5 := Nat.pow_le_pow_right (by omega) (by omega)
  unfold retryDelay
  omega

/-- **What is shown of the connection.** While an attempt is scheduled the dashboard says that it is
not connected, and the attempt comes after the delay of the failures it counts, from two to thirty
seconds. It says that it is connected when its socket has opened, and while it says so there is a
socket, which can still be opening only in a run that the user asked for by a manual retry. It says
that the connection has failed from the fifth failure on. -/
theorem connection_shown (os : List Occurrence) :
    (∀ t r, (after os).timers t = some r →
        (after os).current = some r.run ∧ (after os).isConnected = false
        ∧ r.delay = retryDelay (after os).reconnectCount ∧ 2000 ≤ r.delay ∧ r.delay ≤ 30000)
      ∧ (∀ i k, (after os).sockets i = some k → k.driving →
        (k.readyState ≠ .connecting → (after os).isConnected = true)
        ∧ ((after os).isConnected = true →
          k.readyState ≠ .connecting ∨ AskedFor os k.run))
      ∧ ((after os).current.isSome = true →
        ((after os).isConnectionFailed = true ↔ 5 ≤ (after os).reconnectCount)) := by
  have h := wired_after os
  refine ⟨fun t r ht => ?_, fun i k hk hd => ?_, fun hmounted => ?_⟩
  · obtain ⟨hcurrent, hw⟩ := h.waits ht
    have hcount := (h.counted _ hcurrent).reconnectCount
    have hdelay : r.delay = retryDelay (after os).reconnectCount := hw.delay.trans (by rw [hcount])
    obtain ⟨hlow, hhigh⟩ := retryDelay_bounds (n := (after os).reconnectCount)
      (by rw [hcount]; exact hw.attempts)
    exact ⟨hcurrent, hw.isConnected, hdelay, by rw [hdelay]; exact hlow,
      by rw [hdelay]; exact hhigh⟩
  · obtain ⟨-, ha⟩ := h.attached hk hd
    refine ⟨ha.connected, fun hup => ?_⟩
    -- a socket still connecting under a shown connection is that of a manual retry
    by_cases hstate : k.readyState = .connecting
    · have hrun : ((after os).runs k.run).manual = true := ha.carried hup hstate
      exact Or.inr (askedFor_of_manual hrun)
    · exact Or.inl hstate
  · obtain ⟨e, he⟩ := Option.isSome_iff_exists.mp hmounted
    obtain ⟨hcount, hfailed⟩ := h.counted e he
    rw [hfailed, hcount, decide_eq_true_iff]

/-! ## Old runs -/

/-- What the provider shows. -/
def TelemetryProvider.shown (s : TelemetryProvider) :
    Option Json × Bool × Option Rat × Nat × Bool :=
  (s.telemetry, s.isConnected, s.lastUpdated, s.reconnectCount, s.isConnectionFailed)

/-- Only the sockets may have changed. -/
structure SameButSockets (s s' : TelemetryProvider) : Prop where
  shown : s'.shown = s.shown
  runs : s'.runs = s.runs
  current : s'.current = s.current
  timers : s'.timers = s.timers

theorem sameButSockets_onerror (s : TelemetryProvider) (e : Nat) :
    SameButSockets s (s.onerror e) := by
  unfold onerror
  cases (s.runs e).socket with
  | none => exact ⟨rfl, rfl, rfl, rfl⟩
  | some i =>
      dsimp only
      cases s.sockets i with
      | none => exact ⟨rfl, rfl, rfl, rfl⟩
      | some k => exact ⟨rfl, rfl, rfl, rfl⟩

theorem sameButSockets_ended {s : TelemetryProvider} {i : Nat} {k : TelemetrySocket}
    (hinactive : (s.runs k.run).active = false) (failed : Bool) :
    SameButSockets s (s.ended i k failed) := by
  have hretry : ∀ s' : TelemetryProvider, SameButSockets s s' →
      SameButSockets s (if k.onclose then s'.retry k.run else s') := by
    intro s' hs'
    by_cases hon : k.onclose = true
    · rw [if_pos hon, retry, if_neg (by rw [hs'.runs, hinactive]; simp)]
      exact hs'
    · rw [if_neg hon]
      exact hs'
  unfold ended
  cases failed with
  | false => exact hretry _ ⟨rfl, rfl, rfl, rfl⟩
  | true =>
      have herror := sameButSockets_onerror (s.setSocket i { k with readyState := .closed }) k.run
      exact hretry _ ⟨herror.shown, herror.runs, herror.current, herror.timers⟩

/-- **A run that has been cleaned up is silent.** Whatever the browser still reports of its sockets
changes nothing that is shown, no run and no timer; and none of its timers is left. -/
theorem old_run_silent (os : List Occurrence) {o : Occurrence} {i : Nat} {k : TelemetrySocket}
    (ho : o.socket = some i) (hk : (after os).sockets i = some k)
    (hold : (after os).current ≠ some k.run) :
    SameButSockets (after os) (after (os ++ [o]))
      ∧ ∀ t r, (after os).timers t = some r → r.run ≠ k.run := by
  have h := wired_after os
  -- only the current run is active
  have hinactive := h.base.inactive k.run (h.base.socketRun i k hk) hold
  have hstep : after (os ++ [o]) = (after os).step o := by
    unfold after
    rw [List.foldl_append]
    rfl
  refine ⟨?_, fun t r ht heq => hold (heq ▸ (h.waits ht).1)⟩
  rw [hstep]
  cases o with
  | mount => cases ho
  | retryConnection => cases ho
  | unmount => cases ho
  | timeout => cases ho
  | opened j =>
      obtain rfl := Option.some.inj ho
      dsimp only [TelemetryProvider.step]
      rw [hk]
      dsimp only
      by_cases hstate : k.readyState = .connecting
      · have hoff : ((after os).setSocket j { k with readyState := .opened }).runs k.run
            = (after os).runs k.run := rfl
        rw [if_pos hstate, onopen, if_neg (by rw [hoff, hinactive]; simp)]
        exact ⟨rfl, rfl, rfl, rfl⟩
      · rw [if_neg hstate]
        exact ⟨rfl, rfl, rfl, rfl⟩
  | message j data date =>
      obtain rfl := Option.some.inj ho
      dsimp only [TelemetryProvider.step]
      rw [hk]
      dsimp only
      by_cases hstate : k.readyState = .opened
      · rw [if_pos hstate, onmessage, if_neg (by rw [hinactive]; simp)]
        exact ⟨rfl, rfl, rfl, rfl⟩
      · rw [if_neg hstate]
        exact ⟨rfl, rfl, rfl, rfl⟩
  | closing j =>
      obtain rfl := Option.some.inj ho
      dsimp only [TelemetryProvider.step]
      rw [hk]
      dsimp only
      by_cases hstate : k.readyState = .opened
      · rw [if_pos hstate]
        exact ⟨rfl, rfl, rfl, rfl⟩
      · rw [if_neg hstate]
        exact ⟨rfl, rfl, rfl, rfl⟩
  | closed j failed =>
      obtain rfl := Option.some.inj ho
      dsimp only [TelemetryProvider.step]
      rw [hk]
      dsimp only
      by_cases hstate : k.readyState = .closed
      · rw [if_pos hstate]
        exact ⟨rfl, rfl, rfl, rfl⟩
      · rw [if_neg hstate]
        exact sameButSockets_ended hinactive failed

/-- The connection that the user gave up fails after the new one has opened. -/
theorem old_run_silent_closed :
    SameButSockets (after [.mount true, .retryConnection true, .opened 1])
        (after ([.mount true, .retryConnection true, .opened 1] ++ [.closed 0 true]))
      ∧ ∀ t r, (after [.mount true, .retryConnection true, .opened 1]).timers t = some r →
        r.run ≠ 0 :=
  old_run_silent (k := { run := 0, readyState := .closing, onclose := false })
    [.mount true, .retryConnection true, .opened 1] rfl rfl (by decide)

end SmartTraffic.Web
