import SmartTraffic.Proof.Output

/-!
# What the serial status says about a command

The status has two fields for one fact, whether the port is connected, and a result for
each command. Both can come apart. A command that gets no acknowledgement is accepted
whatever the status says, and `connect` on a connected interface leaves `connected` as it
was until the port has answered. In every other case they agree, in any order of calls.
-/

namespace SmartTraffic

open Lib

/-- The interface is in the mode it was built for; a simulated one is never connected. -/
structure ESP32Interface.InMode (cfg : ESP32Config) (e : ESP32Interface) : Prop where
  mode : e.status.simulationMode = cfg.simulationMode
  simulated : cfg.simulationMode = true → e.status.connected = false

/-- The two fields agree. -/
def HardwareStatus.Consistent (s : HardwareStatus) : Prop :=
  s.connected = true ↔ s.connectionState = .connected

/-- `send_command` takes the command without an acknowledgement: in simulation, or on an
open port that answers nothing. -/
def ESP32Interface.Unacknowledged (e : ESP32Interface) (reply : SerialReply) : Prop :=
  e.status.simulationMode = true
    ∨ (e.hasSerialConn = true ∧ reply.isOpen = true ∧ reply.transmit.toOption = some "")

/-- No command is accepted unacknowledged in a status that is not safe, and no port that
does not open takes the place of a connected one. -/
def ESP32Config.Allowed (cfg : ESP32Config) (e : ESP32Interface) : SerialCall → Prop
  | .connect opening => cfg.simulationMode = false → cfg.port.getD "" ≠ "" →
      opening = .opened false → e.status.connected = false
  | .sendCommand _ reply => e.Unacknowledged reply → hardwareIsSafeToRun e.status = true
  | .reconnect _ _ => True
  | .close _ => True

variable {cfg : ESP32Config} {e : ESP32Interface}

/-! ## Opening and closing -/

theorem connect_simulationMode {port : Option String} {opening : SerialOpening}
    (h : e.status.simulationMode = false) :
    (e.connect port opening).status.simulationMode = false := by
  unfold ESP32Interface.connect
  by_cases hmissing : opening = .unavailable ∨ port.getD "" = ""
  · rw [if_pos hmissing]
    exact h
  · rw [if_neg hmissing]
    cases opening with
    | unavailable => exact h
    | raises hasConn error => rfl
    | opened isOpen =>
        cases isOpen with
        | true => rfl
        | false => exact h

/-- **What `connect` leaves behind.** The one branch that leaves `connected` alone is that
of a port that does not open. -/
theorem consistent_connect {port : Option String} {opening : SerialOpening} :
    (e.connect port opening).status.Consistent
      ↔ (port.getD "" ≠ "" → opening = .opened false → e.status.connected = false) := by
  unfold ESP32Interface.connect HardwareStatus.Consistent
  by_cases hmissing : opening = .unavailable ∨ port.getD "" = ""
  · rw [if_pos hmissing]
    refine iff_of_true (by simp) fun hport hopening => ?_
    rcases hmissing with hmissing | hmissing
    · rw [hmissing] at hopening
      cases hopening
    · exact absurd hmissing hport
  · rw [if_neg hmissing]
    rw [not_or] at hmissing
    cases opening with
    | unavailable => exact absurd rfl hmissing.1
    | raises hasConn error => simp
    | opened isOpen => cases isOpen <;> simp [hmissing.2]

theorem inMode_connect (h : e.InMode cfg) (opening : SerialOpening) :
    (cfg.connect e opening).1.InMode cfg := by
  unfold ESP32Config.connect
  by_cases hsim : cfg.simulationMode = true
  · rw [if_pos hsim]
    exact ⟨h.mode, h.simulated⟩
  · rw [if_neg hsim]
    refine ⟨?_, fun hsim' => absurd hsim' hsim⟩
    rw [Bool.not_eq_true] at hsim
    rw [hsim]
    exact connect_simulationMode (h.mode.trans hsim)

theorem keeping_eq_opened {opening : SerialOpening} {isOpen : Bool} :
    opening.keeping e = .opened isOpen ↔ opening = .opened isOpen := by
  cases opening <;> simp [SerialOpening.keeping]

theorem consistent_connect_iff (h : e.InMode cfg) (opening : SerialOpening) :
    (cfg.connect e opening).1.status.Consistent ↔ cfg.Allowed e (.connect opening) := by
  unfold ESP32Config.connect ESP32Config.Allowed
  by_cases hsim : cfg.simulationMode = true
  · rw [if_pos hsim]
    unfold HardwareStatus.Consistent
    simp [h.simulated hsim, hsim]
  · rw [if_neg hsim, consistent_connect, keeping_eq_opened]
    simp [hsim]

/-- A new interface is in its mode and its fields agree. -/
theorem inMode_build (opening : SerialOpening) : (cfg.build opening).InMode cfg := by
  unfold ESP32Config.build ESP32Interface.create
  by_cases hsim : cfg.simulationMode = true
  · simp only [hsim, if_true]
    exact ⟨hsim.symm, fun _ => rfl⟩
  · rw [Bool.not_eq_true] at hsim
    simp only [hsim]
    refine ⟨?_, fun hsim' => absurd hsim' (by simp [hsim])⟩
    rw [hsim]
    exact connect_simulationMode rfl

theorem consistent_build (opening : SerialOpening) : (cfg.build opening).status.Consistent := by
  unfold ESP32Config.build ESP32Interface.create
  cases hsim : cfg.simulationMode
  · exact consistent_connect.mpr fun _ _ => rfl
  · simp [HardwareStatus.Consistent]

/-! ## Commands -/

theorem inMode_sendCommand (h : e.InMode cfg) (cmd : HardwareCommand) (reply : SerialReply) :
    (e.sendCommand cmd reply).2.InMode cfg := by
  obtain ⟨hmode, hcases⟩ := sendCommand_cases e cmd reply
  refine ⟨hmode.trans h.mode, fun hsim => ?_⟩
  have hsimulated : e.status.simulationMode = true := h.mode.trans hsim
  rcases hcases with ⟨-, -, hconnected, -⟩ | ⟨hack, -⟩ | ⟨hack, -⟩
  · exact hconnected.trans (h.simulated hsim)
  · exact absurd (Or.inl hsimulated) hack
  · exact absurd (Or.inl hsimulated) hack

theorem consistent_sendCommand (h : e.status.Consistent) (cmd : HardwareCommand)
    (reply : SerialReply) : (e.sendCommand cmd reply).2.status.Consistent := by
  unfold HardwareStatus.Consistent at h ⊢
  obtain ⟨-, ⟨-, -, hconnected, hstate⟩ | ⟨-, -, hconnected, hstate⟩ |
    ⟨-, -, hconnected, hstate⟩⟩ := sendCommand_cases e cmd reply
  · rw [hconnected, hstate]
    exact h
  · exact iff_of_true hconnected hstate
  · rw [hconnected]
    rcases hstate with hstate | hstate <;> simp [hstate]

/-- **A command that is taken leaves a safe status exactly if it is acknowledged or found
one.** -/
theorem safe_of_sent_iff (cmd : HardwareCommand) (reply : SerialReply) :
    ((e.sendCommand cmd reply).1 = true →
        hardwareIsSafeToRun (e.sendCommand cmd reply).2.status = true)
      ↔ cfg.Allowed e (.sendCommand cmd reply) := by
  unfold ESP32Config.Allowed ESP32Interface.Unacknowledged
  obtain ⟨-, ⟨hunack, hsent, -, hstate⟩ | ⟨hack, -, -, hstate⟩ | ⟨hack, hlost, -⟩⟩ :=
    sendCommand_cases e cmd reply
  · -- the status is as safe as it was
    have hsame : hardwareIsSafeToRun (e.sendCommand cmd reply).2.status
        = hardwareIsSafeToRun e.status := by
      unfold hardwareIsSafeToRun
      rw [hstate]
    rw [hsame]
    exact ⟨fun h _ => h hsent, fun h _ => h hunack⟩
  · exact iff_of_true (fun _ => safe_of_connected hstate) fun h => absurd h hack
  · refine iff_of_true (fun h => ?_) fun h => absurd h hack
    rw [hlost] at h
    cases h

/-! ## Runs -/

/-- What is asked of one call: a command that is taken leaves a safe status, and the
two fields agree. -/
structure TellsTruth (event : Event ESP32Interface SerialCall (Option Bool)) : Prop where
  delivered : ∀ cmd reply, event.input = .sendCommand cmd reply → event.out = some true →
    hardwareIsSafeToRun event.post.status = true
  consistent : event.post.status.Consistent

theorem inMode_dropConnection (h : e.InMode cfg) : e.dropConnection.InMode cfg :=
  ⟨h.mode, fun _ => rfl⟩

theorem inMode_call (h : e.InMode cfg) (call : SerialCall) : (cfg.call e call).1.InMode cfg := by
  cases call with
  | connect opening => exact inMode_connect h opening
  | reconnect closing opening => exact inMode_connect (inMode_dropConnection h) opening
  | sendCommand cmd reply => exact inMode_sendCommand h cmd reply
  | close closing => exact ⟨h.mode, fun _ => rfl⟩

/-- **One call tells the truth exactly if it is allowed.** -/
theorem tellsTruth_iff (h : e.InMode cfg) (hc : e.status.Consistent) (call : SerialCall) :
    TellsTruth (eventOf cfg.call e call) ↔ cfg.Allowed e call := by
  have hother : (∀ cmd reply, call ≠ .sendCommand cmd reply) →
      (TellsTruth (eventOf cfg.call e call) ↔ (cfg.call e call).1.status.Consistent) := by
    intro hno
    exact ⟨fun htruth => htruth.consistent,
      fun hpost => ⟨fun cmd reply hcall => absurd hcall (hno cmd reply), hpost⟩⟩
  cases call with
  | connect opening =>
      rw [hother (by simp)]
      exact consistent_connect_iff h opening
  | reconnect closing opening =>
      rw [hother (by simp)]
      have hdropped := inMode_dropConnection h
      exact iff_of_true ((consistent_connect_iff hdropped opening).mpr fun _ _ _ => rfl) trivial
  | sendCommand cmd reply =>
      rw [← safe_of_sent_iff cmd reply]
      constructor
      · intro htruth hsent
        exact htruth.delivered cmd reply rfl (congrArg some hsent)
      · intro hsafe
        refine ⟨fun cmd' reply' _ hout => hsafe (Option.some.inj hout), ?_⟩
        exact consistent_sendCommand hc cmd reply
  | close closing =>
      rw [hother (by simp)]
      exact iff_of_true (by simp [ESP32Config.call, ESP32Interface.close,
        ESP32Interface.dropConnection, HardwareStatus.Consistent]) trivial

namespace Proof

/--
**Where the serial status tells the truth.** Take any configuration, any opening of
the port in the constructor and any sequence of calls, with any behaviour of the port.
Every call tells the truth exactly if no call takes an unacknowledged command in a status
that is not safe and none connects again, while connected, to a port that does not open.
-/
theorem serial_tells_truth_iff (cfg : ESP32Config) (opening : SerialOpening)
    (calls : List SerialCall) :
    (∀ event ∈ events cfg.call (cfg.build opening) calls, TellsTruth event)
      ↔ ∀ event ∈ events cfg.call (cfg.build opening) calls,
          cfg.Allowed event.pre event.input := by
  have hstep : ∀ e call, (e.InMode cfg ∧ e.status.Consistent) → cfg.Allowed e call →
      (cfg.call e call).1.InMode cfg ∧ (cfg.call e call).1.status.Consistent := by
    intro e call ⟨hmode, hc⟩ hallowed
    exact ⟨inMode_call hmode call, ((tellsTruth_iff hmode hc call).mpr hallowed).consistent⟩
  exact events_good_iff (fun e call h => tellsTruth_iff h.1 h.2 call) hstep
    ⟨inMode_build opening, consistent_build opening⟩ calls

/-- Three ways to be told otherwise: a simulated command after `close`, a silent one after an
error, and a second `connect` to a port that does not open. -/
theorem serial_status_lies :
    let cmd : HardwareCommand :=
      { phaseId := 3, greenLane := .south, greenDurationSec := 15, yellowDurationSec := 3
        redLanes := [.north, .east, .west], priorityScore := 9, reason := .normal
        reasonDetails := "Hardware lifecycle test", timestamp := 0 }
    let simulated : ESP32Config := {}
    let wired : ESP32Config := { port := some "TEST_PORT", simulationMode := false }
    ¬(∀ event ∈ events simulated.call (simulated.build .unavailable)
        [.close (.ok ()), .sendCommand cmd {}], TellsTruth event)
      ∧ ¬(∀ event ∈ events wired.call (wired.build (.opened true))
        [.sendCommand cmd { transmit := .error "write timeout" }, .sendCommand cmd {}],
        TellsTruth event)
      ∧ ¬(∀ event ∈ events wired.call (wired.build (.opened true)) [.connect (.opened false)],
        TellsTruth event) := by
  intro cmd simulated wired
  refine ⟨fun h => ?_, fun h => ?_, fun h => ?_⟩
  · have hsafe := (h _ (List.mem_cons_of_mem _ List.mem_cons_self)).delivered cmd {} rfl rfl
    exact absurd hsafe (by decide)
  · have hsafe := (h _ (List.mem_cons_of_mem _ List.mem_cons_self)).delivered cmd {} rfl
      (by decide)
    exact absurd hsafe (by decide)
  · have hiff := (h _ List.mem_cons_self).consistent
    unfold HardwareStatus.Consistent at hiff
    exact absurd hiff (by decide)

end Proof

end SmartTraffic
