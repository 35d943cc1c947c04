import SmartTraffic.Pipeline.Phase
import SmartTraffic.Rest.Service
import SmartTraffic.Server.Change

/-!
# What a stretch of the REST service does

The settings, the running flag, the log and the requests that wait, after any one stretch.
Nothing but a request touches them: the cameras, the ticker and the coordinator can stop the
system at most.
-/

namespace SmartTraffic.Proof

open SmartTraffic Lib Rest

/-! ## The cameras do not start the system -/

theorem completeRegistration_running (py : Python) (s : Server) (r : Reading)
    (reg : Registration) :
    (s.completeRegistration py r reg).server.systemRunning = s.systemRunning := by
  unfold Server.completeRegistration
  dsimp only
  rw [echo_server]
  rfl

theorem handleRegisterCamera_running (py : Python) (s : Server) (r : Reading)
    (raw : Dict String Json) (websocket : Socket) :
    (s.handleRegisterCamera py r raw websocket).server.systemRunning = s.systemRunning := by
  unfold Server.handleRegisterCamera
  dsimp only
  split_ifs
  · unfold Server.registerNode
    dsimp only
    split_ifs
    · rfl
    · rfl
    · split
      · unfold Server.connect
        dsimp only
        split_ifs
        · rfl
        · exact completeRegistration_running py _ r _
      · rfl
  · rfl

theorem enqueueFrame_running (s : Server) (r : Reading) (d : String) (payload : Dict String Json)
    (decoded : Bool) (owner : Socket) :
    (s.enqueueFrame r d payload decoded owner).server.systemRunning = s.systemRunning := by
  unfold Server.enqueueFrame
  split_ifs
  · rfl
  all_goals
    dsimp only
    split
    · rfl
    · rfl

theorem handleVideoFrame_running (py : Python) (s : Server) (r : Reading)
    (payload : Dict String Json) (decoded : Bool) (owner : Socket) :
    (s.handleVideoFrame py r payload decoded owner).server.systemRunning = s.systemRunning := by
  unfold Server.handleVideoFrame
  split_ifs
  · rfl
  · split
    · exact enqueueFrame_running s r _ payload decoded owner
    · rfl

theorem submitDecodedFrame_running (py : Python) (s : Server) (r : Reading)
    (direction nodeId token : String) (websocket : Socket) (frameId : Int) (receivedMs : Rat) :
    (s.submitDecodedFrame py r direction nodeId token websocket frameId
      receivedMs).server.systemRunning = s.systemRunning := by
  unfold Server.submitDecodedFrame
  dsimp only
  split
  · split_ifs
    · rfl
    · rfl
    · exact handleVideoFrame_running py _ r _ true websocket
  · rfl

theorem route_running (py : Python) (s : Server) (r : Reading) (raw payload : Dict String Json)
    (msgType : MessageType) (session : NodeSession) (websocket : Socket) :
    (s.route py r raw payload msgType session websocket).server.systemRunning
      = s.systemRunning := by
  unfold Server.route
  cases msgType with
  | videoFrame =>
      dsimp only
      split_ifs
      · rfl
      · rw [echo_server]
        exact handleVideoFrame_running py s r payload false websocket
  | heartbeat =>
      dsimp only
      rw [echo_server]
      unfold Server.handleHeartbeat
      dsimp only
      split
      · split <;> rfl
      · rfl
  | disconnect =>
      dsimp only
      unfold Server.handleDisconnect
      dsimp only
      split
      · split <;> rfl
      · rfl
  | startStream => dsimp only; split_ifs <;> rfl
  | stopStream | webrtcOffer | webrtcStop => rfl
  | registerCamera | registrationAck | heartbeatAck | error =>
      dsimp only
      rw [echo_server]
      rfl

theorem processAuthenticated_running (py : Python) (s : Server) (r : Reading)
    (raw : Dict String Json) (msgType : MessageType) (websocket : Socket) :
    (s.processAuthenticated py r raw msgType websocket).server.systemRunning
      = s.systemRunning := by
  unfold Server.processAuthenticated
  split
  · rfl
  · dsimp only
    split
    · rfl
    · split
      · rfl
      · split_ifs
        · rfl
        · split
          · rfl
          · rfl
          · exact route_running py _ r raw _ msgType _ websocket
    · rfl

theorem processMessage_running (py : Python) (s : Server) (r : Reading) (rawJson : Json)
    (websocket : Socket) :
    (s.processMessage py r rawJson websocket).server.systemRunning = s.systemRunning := by
  unfold Server.processMessage
  split
  · rfl
  · dsimp only
    split_ifs
    · rfl
    · rfl
    · split
      · rfl
      · rw [echo_server]
        exact handleRegisterCamera_running py s r _ websocket
      · exact processAuthenticated_running py s r _ _ websocket

/-- **Nothing but a request starts the system.** -/
theorem step_running (py : Python) (s : Server) (r : Reading) {action : Action}
    (h : isRequested action = false)
    (hrun : (s.step py (r, action)).1.systemRunning = true) : s.systemRunning = true := by
  rw [← hrun]
  cases action with
  | message rawJson websocket => exact (processMessage_running py s r rawJson websocket).symm
  | registered k =>
      unfold Server.step
      dsimp only
      split
      · rfl
      · rename_i reg _
        exact (completeRegistration_running py
          { s with registering := s.registering.eraseIdx k } r reg).symm
  | submitDecodedFrame d node token websocket frameId receivedMs =>
      exact (submitDecodedFrame_running py s r d node token websocket frameId receivedMs).symm
  | attachLocal d source =>
      show s.systemRunning = (s.attachLocal py r d source).systemRunning
      unfold Server.attachLocal
      split_ifs <;> rfl
  | updateHeartbeat node token =>
      show s.systemRunning = (s.updateHeartbeat r node token).systemRunning
      unfold Server.updateHeartbeat
      split <;> rfl
  | socketLost node websocket =>
      show s.systemRunning = (s.socketLost node websocket).systemRunning
      unfold Server.socketLost
      split_ifs <;> rfl
  | expire =>
      show s.systemRunning = (s.expire r).systemRunning
      unfold Server.expire
      split
      · rfl
      · split <;> rfl
  -- a failed output stops the system
  | outputFailed => cases hrun
  | takeBatch =>
      show s.systemRunning = s.takeBatch.systemRunning
      unfold Server.takeBatch
      split
      · split_ifs <;> rfl
      · rfl
  | batchDone outcomes =>
      show s.systemRunning = (s.batchDone outcomes).systemRunning
      unfold Server.batchDone
      split <;> rfl
  | batchRaises counted =>
      show s.systemRunning = (s.batchRaises counted).systemRunning
      unfold Server.batchRaises
      split <;> rfl
  | commit =>
      show s.systemRunning = (s.commit r).1.systemRunning
      unfold Server.commit
      split
      · rfl
      · dsimp only
        split
        · split_ifs <;> rfl
        · split <;> rfl
      · rfl
  | command | resetDone | disconnectCommand | disconnected | registerPairing | readPairing =>
      cases h

/-! ## What a stretch does -/

/-- What the operator has set. -/
def timing (s : ControlCentre) : Rat × Int × Int :=
  (s.confidence, s.world.pipeline.signalScheduler.minGreenSec,
    s.world.pipeline.signalScheduler.maxGreenSec)

def timingOf (settings : Settings) : Rat × Int × Int :=
  (settings.confidence, settings.minGreenSec, settings.maxGreenSec)

theorem processStep_bounds (w : PipelineWorld) (i : StepInput) :
    (w.processStep i).1.pipeline.signalScheduler.minGreenSec
        = w.pipeline.signalScheduler.minGreenSec
      ∧ (w.processStep i).1.pipeline.signalScheduler.maxGreenSec
        = w.pipeline.signalScheduler.maxGreenSec := by
  obtain ⟨c, h⟩ := PipelineWorld.processStep_signalScheduler w i
  rw [h]
  exact ⟨rfl, rfl⟩

/-- What requests are about, without the running flag. -/
def control (s : ControlCentre) := (timing s, s.logs, s.pending, s.received)

/-- A request of the kind that leads to this stage. -/
def Asks (conv : Conversions) (request : Request) (stage : Pending) : Prop :=
  ∀ settings, stage = .configuring settings →
    ∃ payload, request = .configure payload ∧ settingsOf conv payload = .ok settings

/-- The request is one that starts the system. -/
def Starts (request : Request) : Prop := ∃ c, request = .command c ∧ c ≠ .stop

/-- A request is taken on, and something of it is left to do. -/
structure Suspended (conv : Conversions) (s : ControlCentre) (request : Request) (stage : Pending)
    (s' : ControlCentre) : Prop where
  asks : Asks conv request stage
  running : s'.server.systemRunning = true → s.server.systemRunning = true ∨ Starts request
  control : control s' = (timing s, s.logs, s.pending.set s.received stage, s.received + 1)

/-- A request of which a result has come in is answered, and the result logged. -/
structure Finished (s : ControlCentre) (id : Nat) (message : Text) (s' : ControlCentre) : Prop where
  timing : timing s' = timing s
  running : s'.server.systemRunning = true → s.server.systemRunning = true
  logs : ∃ entry, entry.message = message ∧ s'.logs = addLog s.logs entry
  pending : s'.pending = s.pending.erase id

/-- **What a stretch does to what requests are about.** -/
inductive Stretch (conv : Conversions) (env : OperatorEnviron) (s : ControlCentre) :
    Activity → ControlCentre.Answered → Prop
  /-- Nothing. -/
  | quiet {a : Activity} {s' : ControlCentre} (control : control s' = control s)
      (running : s'.server.systemRunning = true → s.server.systemRunning = true) :
      Stretch conv env s a (s', none)
  /-- A request is answered at once, and has no success. -/
  | answered {token : Option Text} {request : Request} {hardware : Option HardwareStatus}
      {s' : ControlCentre} {response : Response}
      (control : control s' = (timing s, s.logs, s.pending, s.received + 1))
      (running : s'.server.systemRunning = true → s.server.systemRunning = true)
      (unsuccessful : ∀ message, response ≠ .success message) :
      Stretch conv env s (.request token request hardware) (s', some (s.received, response))
  | suspended {token : Option Text} {request : Request} {hardware : Option HardwareStatus}
      {s' : ControlCentre} {stage : Pending} (guarded : request.isGuarded = true)
      (verified : env.verify token = .ok ()) (suspended : Suspended conv s request stage s') :
      Stretch conv env s (.request token request hardware) (s', none)
  /-- A request has a success at once. -/
  | finishedAtOnce {token : Option Text} {request : Request} {hardware : Option HardwareStatus}
      {s' : ControlCentre} {message : Text} (guarded : request.isGuarded = true)
      (verified : env.verify token = .ok ())
      (finished : Finished s s.received message s') (received : s'.received = s.received + 1) :
      Stretch conv env s (.request token request hardware)
        (s', some (s.received, .success message))
  /-- The settings of a request are made. -/
  | configured {id : Nat} {settings : Settings} (message : Text) {s' : ControlCentre}
      (waits : s.pending.get? id = some (.configuring settings))
      (control : control s'
        = (timingOf settings, s.logs, s.pending.set id (.returning message), s.received))
      (running : s'.server.systemRunning = s.server.systemRunning) :
      Stretch conv env s (.thread id) (s', none)
  /-- A request comes closer to its answer. -/
  | advanced {a : Activity} {id : Nat} {stage : Pending} (stage' : Pending) {s' : ControlCentre}
      (waits : s.pending.get? id = some stage)
      (other : ∀ settings, stage' ≠ .configuring settings)
      (control : control s' = (timing s, s.logs, s.pending.set id stage', s.received))
      (running : s'.server.systemRunning = true → s.server.systemRunning = true) :
      Stretch conv env s a (s', none)
  | finished {id : Nat} {stage : Pending} {message : Text} {s' : ControlCentre}
      (waits : s.pending.get? id = some stage) (finished : Finished s id message s')
      (received : s'.received = s.received) :
      Stretch conv env s (.resume id) (s', some (id, .success message))

section

variable (py : Python) (conv : Conversions) (env : OperatorEnviron)

theorem resetDone_running (s : Server) : s.resetDone.systemRunning = s.systemRunning := by
  unfold Server.resetDone
  split_ifs <;> rfl

theorem disconnectCommand_running (s : Server) (r : Reading) (direction : String) :
    (s.disconnectCommand py r direction).systemRunning = s.systemRunning := by
  unfold Server.disconnectCommand
  split <;> rfl

theorem command_timing (w : PipelineWorld) (c : OperatorCommand) :
    (w.command c).pipeline.signalScheduler = w.pipeline.signalScheduler := by
  unfold PipelineWorld.command
  split_ifs <;> rfl

/-- Settings in range are made. -/
theorem configure_timing (w : PipelineWorld) (settings : Settings) :
    (w.configure settings.minGreenSec settings.maxGreenSec).pipeline.signalScheduler
      = { w.pipeline.signalScheduler with
          minGreenSec := settings.minGreenSec, maxGreenSec := settings.maxGreenSec } := by
  unfold PipelineWorld.configure
  rw [if_pos settings.green_mem]

theorem runThread_stretch (s : ControlCentre) (id : Nat) :
    Stretch conv env s (.thread id) (s.runThread id, none) := by
  unfold ControlCentre.runThread
  split
  · rename_i c hwaits
    refine .advanced (.reset c) hwaits (fun settings h => ?_) ?_ fun h => h
    · cases h
    · show (timing _, _, _, _) = (timing s, _, _, _)
      unfold timing
      rw [command_timing]
  · rename_i settings hwaits
    refine .configured "Confidence applied; timing bounds apply from the next phase".toList
      hwaits ?_ rfl
    show (timing _, _, _, _) = (timingOf settings, _, _, _)
    unfold timing
    rw [configure_timing]
    rfl
  · exact .quiet rfl fun h => h

theorem finish_finished (s : ControlCentre) (r : Reading) (id : Nat) (message : Text) :
    Finished s id message (s.finish r id message).1 :=
  ⟨rfl, fun h => h, ⟨_, rfl, rfl⟩, rfl⟩

theorem resume_stretch (s : ControlCentre) (r : Reading) (id : Nat) :
    Stretch conv env s (.resume id) (s.resume r id) := by
  unfold ControlCentre.resume
  split
  · rename_i c hwaits
    refine .advanced (.returning (acknowledgement c)) hwaits (fun settings h => ?_) rfl
      fun h => ?_
    · cases h
    · rw [← resetDone_running]
      exact h
  · rename_i direction hwaits
    exact .finished hwaits ⟨rfl, fun h => h, ⟨_, rfl, rfl⟩, rfl⟩ rfl
  · rename_i message hwaits
    exact .finished hwaits (finish_finished s r id message) rfl
  · exact .quiet rfl fun h => h

theorem command_stretch (s : ControlCentre) {token : Option Text} {c : OperatorCommand}
    (hardware : Option HardwareStatus) (hverified : env.verify token = .ok ()) :
    Stretch conv env s (.request token (.command c) hardware)
      ({ s with received := s.received + 1 }.command s.received c hardware) := by
  -- a stop never leaves the system running
  have hrunning : ∀ safe, (s.server.handleCommand c safe).systemRunning = true → c ≠ .stop := by
    intro safe h
    unfold Server.handleCommand at h
    split_ifs at h with hrefused hresets
    · simpa using h
    · rintro rfl
      exact hresets rfl
  -- however the rest of the command waits, the flag is set now
  have hsuspended : ∀ stage, (∀ settings, stage ≠ .configuring settings) →
      ∀ s', control s' = (timing s, s.logs, s.pending.set s.received stage, s.received + 1) →
      s'.server = s.server.handleCommand c (hardware.all hardwareIsSafeToRun) →
      Stretch conv env s (.request token (.command c) hardware) (s', none) := by
    intro stage hstage s' hcontrol hserver
    refine .suspended rfl hverified ⟨fun settings h => absurd h (hstage settings), fun h => ?_,
      hcontrol⟩
    rw [hserver] at h
    exact Or.inr ⟨c, rfl, hrunning _ h⟩
  unfold ControlCentre.command
  cases hardware with
  | none =>
      dsimp only
      split_ifs
      · exact hsuspended (.resetting c) (fun _ h => by cases h) _ rfl rfl
      · exact hsuspended (.returning _) (fun _ h => by cases h) _ rfl rfl
  | some status =>
      dsimp only
      split_ifs with hrefused hresets
      · -- an unsafe controller is answered at once, with the system off
        refine .answered rfl (fun h => ?_) fun _ h => by cases h
        change (s.server.handleCommand c (hardwareIsSafeToRun status)).systemRunning = true at h
        unfold Server.handleCommand at h
        rw [if_pos hrefused] at h
        cases h
      · exact hsuspended (.resetting c) (fun _ h => by cases h) _ rfl rfl
      · exact hsuspended (.returning _) (fun _ h => by cases h) _ rfl rfl

theorem operate_stretch (s : ControlCentre) (r : Reading) {token : Option Text}
    {request : Request} (hardware : Option HardwareStatus)
    (hverified : request.isGuarded = true → env.verify token = .ok ()) :
    Stretch conv env s (.request token request hardware)
      ({ s with received := s.received + 1 }.operate py conv r s.received request hardware) := by
  unfold ControlCentre.operate
  cases request with
  | command c => exact command_stretch conv env s hardware (hverified rfl)
  | configure payload =>
      dsimp only
      unfold ControlCentre.configure
      cases hsettings : settingsOf conv payload with
      | error e => exact .answered rfl (fun h => h) fun _ h => by cases h
      | ok settings =>
          -- the settings wait until the pipeline takes them
          refine .suspended rfl (hverified rfl) ⟨fun settings' h => ?_, fun h => Or.inl h, rfl⟩
          cases h
          exact ⟨payload, rfl, hsettings⟩
  | disconnectCamera direction =>
      dsimp only
      cases directionValue direction with
      | error e => exact .answered rfl (fun h => h) fun _ h => by cases h
      | ok direction =>
          dsimp only
          have hrunning := disconnectCommand_running py s.server r direction
          unfold ControlCentre.disconnectCamera
          dsimp only
          split_ifs
          · refine .suspended rfl (hverified rfl) ⟨fun _ h => (by cases h), fun h => Or.inl ?_, rfl⟩
            rw [← hrunning]
            exact h
          · refine .finishedAtOnce rfl (hverified rfl) ⟨rfl, fun h => ?_, ⟨_, rfl, rfl⟩, rfl⟩ rfl
            rw [← hrunning]
            exact h
  | configureCamera direction =>
      dsimp only
      cases directionValue direction with
      | error e => exact .answered rfl (fun h => h) fun _ h => by cases h
      | ok direction => exact .answered rfl (fun h => h) fun _ h => by cases h
  | generateQr direction suffix pictureFails =>
      dsimp only
      cases directionValue direction with
      | error e => exact .answered rfl (fun h => h) fun _ h => by cases h
      | ok direction =>
          dsimp only
          unfold ControlCentre.generateQr
          dsimp only
          split_ifs
          · exact .answered rfl (fun h => h) fun _ h => by cases h
          · exact .answered rfl (fun h => h) fun _ h => by cases h
  | mobileNodes => exact .answered rfl (fun h => h) fun _ h => by cases h
  | logs query =>
      dsimp only
      split_ifs
      · exact .answered rfl (fun h => h) fun _ h => by cases h
      · exact .answered rfl (fun h => h) fun _ h => by cases h

theorem receive_stretch (s : ControlCentre) (r : Reading) (token : Option Text)
    (request : Request) (hardware : Option HardwareStatus) :
    Stretch conv env s (.request token request hardware)
      (s.receive py conv env r token request hardware) := by
  unfold ControlCentre.receive
  dsimp only
  split
  · exact .answered rfl (fun h => h) fun _ h => by cases h
  · rename_i hverified
    refine operate_stretch py conv env s r hardware fun hguarded => ?_
    rw [if_pos hguarded] at hverified
    exact hverified

/-- **Every stretch is one of these.** -/
theorem step_stretch (s : ControlCentre) (i : Reading × Activity) :
    Stretch conv env s i.2 (s.step py conv env i) := by
  obtain ⟨r, activity⟩ := i
  unfold ControlCentre.step
  cases activity with
  | request token request hardware => exact receive_stretch py conv env s r token request hardware
  | thread id => exact runThread_stretch conv env s id
  | resume id => exact resume_stretch conv env s r id
  | server action =>
      dsimp only
      split_ifs with hrequested
      · exact .quiet rfl fun h => h
      · exact .quiet rfl fun h => step_running py s.server r (by simpa using hrequested) h
  | process input =>
      refine .quiet ?_ fun h => h
      show (timing _, _, _, _) = (timing s, _, _, _)
      unfold timing
      rw [(processStep_bounds s.world input).1, (processStep_bounds s.world input).2]

end

end SmartTraffic.Proof
