import SmartTraffic.Lib.Run
import SmartTraffic.Proof.Ownership
import SmartTraffic.Rest.Stretch

/-!
# What a request can do

Requests are taken while others wait for a lock, for a thread or for a socket, so what the
system is set to at a moment may have been asked for long before. Whatever the order, it was
asked for by somebody whom the routes had verified.
-/

namespace SmartTraffic.Proof

open SmartTraffic Lib Rest

/-! ## Who has asked for it -/

section

variable {py : Python} {conv : Conversions} {env : OperatorEnviron}

/-- A verified request of a guarded route is among these activities. -/
def Verified (env : OperatorEnviron) (past : List (Reading × Activity)) (p : Request → Prop) :
    Prop :=
  ∃ r token request hardware, (r, Activity.request token request hardware) ∈ past
    ∧ request.isGuarded = true ∧ env.verify token = .ok () ∧ p request

theorem verified_append {past more : List (Reading × Activity)} {p : Request → Prop}
    (h : Verified env past p) : Verified env (past ++ more) p := by
  obtain ⟨r, token, request, hardware, hmem, hrest⟩ := h
  exact ⟨r, token, request, hardware, List.mem_append_left _ hmem, hrest⟩

theorem verified_last {past : List (Reading × Activity)} {r : Reading} {token : Option Text}
    {request : Request} {hardware : Option HardwareStatus} {p : Request → Prop}
    (hguarded : request.isGuarded = true) (hverified : env.verify token = .ok ())
    (hp : p request) : Verified env (past ++ [(r, .request token request hardware)]) p :=
  ⟨r, token, request, hardware, List.mem_append_right _ List.mem_cons_self, hguarded, hverified,
    hp⟩

/-- The request is one for these settings. -/
def AsksFor (conv : Conversions) (settings : Settings) (request : Request) : Prop :=
  ∃ payload, request = .configure payload ∧ settingsOf conv payload = .ok settings

/-- What the requests in the past account for, from `start` on. -/
structure OperatedBy (conv : Conversions) (env : OperatorEnviron) (start : ControlCentre)
    (past : List (Reading × Activity)) (s : ControlCentre) : Prop where
  timing : timing s = timing start
    ∨ ∃ settings, timing s = timingOf settings ∧ Verified env past (AsksFor conv settings)
  running : s.server.systemRunning = true →
    start.server.systemRunning = true ∨ Verified env past Starts
  /-- Settings that wait for the lock have been asked for. -/
  configuring : ∀ id settings, s.pending.get? id = some (.configuring settings) →
    Verified env past (AsksFor conv settings)
  pending : s.pending = ∅ ∨ Verified env past fun _ => True
  logs : s.logs = start.logs ∨ Verified env past fun _ => True

theorem operatedBy_nil {start : ControlCentre} (h : start.pending = ∅) :
    OperatedBy conv env start [] start where
  timing := Or.inl rfl
  running := Or.inl
  configuring id settings hget := by rw [h] at hget; cases hget
  pending := Or.inl h
  logs := Or.inl rfl

theorem OperatedBy.later {start s : ControlCentre} {past more : List (Reading × Activity)}
    (h : OperatedBy conv env start past s) : OperatedBy conv env start (past ++ more) s where
  timing := h.timing.imp_right fun ⟨settings, heq, hverified⟩ =>
    ⟨settings, heq, verified_append hverified⟩
  running hrun := (h.running hrun).imp_right verified_append
  configuring id settings hget := verified_append (h.configuring id settings hget)
  pending := h.pending.imp_right verified_append
  logs := h.logs.imp_right verified_append

theorem control_eq {s : ControlCentre} {t : Rat × Int × Int} {l : List LogEntry}
    {p : Dict Nat Pending} {n : Nat} (h : control s = (t, l, p, n)) :
    timing s = t ∧ s.logs = l ∧ s.pending = p ∧ s.received = n := by
  simpa [control] using h

/-- A request that waits is there because of one that was verified. -/
theorem OperatedBy.waits {start s : ControlCentre} {past : List (Reading × Activity)}
    (h : OperatedBy conv env start past s) {id : Nat} {stage : Pending}
    (hwaits : s.pending.get? id = some stage) : Verified env past fun _ => True := by
  refine h.pending.resolve_left fun hempty => ?_
  rw [hempty] at hwaits
  cases hwaits

/-- Another stage of a request does not bring settings. -/
theorem configuring_of_set {pending : Dict Nat Pending} {id id' : Nat} {stage : Pending}
    {settings : Settings} (hstage : ∀ settings, stage ≠ .configuring settings)
    (h : (pending.set id stage).get? id' = some (.configuring settings)) :
    pending.get? id' = some (.configuring settings) := by
  rw [Dict.get?_set] at h
  split_ifs at h with hid
  · exact absurd (Option.some.inj h) (hstage settings)
  · exact h

theorem operatedBy_step {start s : ControlCentre} {past : List (Reading × Activity)}
    (h : OperatedBy conv env start past s) (i : Reading × Activity) :
    OperatedBy conv env start (past ++ [i]) (s.step py conv env i).1 := by
  have hstretch := step_stretch py conv env s i
  have hlater : OperatedBy conv env start (past ++ [i]) s := h.later
  obtain ⟨r, activity⟩ := i
  dsimp only at hstretch
  generalize s.step py conv env (r, activity) = out at hstretch ⊢
  cases hstretch with
  | quiet hcontrol hrunning =>
      -- nothing of the control has changed
      obtain ⟨htiming, hlogs, hpending, -⟩ := control_eq hcontrol
      refine ⟨?_, fun hrun => hlater.running (hrunning hrun), ?_, ?_, ?_⟩
      · rw [htiming]; exact hlater.timing
      · rw [hpending]; exact hlater.configuring
      · rw [hpending]; exact hlater.pending
      · rw [hlogs]; exact hlater.logs
  | answered hcontrol hrunning _ =>
      obtain ⟨htiming, hlogs, hpending, -⟩ := control_eq hcontrol
      refine ⟨?_, fun hrun => hlater.running (hrunning hrun), ?_, ?_, ?_⟩
      · rw [htiming]; exact hlater.timing
      · rw [hpending]; exact hlater.configuring
      · rw [hpending]; exact hlater.pending
      · rw [hlogs]; exact hlater.logs
  | suspended hguarded hverified hsuspended =>
      -- a guarded request that was verified has begun to wait
      obtain ⟨htiming, hlogs, hpending, -⟩ := control_eq hsuspended.control
      refine ⟨?_, fun hrun => ?_, fun id settings hget => ?_,
        Or.inr (verified_last hguarded hverified trivial), ?_⟩
      · rw [htiming]; exact hlater.timing
      · rcases hsuspended.running hrun with hbefore | hstarts
        · exact hlater.running hbefore
        · exact Or.inr (verified_last hguarded hverified hstarts)
      · -- it waits with its own settings, and the others with theirs
        rw [hpending, Dict.get?_set] at hget
        split_ifs at hget
        · exact verified_last hguarded hverified
            (hsuspended.asks settings (Option.some.inj hget))
        · exact hlater.configuring id settings hget
      · rw [hlogs]; exact hlater.logs
  | finishedAtOnce hguarded hverified hfinished _ =>
      -- a verified request that never waited
      refine ⟨?_, fun hrun => hlater.running (hfinished.running hrun), fun id settings hget => ?_,
        Or.inr (verified_last hguarded hverified trivial),
        Or.inr (verified_last hguarded hverified trivial)⟩
      · rw [hfinished.timing]; exact hlater.timing
      · rw [hfinished.pending] at hget
        exact hlater.configuring id settings (Dict.get?_of_get?_erase _ hget).2
  | configured message hwaits hcontrol hrunning =>
      obtain ⟨htiming, hlogs, hpending, -⟩ := control_eq hcontrol
      -- the settings come from the request that was waiting
      refine ⟨Or.inr ⟨_, htiming, hlater.configuring _ _ hwaits⟩,
        fun hrun => hlater.running (hrunning ▸ hrun), fun id settings hget => ?_,
        Or.inr (hlater.waits hwaits), ?_⟩
      · rw [hpending] at hget
        exact hlater.configuring id settings (configuring_of_set (fun _ h => by cases h) hget)
      · rw [hlogs]; exact hlater.logs
  | advanced stage' hwaits hother hcontrol hrunning =>
      obtain ⟨htiming, hlogs, hpending, -⟩ := control_eq hcontrol
      refine ⟨?_, fun hrun => hlater.running (hrunning hrun), fun id settings hget => ?_,
        Or.inr (hlater.waits hwaits), ?_⟩
      · rw [htiming]; exact hlater.timing
      · rw [hpending] at hget
        exact hlater.configuring id settings (configuring_of_set hother hget)
      · rw [hlogs]; exact hlater.logs
  | finished hwaits hfinished _ =>
      -- what was waiting is answered, and waits no longer
      refine ⟨?_, fun hrun => hlater.running (hfinished.running hrun), fun id settings hget => ?_,
        Or.inr (hlater.waits hwaits), Or.inr (hlater.waits hwaits)⟩
      · rw [hfinished.timing]; exact hlater.timing
      · rw [hfinished.pending] at hget
        exact hlater.configuring id settings (Dict.get?_of_get?_erase _ hget).2

theorem operatedBy_run {start : ControlCentre} (h : start.pending = ∅)
    (run : List (Reading × Activity)) :
    OperatedBy conv env start run
      (final (ControlCentre.step py conv env) start run) := by
  induction run using List.reverseRecOn with
  | nil => exact operatedBy_nil h
  | append_singleton past i ih =>
      rw [final_append]
      exact operatedBy_step ih i

/-- A server that has started up turns nobody away but for the key. -/
theorem verify_of_startsUp (h : env.startsUp = true) (token : Option Text) :
    env.verify token = .ok () ∨ ∃ detail, env.verify token = .error ⟨401, detail⟩ := by
  unfold OperatorEnviron.verify
  dsimp only
  split_ifs with hrequired hkey hwrong hwrong
  · -- the start has found a key
    unfold OperatorEnviron.startsUp at h
    simp [hrequired, hkey] at h
  · exact Or.inr ⟨_, rfl⟩
  · exact Or.inl rfl
  · exact Or.inr ⟨_, rfl⟩
  · exact Or.inl rfl

/-- Where a key is required, a verified request carries it. -/
theorem verify_required (hrequired : env.isRequired = true) {token : Option Text}
    (h : env.verify token = .ok ()) : env.key ≠ [] ∧ stripSpaces (token.getD []) = env.key := by
  unfold OperatorEnviron.verify at h
  rw [if_pos hrequired] at h
  split_ifs at h with hkey htoken
  · simp only [not_or, not_not] at htoken
    exact ⟨hkey, htoken.2⟩

/-- A request of a guarded route with the operator's key is among these activities. -/
def WithKey (env : OperatorEnviron) (past : List (Reading × Activity)) (p : Request → Prop) :
    Prop :=
  ∃ r token request hardware, (r, Activity.request token request hardware) ∈ past
    ∧ request.isGuarded = true ∧ env.key ≠ [] ∧ stripSpaces (token.getD []) = env.key ∧ p request

theorem withKey_of_verified (hrequired : env.isRequired = true)
    {past : List (Reading × Activity)} {p : Request → Prop} (h : Verified env past p) :
    WithKey env past p := by
  obtain ⟨r, token, request, hardware, hmem, hguarded, hverified, hp⟩ := h
  obtain ⟨hkey, htoken⟩ := verify_required hrequired hverified
  exact ⟨r, token, request, hardware, hmem, hguarded, hkey, htoken, hp⟩

end

section

variable (py : Python) (conv : Conversions) (env : OperatorEnviron)

/--
**Without the operator's key nothing is operated.** Where the key is required, the settings in
force at the end of a run are those from its beginning or those of a request with the key; the
system runs only if it ran before or a request with the key has started it; and the log
records nothing new, nor does anything wait to be done, unless a request had the key.
-/
theorem operated_with_key (hrequired : env.isRequired = true) {start : ControlCentre}
    (hstart : start.pending = ∅) (run : List (Reading × Activity)) :
    (timing (final (ControlCentre.step py conv env) start run) = timing start
        ∨ ∃ settings, timing (final (ControlCentre.step py conv env) start run)
            = timingOf settings ∧ WithKey env run (AsksFor conv settings))
      ∧ ((final (ControlCentre.step py conv env) start run).server.systemRunning = true →
        start.server.systemRunning = true ∨ WithKey env run Starts)
      ∧ ((final (ControlCentre.step py conv env) start run).logs = start.logs
          ∧ (final (ControlCentre.step py conv env) start run).pending = ∅
        ∨ WithKey env run fun _ => True) := by
  have h : OperatedBy conv env start run (final (ControlCentre.step py conv env) start run) :=
    operatedBy_run hstart run
  refine ⟨?_, fun hrun => (h.running hrun).imp_right (withKey_of_verified hrequired), ?_⟩
  · exact h.timing.imp_right fun ⟨settings, heq, hverified⟩ =>
      ⟨settings, heq, withKey_of_verified hrequired hverified⟩
  · rcases h.logs with hlogs | hverified
    · rcases h.pending with hpending | hverified
      · exact Or.inl ⟨hlogs, hpending⟩
      · exact Or.inr (withKey_of_verified hrequired hverified)
    · exact Or.inr (withKey_of_verified hrequired hverified)

/-- A key of one letter is required. -/
def oneKey : OperatorEnviron where
  mode := some ['r', 'e', 'q', 'u', 'i', 'r', 'e', 'd']
  apiKey := some ['k']

/-- Only numbers are read. -/
def plainConversions : Conversions := ⟨fun _ => none, fun _ => none, fun _ => ""⟩

def newSettings : Dict String Json where
  items :=
    [("confidenceThreshold", .float (.finite (1 / 2))), ("minGreenTime", .int 12),
      ("maxGreenTime", .int 40)]
  nodup := by decide

/-- The operator sets the system, and somebody without the key tries to stop it in between. -/
def twoRequests : List (Reading × Activity) :=
  [(readingAt 0 "u0", .request (some ['k']) (.configure newSettings) none),
    (readingAt 1 "u1", .request none (.command .stop) none), (readingAt 2 "u2", .thread 0),
    (readingAt 3 "u3", .resume 0)]

theorem operated_with_key_configured : ∃ settings, timingOf settings = (1 / 2, 12, 40)
    ∧ WithKey oneKey twoRequests (AsksFor plainConversions settings) := by
  have hend : timing (final (ControlCentre.step plainPython plainConversions oneKey)
      { confidence := 2 / 25 } twoRequests) = (1 / 2, 12, 40) := by decide +kernel
  rcases (@operated_with_key plainPython plainConversions oneKey (by decide)
    { confidence := 2 / 25 } rfl twoRequests).1 with h | ⟨settings, h, hkey⟩
  · rw [hend] at h
    exact absurd h (by decide +kernel)
  · exact ⟨settings, h.symm.trans hend, hkey⟩

/-! ## The bounds of a green -/

/-- Settings that both checks would let through. -/
def InBounds (t : Rat × Int × Int) : Prop :=
  (1 / 20 ≤ t.1 ∧ t.1 ≤ 19 / 20) ∧ 5 ≤ t.2.1 ∧ t.2.1 ≤ t.2.2 ∧ t.2.2 ≤ 120

theorem inBounds_step {s : ControlCentre} (h : InBounds (timing s)) (i : Reading × Activity) :
    InBounds (timing (s.step py conv env i).1) := by
  have hstretch := step_stretch py conv env s i
  obtain ⟨r, activity⟩ := i
  dsimp only at hstretch
  generalize s.step py conv env (r, activity) = out at hstretch ⊢
  cases hstretch with
  | quiet hcontrol => rw [(control_eq hcontrol).1]; exact h
  | answered hcontrol => rw [(control_eq hcontrol).1]; exact h
  | suspended _ _ hsuspended => rw [(control_eq hsuspended.control).1]; exact h
  | finishedAtOnce _ _ hfinished => rw [hfinished.timing]; exact h
  | @configured _ settings _ _ _ hcontrol =>
      rw [(control_eq hcontrol).1]
      exact ⟨settings.confidence_mem, settings.green_mem⟩
  | advanced _ _ _ hcontrol => rw [(control_eq hcontrol).1]; exact h
  | finished _ hfinished => rw [hfinished.timing]; exact h

theorem inBounds_run {start : ControlCentre} (h : InBounds (timing start))
    (run : List (Reading × Activity)) :
    InBounds (timing (final (ControlCentre.step py conv env) start run)) := by
  induction run generalizing start with
  | nil => exact h
  | cons i run ih => exact ih (inBounds_step py conv env h i)

/-- A phase that a step starts has a green within the scheduler's bounds. -/
theorem started_green {w : PipelineWorld} {i : StepInput} {d : SignalDecision LaneName}
    (hchange : (w.processStep i).2.isPhaseChange = true)
    (hd : (w.processStep i).2.signalDecision = some d) :
    w.pipeline.signalScheduler.minGreenSec ≤ d.greenDurationSec
      ∧ d.greenDurationSec
        ≤ max w.pipeline.signalScheduler.minGreenSec w.pipeline.signalScheduler.maxGreenSec := by
  obtain ⟨r, d', hstarted, hstep⟩ := PipelineWorld.processStep_of_isPhaseChange hchange
  rw [hstep] at hd
  obtain rfl : d' = d := Option.some.inj hd
  refine ⟨?_, PipelineWorld.startedPhase_green_le hstarted⟩
  rcases PipelineWorld.startedPhase_cases w i with
    ⟨-, hnone⟩ | ⟨win, -, r', d, hsome, -, -, -, hmin, -⟩
  · rw [hnone] at hstarted
    cases hstarted
  · rw [hstarted] at hsome
    obtain ⟨rfl, rfl⟩ := Prod.mk.inj (Option.some.inj hsome)
    exact hmin

/-- **Whoever sends what requests in what order, every green lasts from 5 to 120 seconds** and the
detector's threshold stays in its range. -/
theorem greens_in_bounds {start : ControlCentre} (hstart : InBounds (timing start))
    (run : List (Reading × Activity)) :
    InBounds (timing (final (ControlCentre.step py conv env) start run))
      ∧ ∀ input d,
        ((final (ControlCentre.step py conv env) start run).world.processStep
          input).2.isPhaseChange = true →
        ((final (ControlCentre.step py conv env) start run).world.processStep
          input).2.signalDecision = some d →
        5 ≤ d.greenDurationSec ∧ d.greenDurationSec ≤ 120 := by
  have hbounds := inBounds_run py conv env hstart run
  refine ⟨hbounds, fun input d hchange hd => ?_⟩
  obtain ⟨hmin, hmax⟩ := started_green hchange hd
  obtain ⟨-, h5, hle, h120⟩ := hbounds
  unfold timing at h5 hle h120
  dsimp only at h5 hle h120
  rw [max_eq_right hle] at hmax
  constructor <;> omega

theorem greens_in_bounds_configured :
    InBounds (timing (final (ControlCentre.step plainPython plainConversions oneKey)
      { confidence := 2 / 25 } twoRequests)) :=
  (@greens_in_bounds plainPython plainConversions oneKey { confidence := 2 / 25 }
    (by constructor <;> decide +kernel) twoRequests).1

/-! ## Every request is answered once -/

/-- The answers to a request in a run. -/
def answersTo (id : Nat)
    (es : List (Event ControlCentre (Reading × Activity) (Option (Nat × Response)))) : Nat :=
  es.countP fun e => e.out.any fun answer => answer.1 = id

/-- One for a request that waits. -/
def waiting (pending : Dict Nat Pending) (id : Nat) : Nat :=
  if (pending.get? id).isSome then 1 else 0

theorem waiting_set (pending : Dict Nat Pending) (id id' : Nat) (stage : Pending) :
    waiting (pending.set id' stage) id = if id = id' then 1 else waiting pending id := by
  unfold waiting
  rw [Dict.get?_set]
  by_cases hid : id = id'
  · rw [if_pos hid, if_pos hid, Option.isSome_some, if_pos rfl]
  · rw [if_neg hid, if_neg hid]

theorem waiting_erase (pending : Dict Nat Pending) (id id' : Nat) :
    waiting (pending.erase id') id = if id = id' then 0 else waiting pending id := by
  unfold waiting
  by_cases hid : id = id'
  · subst hid
    rw [Dict.get?_erase_self, if_pos rfl]
    rfl
  · rw [Dict.get?_erase_of_ne _ hid, if_neg hid]

theorem waiting_of_get? {pending : Dict Nat Pending} {id : Nat} {stage : Pending}
    (h : pending.get? id = some stage) : waiting pending id = 1 := by
  unfold waiting
  rw [h]
  rfl

/-- One for an answer to the request. -/
def answering (out : Option (Nat × Response)) (id : Nat) : Nat :=
  if out.any fun answer => answer.1 = id then 1 else 0

theorem answering_some (id id' : Nat) (response : Response) :
    answering (some (id', response)) id = if id = id' then 1 else 0 := by
  unfold answering
  rw [Option.any_some]
  by_cases hid : id = id'
  · rw [if_pos hid, if_pos (by simpa using hid.symm)]
  · rw [if_neg hid, if_neg (by simpa using Ne.symm hid)]

/-- A request that has come in was answered or waits, and no other is answered. -/
def AnsweredOnce (answers id : Nat) (s : ControlCentre) : Prop :=
  answers + waiting s.pending id = if id < s.received then 1 else 0

theorem answeredOnce_step {answers id : Nat} {s : ControlCentre} (h : AnsweredOnce answers id s)
    (i : Reading × Activity) :
    AnsweredOnce (answers + answering (s.step py conv env i).2 id) id (s.step py conv env i).1 := by
  have hstretch := step_stretch py conv env s i
  obtain ⟨r, activity⟩ := i
  dsimp only at hstretch
  generalize s.step py conv env (r, activity) = out at hstretch ⊢
  unfold AnsweredOnce at h ⊢
  cases hstretch with
  | quiet hcontrol =>
      -- nobody is answered, and nobody waits anew
      obtain ⟨-, -, hpending, hreceived⟩ := control_eq hcontrol
      rw [hpending, hreceived]
      exact h
  | answered hcontrol =>
      obtain ⟨-, -, hpending, hreceived⟩ := control_eq hcontrol
      rw [hpending, hreceived, answering_some]
      -- a new request is answered at once
      split_ifs at h ⊢ <;> omega
  | suspended _ _ hsuspended =>
      obtain ⟨-, -, hpending, hreceived⟩ := control_eq hsuspended.control
      -- a new request waits, instead of being answered
      rw [hpending, hreceived, waiting_set]
      show answers + 0 + _ = _
      split_ifs at h ⊢ <;> omega
  | finishedAtOnce _ _ hfinished hreceived =>
      rw [hfinished.pending, hreceived, waiting_erase, answering_some]
      split_ifs at h ⊢ <;> omega
  | @configured id' _ _ _ hwaits hcontrol =>
      obtain ⟨-, -, hpending, hreceived⟩ := control_eq hcontrol
      rw [hpending, hreceived, waiting_set]
      show answers + 0 + _ = _
      -- the request goes on to its next stage, and waits all the same
      by_cases hid : id = id'
      · subst hid
        rw [waiting_of_get? hwaits] at h
        rw [if_pos rfl]
        exact h
      · rw [if_neg hid]
        exact h
  | @advanced _ id' _ _ _ hwaits _ hcontrol =>
      obtain ⟨-, -, hpending, hreceived⟩ := control_eq hcontrol
      rw [hpending, hreceived, waiting_set]
      show answers + 0 + _ = _
      by_cases hid : id = id'
      · subst hid
        rw [waiting_of_get? hwaits] at h
        rw [if_pos rfl]
        exact h
      · rw [if_neg hid]
        exact h
  | @finished id' _ _ _ hwaits hfinished hreceived =>
      rw [hfinished.pending, hreceived, waiting_erase, answering_some]
      -- the answer takes the place of the waiting
      by_cases hid : id = id'
      · subst hid
        rw [waiting_of_get? hwaits] at h
        rw [if_pos rfl, if_pos rfl]
        exact h
      · rw [if_neg hid, if_neg hid]
        exact h

/-- What the log shows of an answer. -/
def successOf (out : Option (Nat × Response)) : Option Text :=
  out.bind fun answer => match answer.2 with
    | .success message => some message
    | _ => none

/-- The log keeps the newest five hundred. -/
theorem addLog_messages {logs : List LogEntry} (entry : LogEntry) {messages : List Text}
    (h : logs.map (·.message) = messages.take 500) :
    (addLog logs entry).map (·.message) = (entry.message :: messages).take 500 := by
  have hlength : logs.length ≤ 500 := by
    have hlen := congrArg List.length h
    rw [List.length_map, List.length_take] at hlen
    omega
  unfold addLog
  dsimp only
  split_ifs with hfull
  · rw [List.length_cons] at hfull
    rw [List.dropLast_eq_take, List.length_cons, List.map_take, List.map_cons, h]
    have : logs.length + 1 - 1 = 500 := by omega
    rw [this, List.take_cons (by omega), List.take_cons (by omega), List.take_take]
    simp
  · rw [List.map_cons, h, List.take_cons (by omega)]
    have hshort : messages.length ≤ 499 := by
      have hlen := congrArg List.length h
      rw [List.length_map, List.length_take] at hlen
      rw [List.length_cons] at hfull
      omega
    rw [List.take_of_length_le (by omega), List.take_of_length_le hshort]

theorem logged_step {s : ControlCentre} {messages : List Text}
    (h : s.logs.map (·.message) = messages.take 500) (i : Reading × Activity) :
    (s.step py conv env i).1.logs.map (·.message)
      = ((successOf (s.step py conv env i).2).toList ++ messages).take 500 := by
  have hstretch := step_stretch py conv env s i
  obtain ⟨r, activity⟩ := i
  dsimp only at hstretch
  generalize s.step py conv env (r, activity) = out at hstretch ⊢
  cases hstretch with
  | quiet hcontrol => rw [(control_eq hcontrol).2.1]; exact h
  | @answered _ _ _ _ response hcontrol _ hno =>
      rw [(control_eq hcontrol).2.1]
      cases response with
      | success message => exact absurd rfl (hno message)
      | _ => exact h
  | suspended _ _ hsuspended => rw [(control_eq hsuspended.control).2.1]; exact h
  | finishedAtOnce _ _ hfinished =>
      obtain ⟨entry, rfl, hlogs⟩ := hfinished.logs
      rw [hlogs]
      exact addLog_messages entry h
  | configured _ _ hcontrol => rw [(control_eq hcontrol).2.1]; exact h
  | advanced _ _ _ hcontrol => rw [(control_eq hcontrol).2.1]; exact h
  | finished _ hfinished =>
      obtain ⟨entry, rfl, hlogs⟩ := hfinished.logs
      rw [hlogs]
      exact addLog_messages entry h

/-- The successes of a run, in order. -/
def successes (es : List (Event ControlCentre (Reading × Activity) (Option (Nat × Response)))) :
    List Text :=
  es.filterMap fun e => successOf e.out

/--
**Every request is answered once, and every success is in the log.** At the end of a run each
request that has come in was answered exactly once, or it waits and was not answered; nothing
else was answered. The log holds the messages of the newest five hundred successes, newest
first.
-/
theorem answered_once_and_logged {start : ControlCentre} (hpending : start.pending = ∅)
    (hreceived : start.received = 0) (hlogs : start.logs = []) (run : List (Reading × Activity)) :
    (∀ id, answersTo id (events (ControlCentre.step py conv env) start run)
        + waiting (final (ControlCentre.step py conv env) start run).pending id
      = if id < (final (ControlCentre.step py conv env) start run).received then 1 else 0)
    ∧ (final (ControlCentre.step py conv env) start run).logs.map (·.message)
      = (successes (events (ControlCentre.step py conv env) start run)).reverse.take 500 := by
  induction run using List.reverseRecOn with
  | nil =>
      refine ⟨fun id => ?_, ?_⟩
      · show 0 + waiting start.pending id = if id < start.received then 1 else 0
        rw [hpending, hreceived, if_neg (Nat.not_lt_zero id)]
        rfl
      · show start.logs.map _ = _
        rw [hlogs]
        rfl
  | append_singleton past i ih =>
      rw [final_append, events_append]
      constructor
      · intro id
        -- the last step answers the request or not
        have hlast : ∀ s, answersTo id (events (ControlCentre.step py conv env) s [i])
            = answering (s.step py conv env i).2 id := by
          intro s
          unfold answersTo answering
          rw [events_cons, events_nil, List.countP_cons, List.countP_nil, Nat.zero_add]
          rfl
        have hsplit : ∀ es es', answersTo id (es ++ es') = answersTo id es + answersTo id es' :=
          fun es es' => List.countP_append
        rw [hsplit, hlast]
        exact answeredOnce_step py conv env (ih.1 id) i
      · -- the newest entry is the first of the log
        have hlast : ∀ s, (successes (events (ControlCentre.step py conv env) s [i])).reverse
            = (successOf (s.step py conv env i).2).toList := by
          intro s
          show (List.filterMap _ [eventOf (ControlCentre.step py conv env) s i]).reverse = _
          have hout : (eventOf (ControlCentre.step py conv env) s i).out
            = (s.step py conv env i).2 := rfl
          rw [List.filterMap_cons, List.filterMap_nil, hout]
          cases successOf (s.step py conv env i).2 with
          | none => rfl
          | some message => rfl
        have hsplit : ∀ es es', successes (es ++ es') = successes es ++ successes es' :=
          fun es es' => List.filterMap_append
        rw [hsplit, List.reverse_append, hlast]
        exact logged_step py conv env ih.2 i

/-- The second request of the sample run has its answer. -/
theorem answered_once_and_logged_configured :
    answersTo 1 (events (ControlCentre.step plainPython plainConversions oneKey)
        { confidence := 2 / 25 } twoRequests)
      + waiting (final (ControlCentre.step plainPython plainConversions oneKey)
        { confidence := 2 / 25 } twoRequests).pending 1 = 1 := by
  have h := (@answered_once_and_logged plainPython plainConversions oneKey
    { confidence := 2 / 25 } rfl rfl rfl twoRequests).1 1
  have hreceived : (final (ControlCentre.step plainPython plainConversions oneKey)
      { confidence := 2 / 25 } twoRequests).received = 2 := by decide +kernel
  rwa [hreceived] at h

end

end SmartTraffic.Proof
