import SmartTraffic.Lib.Run
import SmartTraffic.Startup.Manager

/-!
# What a start leaves for the next one

A configuration that the wizards make is written as JSON text with an indent, and the next
start reads it back. Nothing else is kept between starts, so the next start is offered the
configuration this one runs with only if the text gives back every field of it.

The wizards make a configuration of every sequence of answers, but for one: an index or a
port that is digits to `str.isdigit` and no number to `int` ends the start.
-/

namespace SmartTraffic.Proof

open SmartTraffic Startup Lib

/-! ## The profile is read back -/

/-- The dictionary of a configuration gives it back. -/
theorem configIn_toDict {config : StartupConfig} (h : isCurrentVersion config.version = true) :
    configIn config.toDict = some config := by
  have hread : configIn config.toDict
      = if isCurrentVersion config.version then some config else none := rfl
  rw [hread, if_pos h]

/-- **A profile that was saved is loaded as it was**, under the current version. -/
theorem loadProfile_profileText {config : StartupConfig}
    (h : JsonText.Printable { config with version := .int 1 }.toDict) :
    loadProfile (some (profileText config)) = some { config with version := .int 1 } := by
  have hread := JsonText.loads_dumps (some 4) h
  have hne : profileText config ≠ [] := by
    unfold profileText JsonText.dumps
    intro hnil
    have hlength := JsonText.one_le_length (some 4) 0 { config with version := .int 1 }.toDict
    rw [hnil, List.length_nil] at hlength
    omega
  unfold loadProfile
  rw [Option.bind_some, if_neg hne]
  unfold profileText
  rw [hread, Option.bind_some]
  exact configIn_toDict rfl

/-! ## What the wizards make -/

/-- Some answer is these digits, and `int` does not read them. -/
def Unread (answers : Answers) (text : Text) : Prop :=
  (∃ line, some line ∈ answers ∧ stripSpaces line = text)
    ∧ isDigitText text = true ∧ readDigits text = none

theorem Unread.of_ask {answers : Answers} {text : Text} (h : Unread (ask answers).2 text) :
    Unread answers text := by
  obtain ⟨⟨line, hline, hstrip⟩, hdigits⟩ := h
  refine ⟨⟨line, ?_, hstrip⟩, hdigits⟩
  cases answers with
  | nil => exact hline
  | cons answer rest => exact List.mem_cons_of_mem _ hline

/-- An answer that is asked for now. -/
theorem ask_eq_some {answers : Answers} {text : Text} (h : (ask answers).1 = some text) :
    ∃ line, some line ∈ answers ∧ stripSpaces line = text := by
  cases answers with
  | nil => cases h
  | cons answer rest =>
      obtain ⟨line, hline, hstrip⟩ := Option.map_eq_some_iff.mp h
      exact ⟨line, hline ▸ List.mem_cons_self, hstrip⟩

theorem intAnswer_error {digits text : Text} (h : intAnswer digits = .error text) :
    digits = text ∧ readDigits text = none := by
  unfold intAnswer at h
  cases hread : readDigits digits with
  | some n => rw [hread] at h; cases h
  | none =>
      rw [hread] at h
      cases h
      exact ⟨rfl, hread⟩

/-- A source that is an index or a text. -/
def IsSource (j : Json) : Prop := (∃ s, j = .str s) ∨ ∃ n, j = .int n

/-- A prompt makes a source of what is answered, or raises on digits. -/
structure Prompts (P : Json → Prop) (source : Nat → Option Text → Wizard Json) : Prop where
  ok : ∀ idx answer j, source idx answer = .ok j → P j
  error : ∀ idx answer text, source idx answer = .error text →
    answer = some text ∧ isDigitText text = true ∧ readDigits text = none

theorem prompts_url (default : Nat → String) :
    Prompts IsSource fun idx => urlAnswer (default idx) := by
  refine ⟨fun idx answer j h => ?_, fun idx answer text h => ?_⟩
  · cases answer with
    | none => cases h; exact Or.inl ⟨_, rfl⟩
    | some text => cases h; exact Or.inl ⟨_, rfl⟩
  · cases answer with
    | none => cases h
    | some text => cases h

theorem prompts_index : Prompts (fun j => ∃ n, j = .int n) indexAnswer := by
  refine ⟨fun idx answer j h => ?_, fun idx answer text h => ?_⟩
  · cases answer with
    | none => cases h; exact ⟨_, rfl⟩
    | some digits =>
        unfold indexAnswer at h
        dsimp only at h
        split_ifs at h
        · cases hint : intAnswer digits with
          | error e => rw [hint] at h; cases h
          | ok n => rw [hint] at h; cases h; exact ⟨_, rfl⟩
        · cases h; exact ⟨_, rfl⟩
  · cases answer with
    | none => cases h
    | some digits =>
        unfold indexAnswer at h
        dsimp only at h
        split_ifs at h with hdigits
        cases hint : intAnswer digits with
        | ok n => rw [hint] at h; cases h
        | error e =>
            rw [hint] at h
            cases h
            obtain ⟨rfl, hread⟩ := intAnswer_error hint
            exact ⟨rfl, hdigits, hread⟩

variable {P : Json → Prop} {source : Nat → Option Text → Wizard Json}

/-- What raises at a prompt is one of the answers. -/
theorem Prompts.unread (hs : Prompts P source) {idx : Nat} {answers : Answers} {text : Text}
    (h : source idx (ask answers).1 = .error text) : Unread answers text := by
  obtain ⟨hask, hdigits⟩ := hs.error idx _ text h
  exact ⟨ask_eq_some hask, hdigits⟩

theorem askLanes_error (hs : Prompts P source) {lanes : List String} {idx : Nat}
    {answers : Answers} {text : Text} (h : askLanes source idx lanes answers = .error text) :
    Unread answers text := by
  induction lanes generalizing idx answers with
  | nil => cases h
  | cons lane lanes ih =>
      unfold askLanes at h
      cases hfirst : source idx (ask answers).1 with
      | error e =>
          rw [hfirst] at h
          cases h
          exact hs.unread hfirst
      | ok first =>
          rw [hfirst] at h
          cases hrest : askLanes source (idx + 1) lanes (ask answers).2 with
          | error e =>
              simp only [hrest, bind, Except.bind] at h
              cases h
              exact (ih hrest).of_ask
          | ok found => simp [hrest, bind, Except.bind, pure, Except.pure] at h

/-- One source for each lane, in their order. -/
theorem askLanes_ok (hs : Prompts P source) {lanes : List String} {idx : Nat}
    {answers : Answers} {found : List (String × Json) × Answers}
    (h : askLanes source idx lanes answers = .ok found) :
    ∃ sources, found.1 = lanes.zip sources ∧ sources.length = lanes.length
      ∧ (∀ j ∈ sources, P j) ∧ ∀ text, Unread found.2 text → Unread answers text := by
  induction lanes generalizing idx answers found with
  | nil => cases h; exact ⟨[], rfl, rfl, fun j hj => absurd hj List.not_mem_nil, fun _ h => h⟩
  | cons lane lanes ih =>
      unfold askLanes at h
      cases hfirst : source idx (ask answers).1 with
      | error e => rw [hfirst] at h; cases h
      | ok first =>
          rw [hfirst] at h
          cases hrest : askLanes source (idx + 1) lanes (ask answers).2 with
          | error e => simp [hrest, bind, Except.bind] at h
          | ok found' =>
              simp only [hrest, bind, Except.bind, pure, Except.pure] at h
              cases h
              obtain ⟨sources, heq, hlen, hall, hunread⟩ := ih hrest
              refine ⟨first :: sources, ?_, ?_, ?_, fun text ht => (hunread text ht).of_ask⟩
              · rw [heq, List.zip_cons_cons]
              · rw [List.length_cons, hlen, List.length_cons]
              · intro j hj
                rcases List.mem_cons.mp hj with rfl | hj
                · exact hs.ok idx _ _ hfirst
                · exact hall j hj

/-- The sources of the four lanes. -/
theorem askLanes_required (hs : Prompts P source) {answers : Answers}
    {found : List (String × Json) × Answers}
    (h : askLanes source 0 requiredLanes answers = .ok found) :
    (∃ n s e w, found.1 = [("north", n), ("south", s), ("east", e), ("west", w)]
        ∧ P n ∧ P s ∧ P e ∧ P w)
      ∧ ∀ text, Unread found.2 text → Unread answers text := by
  obtain ⟨sources, heq, hlen, hall, hunread⟩ := askLanes_ok hs h
  obtain ⟨n, s, e, w, rfl⟩ := List.length_eq_four.mp hlen
  refine ⟨⟨n, s, e, w, heq, hall n ?_, hall s ?_, hall e ?_, hall w ?_⟩, hunread⟩ <;> simp

/-- One of the five modes, with a source for every approach. -/
structure WizardCamera (env : Environment) (c : CameraConfig) : Prop where
  sources : ∃ n s e w, c.sources
      = .obj [("north", n), ("south", s), ("east", e), ("west", w)]
    ∧ IsSource n ∧ IsSource s ∧ IsSource e ∧ IsSource w
  /-- Only an index is a source of the USB mode, and only a video one of the demo mode. -/
  mode : (∃ mode, c.mode = .str mode ∧ mode ≠ "demo"
      ∧ (mode = "usb" → ∃ n s e w, c.sources
        = .obj [("north", .int n), ("south", .int s), ("east", .int e), ("west", .int w)]))
    ∨ c = configureDemoVideos env

/-- What a wizard for the cameras makes of the answers. -/
structure CameraWizard (env : Environment) (answers : Answers)
    (made : Wizard (CameraConfig × Answers)) : Prop where
  error : ∀ text, made = .error text → Unread answers text
  ok : ∀ found, made = .ok found → WizardCamera env found.1
    ∧ ∀ text, Unread found.2 text → Unread answers text

theorem cameraWizard_urls (env : Environment) {mode : String} (hmode : mode ≠ "demo")
    (husb : mode ≠ "usb") (default : Nat → String) (answers : Answers) :
    CameraWizard env answers
      (configureLanes mode (fun idx => urlAnswer (default idx)) answers) := by
  have hs := prompts_url default
  unfold configureLanes
  refine ⟨fun text h => ?_, fun found h => ?_⟩
  · cases hlanes : askLanes (fun idx => urlAnswer (default idx)) 0 requiredLanes answers with
    | ok found => simp [hlanes, bind, Except.bind, pure, Except.pure] at h
    | error e =>
        simp only [hlanes, bind, Except.bind] at h
        cases h
        exact askLanes_error hs hlanes
  · cases hlanes : askLanes (fun idx => urlAnswer (default idx)) 0 requiredLanes answers with
    | error e => simp [hlanes, bind, Except.bind] at h
    | ok made =>
        simp only [hlanes, bind, Except.bind, pure, Except.pure] at h
        cases h
        obtain ⟨⟨n, s, e, w, heq, hn, hs', he, hw⟩, hunread⟩ := askLanes_required hs hlanes
        exact ⟨⟨⟨n, s, e, w, congrArg Json.obj heq, hn, hs', he, hw⟩,
          Or.inl ⟨mode, rfl, hmode, fun h => absurd h husb⟩⟩, hunread⟩

theorem cameraWizard_usb (env : Environment) (answers : Answers) :
    CameraWizard env answers (configureUsbCameras answers) := by
  have hs := prompts_index
  unfold configureUsbCameras configureLanes
  refine ⟨fun text h => ?_, fun found h => ?_⟩
  · cases hlanes : askLanes indexAnswer 0 requiredLanes answers with
    | ok found => simp [hlanes, bind, Except.bind, pure, Except.pure] at h
    | error e =>
        simp only [hlanes, bind, Except.bind] at h
        cases h
        exact askLanes_error hs hlanes
  · cases hlanes : askLanes indexAnswer 0 requiredLanes answers with
    | error e => simp [hlanes, bind, Except.bind] at h
    | ok made =>
        simp only [hlanes, bind, Except.bind, pure, Except.pure] at h
        cases h
        obtain ⟨⟨_, _, _, _, heq, ⟨n, rfl⟩, ⟨s, rfl⟩, ⟨e, rfl⟩, ⟨w, rfl⟩⟩, hunread⟩ :=
          askLanes_required hs hlanes
        have hsources := congrArg Json.obj heq
        exact ⟨⟨⟨_, _, _, _, hsources, Or.inr ⟨n, rfl⟩, Or.inr ⟨s, rfl⟩, Or.inr ⟨e, rfl⟩,
          Or.inr ⟨w, rfl⟩⟩, Or.inl ⟨"usb", rfl, by decide, fun _ => ⟨n, s, e, w, hsources⟩⟩⟩,
          hunread⟩

theorem cameraWizard_webcam (env : Environment) (answers : Answers) :
    CameraWizard env answers (configureWebcam answers) := by
  have hs := prompts_index
  unfold configureWebcam
  cases hindex : indexAnswer 0 (ask answers).1 with
  | error e =>
      refine ⟨fun text h => ?_, fun found h => (by cases h)⟩
      cases h
      exact hs.unread hindex
  | ok source =>
      refine ⟨fun text h => (by cases h), fun found h => ?_⟩
      cases h
      obtain ⟨n, rfl⟩ := hs.ok _ _ _ hindex
      have hsource : IsSource (.int n) := Or.inr ⟨n, rfl⟩
      exact ⟨⟨⟨_, _, _, _, rfl, hsource, hsource, hsource, hsource⟩,
        Or.inl ⟨"webcam", rfl, by decide, fun h => absurd h (by decide)⟩⟩,
        fun text h => h.of_ask⟩

/-- **Whatever is answered, every approach has a source**, unless an index cannot be read. -/
theorem cameraWizard_setup (env : Environment) (answers : Answers) :
    CameraWizard env answers (setupCameraConfig env answers) := by
  have hlater : ∀ made, CameraWizard env (ask answers).2 made → CameraWizard env answers made :=
    fun made h => ⟨fun text he => (h.error text he).of_ask, fun found hf =>
      ⟨(h.ok found hf).1, fun text ht => ((h.ok found hf).2 text ht).of_ask⟩⟩
  unfold setupCameraConfig
  dsimp only
  refine hlater _ ?_
  split_ifs
  · exact cameraWizard_urls env (by decide) (by decide) _ _
  · exact cameraWizard_usb env _
  · exact cameraWizard_urls env (by decide) (by decide) _ _
  · exact cameraWizard_webcam env _
  · refine ⟨fun text h => (by cases h), fun found h => ?_⟩
    cases h
    exact ⟨⟨⟨_, _, _, _, rfl, Or.inl ⟨_, rfl⟩, Or.inl ⟨_, rfl⟩, Or.inl ⟨_, rfl⟩,
      Or.inl ⟨_, rfl⟩⟩, Or.inr rfl⟩, fun text h => h⟩

theorem printable_of_isSource {j : Json} (h : IsSource j) : JsonText.Printable j := by
  rcases h with ⟨s, rfl⟩ | ⟨n, rfl⟩
  · trivial
  · trivial

/-- The port that is chosen is one that was found; without one, the output is simulated. -/
def WizardHardware (env : Environment) (c : HardwareConfig) : Prop :=
  c = simulatedHardware
    ∨ ∃ port ∈ env.comPorts, c = { port := .str port, simulation := .bool false }

theorem setupHardware_ok {env : Environment} {answers : Answers} {c : HardwareConfig}
    (h : setupHardwareConfig env answers = .ok c) : WizardHardware env c := by
  unfold setupHardwareConfig at h
  split_ifs at h
  · cases h; exact Or.inl rfl
  · cases hport : chosenPort env.comPorts ((ask answers).1.getD ['1']) with
    | error e => rw [hport] at h; cases h
    | ok chosen =>
        rw [hport] at h
        cases chosen with
        | none => cases h; exact Or.inl rfl
        | some port =>
            cases h
            refine Or.inr ⟨port, ?_, rfl⟩
            unfold chosenPort at hport
            split_ifs at hport
            · cases hint : intAnswer ((ask answers).1.getD ['1']) with
              | error e => rw [hint] at hport; cases hport
              | ok n =>
                  rw [hint] at hport
                  have hfound : (if 1 ≤ n then env.comPorts[n - 1]? else none) = some port :=
                    Except.ok.inj hport
                  split_ifs at hfound
                  exact List.mem_of_getElem? hfound
            · cases hport

theorem setupHardware_error {env : Environment} {answers : Answers} {text : Text}
    (h : setupHardwareConfig env answers = .error text) : Unread answers text := by
  unfold setupHardwareConfig at h
  split_ifs at h
  cases hport : chosenPort env.comPorts ((ask answers).1.getD ['1']) with
  | ok chosen => rw [hport] at h; cases h
  | error e =>
      rw [hport] at h
      cases h
      unfold chosenPort at hport
      split_ifs at hport with hdigits
      cases hint : intAnswer ((ask answers).1.getD ['1']) with
      | ok n => rw [hint] at hport; cases hport
      | error e =>
          rw [hint] at hport
          cases hport
          obtain ⟨heq, hread⟩ := intAnswer_error hint
          cases hanswer : (ask answers).1 with
          | none =>
              -- the default is a number
              rw [hanswer] at heq
              rw [← heq] at hread
              exact absurd hread (by decide)
          | some choice =>
              rw [hanswer] at heq hdigits
              obtain rfl : choice = text := heq
              exact ⟨ask_eq_some hanswer, hdigits, hread⟩

/-- What the wizards make together. -/
theorem wizardConfig_ok {env : Environment} {answers : Answers} {config : StartupConfig}
    (h : wizardConfig env answers = .ok config) :
    WizardCamera env config.camera ∧ WizardHardware env config.hardware
      ∧ config = { camera := config.camera, hardware := config.hardware } := by
  have hwizard := cameraWizard_setup env answers
  unfold wizardConfig at h
  cases hcamera : setupCameraConfig env answers with
  | error e => rw [hcamera] at h; cases h
  | ok found =>
      rw [hcamera] at h
      cases hhardware : setupHardwareConfig env found.2 with
      | error e => simp [hhardware, bind, Except.bind] at h
      | ok hardware =>
          simp only [hhardware, bind, Except.bind, pure, Except.pure] at h
          cases h
          exact ⟨(hwizard.ok found hcamera).1, setupHardware_ok hhardware, rfl⟩

/-- What stops the wizards is one of the answers. -/
theorem wizardConfig_error {env : Environment} {answers : Answers} {text : Text}
    (h : wizardConfig env answers = .error text) : Unread answers text := by
  have hwizard := cameraWizard_setup env answers
  unfold wizardConfig at h
  cases hcamera : setupCameraConfig env answers with
  | error e =>
      rw [hcamera] at h
      cases h
      exact hwizard.error _ hcamera
  | ok found =>
      rw [hcamera] at h
      cases hhardware : setupHardwareConfig env found.2 with
      | error e =>
          simp only [hhardware, bind, Except.bind] at h
          cases h
          exact (hwizard.ok found hcamera).2 _ (setupHardware_error hhardware)
      | ok hardware => simp [hhardware, bind, Except.bind, pure, Except.pure] at h

theorem printable_wizardConfig {env : Environment} {answers : Answers} {config : StartupConfig}
    (h : wizardConfig env answers = .ok config) : JsonText.Printable config.toDict := by
  obtain ⟨hcamera, hhardware, hrest⟩ := wizardConfig_ok h
  obtain ⟨n, s, e, w, hsources, hn, hs, he, hw⟩ := hcamera.sources
  have hmode : JsonText.Printable config.camera.mode := by
    rcases hcamera.mode with ⟨mode, hmode, -⟩ | hdemo
    · rw [hmode]; trivial
    · rw [hdemo]; trivial
  have hprint : JsonText.Printable config.camera.sources := by
    rw [hsources]
    exact ⟨printable_of_isSource hn, printable_of_isSource hs, printable_of_isSource he,
      printable_of_isSource hw, trivial⟩
  have hport : JsonText.Printable config.hardware.port
      ∧ JsonText.Printable config.hardware.simulation
      ∧ JsonText.Printable config.hardware.baudrate := by
    rcases hhardware with h | ⟨port, -, h⟩
    · rw [h]; exact ⟨trivial, trivial, trivial⟩
    · rw [h]; exact ⟨trivial, trivial, trivial⟩
  rw [hrest]
  exact ⟨trivial, ⟨hmode, hprint, trivial⟩, ⟨hport.1, hport.2.1, hport.2.2, trivial⟩,
    ⟨trivial, trivial, trivial, trivial, trivial⟩, ⟨trivial, trivial, trivial⟩, trivial⟩

/-! ## What the validator finds in it -/

/-- No lane is missing from sources that have a key for each. -/
theorem missingLanes_obj {fields : List (String × Json)} {lanes : List String}
    (h : ∀ lane ∈ lanes, ∃ field ∈ fields, field.1 = lane) :
    missingLanes (.obj fields) lanes = .ok [] := by
  induction lanes with
  | nil => rfl
  | cons lane lanes ih =>
      have hfound : hasLane lane (.obj fields) = .ok true := by
        obtain ⟨field, hmem, hkey⟩ := h lane List.mem_cons_self
        have hany : (fields.any fun field => field.1 = lane) = true :=
          List.any_eq_true.mpr ⟨field, hmem, by simpa using hkey⟩
        exact congrArg Except.ok hany
      unfold missingLanes
      rw [hfound, ih fun lane hlane => h lane (List.mem_cons_of_mem _ hlane)]
      rfl

theorem missingLanes_wizard {env : Environment} {c : CameraConfig} (h : WizardCamera env c) :
    missingLanes c.sources requiredLanes = .ok [] := by
  obtain ⟨n, s, e, w, hsources, -⟩ := h.sources
  rw [hsources]
  apply missingLanes_obj
  intro lane hlane
  fin_cases hlane
  · exact ⟨("north", n), by simp, rfl⟩
  · exact ⟨("south", s), by simp, rfl⟩
  · exact ⟨("east", e), by simp, rfl⟩
  · exact ⟨("west", w), by simp, rfl⟩

/-- The issues of the demo mode: its videos that do not exist. -/
def missingVideos (env : Environment) : List String :=
  (requiredLanes.filter fun lane => !env.pathExists (videoPath env lane)).map
    fun lane => missingVideo lane (videoPath env lane)

theorem videoIssues_demo (env : Environment) (lanes : List String) :
    (lanes.map fun lane => (lane, Json.str (videoPath env lane))).filterMap (videoIssue env)
      = (lanes.filter fun lane => !env.pathExists (videoPath env lane)).map
        fun lane => missingVideo lane (videoPath env lane) := by
  induction lanes with
  | nil => rfl
  | cons lane lanes ih =>
      rw [List.map_cons, List.filterMap_cons, ih, List.filter_cons]
      unfold videoIssue
      by_cases hpath : env.pathExists (videoPath env lane) = true
      · simp [hpath]
      · simp [hpath]

/-- Nothing but a demo video can be missing. -/
theorem modeIssues_wizard {env : Environment} {c : CameraConfig} (h : WizardCamera env c) :
    modeIssues env c = .ok (if c.mode.isStr "demo" then missingVideos env else []) := by
  rcases h.mode with ⟨mode, hmode, hdemo, husb⟩ | rfl
  · have hnot : c.mode.isStr "demo" = false := by
      rw [hmode]; simpa [Json.isStr] using hdemo
    unfold modeIssues
    rw [hnot]
    by_cases hmodeusb : mode = "usb"
    · obtain ⟨n, s, e, w, hsources⟩ := husb hmodeusb
      rw [hmode, hmodeusb, hsources]
      rfl
    · have hnotusb : c.mode.isStr "usb" = false := by
        rw [hmode]; simpa [Json.isStr] using hmodeusb
      obtain ⟨n, s, e, w, hsources, -⟩ := h.sources
      rw [hnotusb, hsources]
      cases c.mode.isStr "rtsp" with
      | true => rfl
      | false => rfl
  · exact congrArg Except.ok (videoIssues_demo env requiredLanes)

theorem validate_wizard {env : Environment} {config : StartupConfig}
    (h : WizardCamera env config.camera) :
    validate env config
      = .ok (if config.camera.mode.isStr "demo" then missingVideos env else []) := by
  have hlanes : laneIssues config.camera = .ok [] := by
    unfold laneIssues
    rw [missingLanes_wizard h, ite_self]
  unfold validate
  rw [hlanes, modeIssues_wizard h]
  rfl

/-- **Whatever the operator answers, the wizards leave a configuration that can be checked,**
and it is turned down only for demo videos that do not exist. A physical port is one of those
that were discovered. The one exception is an answer of digits that `int` does not read. -/
theorem wizard_checked (env : Environment) (answers : Answers) :
    (∀ text, wizardConfig env answers = .error text → Unread answers text)
      ∧ ∀ config, wizardConfig env answers = .ok config →
        validate env config
            = .ok (if config.camera.mode.isStr "demo" then missingVideos env else [])
          ∧ WizardHardware env config.hardware := by
  refine ⟨fun text h => wizardConfig_error h, fun config h => ?_⟩
  obtain ⟨hcamera, hhardware, -⟩ := wizardConfig_ok h
  exact ⟨validate_wizard hcamera, hhardware⟩

/-- A superscript is a digit, and no index. -/
example : wizardConfig {} [some ['4'], some ['²']] = .error ['²'] := rfl

/-! ## From one start to the next -/

/-- A start of the system. -/
inductive Start
  | interactive (env : Environment) (answers : Answers)
  | unattended (env : Environment)

/-- A start, over the profile in the file. -/
def startStep (file : Option Text) : Start → Option Text × StartOutcome
  | .interactive env answers => ((run env answers file).2, (run env answers file).1)
  | .unattended env => (file, runUnattended env file)

/-- The operator keeps the profile, and it has no issues. -/
def Accepts (config : StartupConfig) : Start → Prop
  | .interactive env answers => usesProfile (ask answers).1 = true ∧ validate env config = .ok []
  | .unattended _ => True

/-- What a start has to find to run with `config` again. -/
structure Remembered (config : StartupConfig) (file : Option Text) : Prop where
  loads : loadProfile file = some config
  shows : showsProfile config = .ok ()
  checks : ∀ env, ∃ issues, validate env config = .ok issues

/-- What is around a start decides the issues, not whether there is an exception. -/
theorem modeIssues_env {env : Environment} {c : CameraConfig} {issues : List String}
    (h : modeIssues env c = .ok issues) (env' : Environment) :
    ∃ issues', modeIssues env' c = .ok issues' := by
  unfold modeIssues at h ⊢
  split_ifs at h ⊢
  · cases hdict : asDict c.sources with
    | error e => rw [hdict] at h; exact absurd h (by simp [Except.map])
    | ok sources => exact ⟨_, rfl⟩
  · exact ⟨_, h⟩
  · exact ⟨_, h⟩
  · exact ⟨_, h⟩

theorem validate_env {env : Environment} {config : StartupConfig} {issues : List String}
    (h : validate env config = .ok issues) (env' : Environment) :
    ∃ issues', validate env' config = .ok issues' := by
  unfold validate at h ⊢
  cases hlanes : laneIssues config.camera with
  | error e => rw [hlanes] at h; exact absurd h (by simp [bind, Except.bind])
  | ok missing =>
      rw [hlanes] at h
      cases hmode : modeIssues env config.camera with
      | error e => rw [hmode] at h; exact absurd h (by simp [bind, Except.bind])
      | ok found =>
          obtain ⟨found', hfound⟩ := modeIssues_env hmode env'
          rw [hfound]
          exact ⟨_, rfl⟩

theorem showsProfile_wizard {env : Environment} {answers : Answers} {config : StartupConfig}
    (h : wizardConfig env answers = .ok config) : showsProfile config = .ok () := by
  have hcamera := (wizardConfig_ok h).1
  obtain ⟨n, s, e, w, hsources, -⟩ := hcamera.sources
  have hmode : ∃ mode, config.camera.mode = .str mode := by
    rcases hcamera.mode with ⟨mode, hmode, -⟩ | hdemo
    · exact ⟨mode, hmode⟩
    · exact ⟨"demo", congrArg CameraConfig.mode hdemo⟩
  obtain ⟨mode, hmode⟩ := hmode
  unfold showsProfile
  rw [hmode, hsources]

/-- A wizard that runs has written what it runs with. -/
theorem runWizard_running {env : Environment} {answers : Answers} {file : Option Text}
    {config : StartupConfig} (h : (runWizard env answers file).1 = .running config) :
    wizardConfig env answers = .ok config
      ∧ (runWizard env answers file).2 = saveProfile config file env.writes := by
  unfold runWizard at h ⊢
  cases hconfig : wizardConfig env answers with
  | error text => rw [hconfig] at h; cases h
  | ok made =>
      rw [hconfig] at h
      dsimp only at h ⊢
      split at h
      · cases h
      · cases h; exact ⟨rfl, rfl⟩
      · cases h

/-- The wizard runs with what it writes. -/
theorem remembered_wizard {env : Environment} {answers : Answers} {file : Option Text}
    {config : StartupConfig} (hwrites : env.writes = true)
    (h : (runWizard env answers file).1 = .running config) :
    Remembered config (runWizard env answers file).2 := by
  obtain ⟨hconfig, hfile⟩ := runWizard_running h
  obtain ⟨hcamera, -, hrest⟩ := wizardConfig_ok hconfig
  refine ⟨?_, showsProfile_wizard hconfig, validate_env (validate_wizard hcamera)⟩
  have hversion : { config with version := .int 1 } = config := by rw [hrest]
  rw [hfile, hwrites]
  have hprintable : JsonText.Printable { config with version := .int 1 }.toDict := by
    rw [hversion]
    exact printable_wizardConfig hconfig
  have hload := loadProfile_profileText hprintable
  rw [hversion] at hload
  exact hload

/-- A start that runs leaves its configuration in the file. -/
theorem remembered_run {env : Environment} {answers : Answers} {file : Option Text}
    {config : StartupConfig} (hwrites : env.writes = true)
    (h : (run env answers file).1 = .running config) :
    Remembered config (run env answers file).2 := by
  unfold run at h ⊢
  cases hload : loadProfile file with
  | none =>
      rw [hload] at h
      exact remembered_wizard hwrites h
  | some existing =>
      rw [hload] at h
      dsimp only at h ⊢
      cases hshows : showsProfile existing with
      | error e => rw [hshows] at h; cases h
      | ok =>
          rw [hshows] at h
          dsimp only at h ⊢
          by_cases huse : usesProfile (ask answers).1 = true
          · rw [if_pos huse] at h ⊢
            cases hvalid : validate env existing with
            | error e => rw [hvalid] at h; cases h
            | ok issues =>
                rw [hvalid] at h
                cases issues with
                | nil =>
                    cases h
                    exact ⟨hload, hshows, validate_env hvalid⟩
                | cons issue issues => exact remembered_wizard hwrites h
          · rw [if_neg huse] at h ⊢
            exact remembered_wizard hwrites h

/-- A start that finds a configuration, and is to keep it, runs with it and leaves it there. -/
theorem startStep_remembered {config : StartupConfig} {file : Option Text} {start : Start}
    (h : Remembered config file) (haccepts : Accepts config start) :
    startStep file start = (file, .running config) := by
  cases start with
  | interactive env answers =>
      obtain ⟨huse, hvalid⟩ := haccepts
      have hrun : run env answers file = (.running config, file) := by
        unfold run
        rw [h.loads]
        dsimp only
        rw [h.shows]
        dsimp only
        rw [if_pos huse, hvalid]
      exact congrArg (fun r => (r.2, r.1)) hrun
  | unattended env =>
      obtain ⟨issues, hissues⟩ := h.checks env
      have hrun : runUnattended env file = .running config := by
        unfold runUnattended
        rw [h.loads]
        dsimp only [Option.getD_some]
        rw [hissues]
      exact congrArg (Prod.mk file) hrun

theorem startStep_remembered_run {config : StartupConfig} {file : Option Text}
    {starts : List Start} (h : Remembered config file)
    (haccepts : ∀ start ∈ starts, Accepts config start) :
    (∀ e ∈ events startStep file starts, e.out = .running config)
      ∧ final startStep file starts = file := by
  induction starts with
  | nil => exact ⟨fun e he => absurd he List.not_mem_nil, rfl⟩
  | cons start starts ih =>
      have hstep := startStep_remembered h (haccepts start List.mem_cons_self)
      have hrest := ih fun later hlater => haccepts later (List.mem_cons_of_mem _ hlater)
      rw [events_cons, final_cons, hstep]
      refine ⟨fun e he => ?_, hrest.2⟩
      rcases List.mem_cons.mp he with rfl | he
      · exact congrArg Prod.snd hstep
      · exact hrest.1 e he

/-- **The configuration that a start runs with is the one every later start runs with,** until
the operator refuses it or a check of it has issues. What was in the file before does not
matter. -/
theorem starts_remember {file : Option Text} {before : List Start} {env : Environment}
    {answers : Answers} {after : List Start} {config : StartupConfig}
    (hwrites : env.writes = true)
    (hrun : (startStep (final startStep file before) (.interactive env answers)).2
      = .running config)
    (haccepts : ∀ start ∈ after, Accepts config start) :
    (∀ e ∈ events startStep
        (final startStep file (before ++ [.interactive env answers])) after,
        e.out = .running config)
      ∧ loadProfile (final startStep file (before ++ .interactive env answers :: after))
        = some config := by
  have hremembered : Remembered config
      (final startStep file (before ++ [.interactive env answers])) := by
    rw [final_append]
    exact remembered_run hwrites hrun
  obtain ⟨hout, hfile⟩ := startStep_remembered_run hremembered haccepts
  refine ⟨hout, ?_⟩
  rw [List.append_cons, final_append, hfile]
  exact hremembered.loads

/-- The demo videos are chosen, and kept on the next start. -/
theorem starts_remember_demo :
    ∃ config, ∀ e ∈ events startStep (final startStep none [.interactive {} []])
      [.interactive {} [some ['y']], .unattended {}], e.out = .running config :=
  ⟨{ camera := configureDemoVideos {}, hardware := simulatedHardware },
    (@starts_remember none [] {} [] _ _ rfl rfl (by
      intro start hstart
      simp only [List.mem_cons, List.not_mem_nil, or_false] at hstart
      rcases hstart with rfl | rfl
      · exact ⟨by decide, rfl⟩
      · trivial)).1⟩

end SmartTraffic.Proof
