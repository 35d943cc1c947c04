import SmartTraffic.Server.LocalSources
import SmartTraffic.Proof.Registration

/-!
# What becomes of the images of local cameras

A camera reads as fast as it can, and the pump takes one image for each direction
at a time. `follow` tells from the observations of a run what the pump has taken
for a direction; the pump submits just that, in order, and dies on none of it.

An image is let in only while the node has its session. The session of a local
camera is made once, at the start. When it is gone the camera goes on reading,
and the pump goes on submitting, but nothing is let in any more.
-/

namespace SmartTraffic.Proof

open SmartTraffic Lib

/-! ## The images of a direction -/

def captureOf (d : String) : Option Observed → Option Capture
  | some (.captured d' capture) => if d' = d then some capture else none
  | _ => none

def submissionOf (d : String) : Option Observed → Option Capture
  | some (.submitted d' capture _) => if d' = d then some capture else none
  | _ => none

/-- The image that is kept for the direction, and those that the pump has taken. -/
def follow (d : String) (v : Option Capture × List Capture) :
    Option Observed → Option Capture × List Capture
  | some (.captured d' capture) => if d' = d then (some capture, v.2) else v
  | some .taken => (none, v.2 ++ v.1.toList)
  | _ => v

/-- The newest image of the direction at each time the pump takes what is kept. -/
def newestTaken (d : String) (os : List (Option Observed)) : List Capture :=
  (os.foldl (follow d) (none, [])).2

/-- What a list of images by direction holds for one of them. -/
def imagesOf (d : String) (frames : List (String × Capture)) : List Capture :=
  frames.filterMap fun frame => if frame.1 = d then some frame.2 else none

theorem imagesOf_cons (d : String) (frame : String × Capture) (frames : List (String × Capture)) :
    imagesOf d (frame :: frames)
      = (if frame.1 = d then [frame.2] else []) ++ imagesOf d frames := by
  unfold imagesOf
  rw [List.filterMap_cons]
  split_ifs <;> rfl

/-- A table holds one image of a direction at most. -/
theorem imagesOf_items (d : String) (latest : Dict String Capture) :
    imagesOf d latest.items = (latest.get? d).toList := by
  obtain ⟨items, hnodup⟩ := latest
  show imagesOf d items = (items.lookup d).toList
  induction items with
  | nil => rfl
  | cons item items ih =>
      obtain ⟨hnew, hrest⟩ := List.nodup_cons.mp hnodup
      rw [imagesOf_cons, List.lookup_cons, ih hrest]
      by_cases hd : item.1 = d
      · subst hd
        have hnone : items.lookup item.1 = none :=
          List.lookup_eq_none_iff.mpr fun p hp => by
            simpa using fun heq : item.1 = p.1 => hnew (heq ▸ List.mem_map_of_mem hp)
        simp [hnone]
      · rw [if_neg hd, beq_false_of_ne (Ne.symm hd)]
        rfl

/-- **What is taken was read**, each image once at most and in the order of reading. -/
theorem follow_sublist (d : String) (os : List (Option Observed))
    (v : Option Capture × List Capture) :
    ((os.foldl (follow d) v).2 ++ (os.foldl (follow d) v).1.toList).Sublist
      (v.2 ++ v.1.toList ++ os.filterMap (captureOf d)) := by
  induction os generalizing v with
  | nil => simp
  | cons o os ih =>
      rw [List.foldl_cons]
      refine (ih (follow d v o)).trans ?_
      rw [List.filterMap_cons]
      cases o with
      | none => exact List.Sublist.refl _
      | some o =>
          cases o with
          | captured d' capture =>
              unfold follow captureOf
              dsimp only
              split_ifs
              · simp
              · exact List.Sublist.refl _
          | taken => simp [follow, captureOf]
          | submitted d' capture effect => exact List.Sublist.refl _
          | served effect => exact List.Sublist.refl _

theorem newestTaken_sublist (d : String) (os : List (Option Observed)) :
    (newestTaken d os).Sublist (os.filterMap (captureOf d)) := by
  have h := follow_sublist d os (none, [])
  simp only [Option.toList_none, List.append_nil, List.nil_append] at h
  exact (List.sublist_append_left _ _).trans h

/-! ## The pump -/

theorem pump_next_frames (frames : List (String × Capture)) :
    (Pump.next frames).frames = frames := by
  cases frames <;> rfl

theorem pump_next_ne_ended (frames : List (String × Capture)) : Pump.next frames ≠ .ended := by
  cases frames <;> simp [Pump.next]

/-- Every image on its way is for a direction that has a node. -/
structure Wired (w : LocalSources) : Prop where
  threads : ∀ d ∈ w.threads, (w.nodes.get? d).isSome
  latest : ∀ d capture, w.latest.get? d = some capture → (w.nodes.get? d).isSome
  frames : ∀ frame ∈ w.pump.frames, (w.nodes.get? frame.1).isSome
  /-- Once the sources close the pump has ended. -/
  closed : w.closing = true → w.pump = .ended
  /-- Until then it goes on as long as there is a camera. -/
  alive : w.closing = false → w.threads ≠ [] → w.pump ≠ .ended

theorem Wired.open {w : LocalSources} (h : Wired w) (hpump : w.pump ≠ .ended) :
    w.closing = false := by
  by_contra hno
  exact hpump (h.closed (by simpa using hno))

/-- A frame that names a direction and finite times raises nothing. -/
theorem handleVideoFrame_quiet (py : Python) {s : Server} (r : Reading)
    {frame : Dict String Json} {d : String} {t : Rat} (owner : Socket)
    (hdirection : frame.getJson "direction" = .str d)
    (hcamera : frame.getJson "camera_direction" = .null)
    (hassigned : frame.getJson "assigned_direction" = .null)
    (hcap : frame.getJson "capture_timestamp" = .float (.finite t))
    (hup : frame.getJson "upload_timestamp" = .float (.finite t)) (e : PyError) :
    (s.handleVideoFrame py r frame true owner).answer ≠ .raised e := by
  -- the frame names its direction itself
  have hstr : ∃ direction, (frame.getJson "direction").orElse
      ((frame.getJson "camera_direction").orElse
        ((frame.getJson "assigned_direction").orElse (.str "north"))) = .str direction := by
    rw [hdirection, hcamera, hassigned]
    unfold Json.orElse
    by_cases hd : (Json.str d).truthy = true
    · rw [if_pos hd]
      exact ⟨d, rfl⟩
    · rw [if_neg hd]
      exact ⟨"north", by simp [Json.truthy]⟩
  obtain ⟨direction, hstr⟩ := hstr
  unfold Server.handleVideoFrame
  rw [if_neg (by simp), hstr]
  dsimp only
  unfold Server.enqueueFrame
  by_cases hrun : s.systemRunning = false
  · rw [if_pos hrun]
    intro h; cases h
  · rw [if_neg hrun]
    dsimp only
    split
    · rename_i e' he
      rcases stampPayload_error_iff.mp ⟨e', he⟩ with h | h
      · rw [hcap] at h; simp [Overlong, Json.isFiniteNumber] at h
      · rw [hup] at h; simp [Overlong, Json.isFiniteNumber] at h
    · intro h; cases h

/-- **No image kills the pump**: the server's own payload raises nothing. -/
theorem submitDecodedFrame_quiet (py : Python) (s : Server) (r : Reading) (d node token : String)
    (websocket : Socket) (frameId : Int) (receivedMs : Rat) (e : PyError) :
    (s.submitDecodedFrame py r d node token websocket frameId receivedMs).answer ≠ .raised e := by
  unfold Server.submitDecodedFrame
  split
  · dsimp only
    split_ifs
    · intro h; cases h
    · intro h; cases h
    · refine handleVideoFrame_quiet (d := d) (t := receivedMs) py r websocket ?_ ?_ ?_ ?_ ?_ e
      · simp [Dict.getJson, Dict.get?_set_of_ne]
      · simp [Dict.getJson, Dict.get?_set_of_ne]; rfl
      · simp [Dict.getJson, Dict.get?_set_of_ne]; rfl
      · simp [Dict.getJson, Dict.get?_set_of_ne]
      · simp [Dict.getJson, Dict.get?_set_of_ne]
  · intro h; cases h

/-- **What the pump does with an image** whose direction has a node. -/
theorem submit_eq (py : Python) {w : LocalSources} (r : Reading) {d node token : String}
    {capture : Capture} {rest : List (String × Capture)}
    (hpump : w.pump = .submitting ((d, capture) :: rest))
    (hnode : w.nodes.get? d = some (node, token)) :
    let o := w.server.submitDecodedFrame py r d node token w.socket r.timeNs capture.received
    w.submit py r = ({ w with server := o.server, pump := .next rest },
      some (.submitted d capture o.effect)) := by
  intro o
  have hafter : Pump.after o.answer rest = .next rest := by
    unfold Pump.after
    split
    · rename_i e he
      exact absurd he (submitDecodedFrame_quiet py _ r _ _ _ _ _ _ e)
    · rfl
  unfold LocalSources.submit
  rw [hpump]
  dsimp only
  rw [hnode]
  dsimp only
  rw [← hafter]

/-- What is known of a direction once the pump has submitted `sub` and `v` is what it followed. -/
structure Handed (d : String) (w : LocalSources) (v : Option Capture × List Capture)
    (sub : List Capture) : Prop where
  wired : Wired w
  kept : w.latest.get? d = v.1
  /-- What is taken has been submitted or is about to be. -/
  pending : w.closing = false → sub ++ imagesOf d w.pump.frames = v.2
  stopped : w.closing = true → sub <+: v.2

theorem handed_capture {d : String} {w : LocalSources} {v : Option Capture × List Capture}
    {sub : List Capture} (h : Handed d w v sub) (r : Reading) (d' : String) (image : Nat) :
    Handed d (w.capture r d' image).1 (follow d v (w.capture r d' image).2)
      (sub ++ (submissionOf d (w.capture r d' image).2).toList) := by
  unfold LocalSources.capture
  split_ifs with hthread
  · -- the thread is that of a node
    have hlatest : ∀ k capture, (w.latest.set d' ⟨image, r.time * 1000⟩).get? k = some capture →
        (w.nodes.get? k).isSome := by
      intro k capture hk
      rw [Dict.get?_set] at hk
      split_ifs at hk with hkd
      · rw [hkd]; exact h.wired.threads d' hthread
      · exact h.wired.latest k capture hk
    have hsame : (follow d v (some (.captured d' ⟨image, r.time * 1000⟩))).2 = v.2 := by
      unfold follow
      dsimp only
      split_ifs <;> rfl
    refine ⟨{ h.wired with latest := hlatest }, ?_, ?_, ?_⟩
    · show (w.latest.set d' _).get? d = _
      unfold follow
      dsimp only
      rw [Dict.get?_set]
      by_cases hd : d' = d
      · rw [if_pos hd, if_pos hd.symm]
      · rw [if_neg hd, if_neg (Ne.symm hd)]
        exact h.kept
    · intro hopen
      rw [hsame]
      simpa [submissionOf] using h.pending hopen
    · intro hclosed
      rw [hsame]
      simpa [submissionOf] using h.stopped hclosed
  · simpa [submissionOf, follow] using h

theorem handed_wake {d : String} {w : LocalSources} {v : Option Capture × List Capture}
    {sub : List Capture} (h : Handed d w v sub) (r : Reading) :
    Handed d (w.wake r).1 (follow d v (w.wake r).2)
      (sub ++ (submissionOf d (w.wake r).2).toList) := by
  unfold LocalSources.wake
  split
  · rename_i hpump
    have hopen : w.closing = false := h.wired.open (by rw [hpump]; simp)
    refine ⟨⟨h.wired.threads, fun k capture hk => (by cases hk), ?_, fun hc => ?_, ?_⟩, rfl, ?_, ?_⟩
    · intro frame hframe
      rw [pump_next_frames] at hframe
      exact h.wired.latest frame.1 frame.2 ((w.latest.mem_items_iff).mp hframe)
    · rw [hopen] at hc; cases hc
    · exact fun _ _ => pump_next_ne_ended _
    · intro _
      have hpending := h.pending hopen
      rw [hpump] at hpending
      -- what the pump takes is what the dictionary holds
      show sub ++ [] ++ imagesOf d (Pump.next w.latest.items).frames = v.2 ++ v.1.toList
      rw [pump_next_frames, imagesOf_items, h.kept, ← hpending]
      simp [Pump.frames, imagesOf]
    · intro hc
      rw [hopen] at hc; cases hc
  · simpa [submissionOf, follow] using h

theorem handed_submit (py : Python) {d : String} {w : LocalSources}
    {v : Option Capture × List Capture} {sub : List Capture} (h : Handed d w v sub) (r : Reading) :
    Handed d (w.submit py r).1 (follow d v (w.submit py r).2)
      (sub ++ (submissionOf d (w.submit py r).2).toList) := by
  by_cases hsome : ∃ frame rest, w.pump = .submitting (frame :: rest)
  · obtain ⟨⟨d', capture⟩, rest, hpump⟩ := hsome
    have hopen : w.closing = false := h.wired.open (by rw [hpump]; simp)
    have hframes := h.wired.frames
    rw [hpump] at hframes
    -- the frame's camera is still attached, as the pump has not ended
    obtain ⟨⟨node, token⟩, hnode⟩ := Option.isSome_iff_exists.mp (hframes _ List.mem_cons_self)
    rw [submit_eq py r hpump hnode]
    refine ⟨⟨h.wired.threads, h.wired.latest, ?_, ?_, ?_⟩, h.kept, ?_, ?_⟩
    · dsimp only
      rw [pump_next_frames]
      exact fun frame hframe => hframes frame (List.mem_cons_of_mem _ hframe)
    · intro hc
      rw [hopen] at hc; cases hc
    · exact fun _ _ => pump_next_ne_ended _
    · intro _
      have hpending := h.pending hopen
      rw [hpump] at hpending
      dsimp only
      rw [pump_next_frames]
      show sub ++ _ ++ imagesOf d rest = v.2
      rw [← hpending]
      -- the first of the pending captures has been submitted
      show _ = sub ++ imagesOf d ((d', capture) :: rest)
      rw [imagesOf_cons, List.append_assoc]
      unfold submissionOf
      dsimp only
      split_ifs <;> rfl
    · intro hc
      rw [hopen] at hc; cases hc
  · -- without a frame there is nothing to submit
    have hidle : w.submit py r = (w, none) := by
      unfold LocalSources.submit
      split
      · rename_i hpump
        exact absurd ⟨_, _, hpump⟩ hsome
      · rfl
    rw [hidle]
    simpa [submissionOf, follow] using h

/-- **Every stretch hands on what the observations tell.** -/
theorem handed_step (py : Python) {d : String} {w : LocalSources}
    {v : Option Capture × List Capture} {sub : List Capture} (h : Handed d w v sub)
    (i : Reading × SourceAction) :
    Handed d (w.step py i).1 (follow d v (w.step py i).2)
      (sub ++ (submissionOf d (w.step py i).2).toList) := by
  obtain ⟨r, action⟩ := i
  cases action with
  | capture d' image => exact handed_capture h r d' image
  | wake => exact handed_wake h r
  | submit => exact handed_submit py h r
  | shutdown =>
      refine ⟨⟨h.wired.threads, h.wired.latest, fun frame hframe => (by cases hframe), fun _ => rfl,
        fun hopen => (by cases hopen)⟩, h.kept, fun hopen => (by cases hopen), fun _ => ?_⟩
      show sub ++ [] <+: v.2
      rw [List.append_nil]
      -- what the pump had still to submit is gone
      cases hc : w.closing with
      | true => exact h.stopped hc
      | false => exact ⟨_, h.pending hc⟩
  | detach =>
      show Handed d w.detach v (sub ++ [])
      rw [List.append_nil]
      unfold LocalSources.detach
      split_ifs
      · exact ⟨{ h.wired with }, h.kept, h.pending, h.stopped⟩
      · exact h
  | server action =>
      show Handed d _ v (sub ++ [])
      rw [List.append_nil]
      exact ⟨{ h.wired with }, h.kept, h.pending, h.stopped⟩

/-- What is seen of a run. -/
def observedIn (py : Python) (w : LocalSources) (run : List (Reading × SourceAction)) :
    List (Option Observed) :=
  (events (LocalSources.step py) w run).map (·.out)

theorem handed_run (py : Python) {d : String} {w : LocalSources}
    {v : Option Capture × List Capture} {sub : List Capture} (h : Handed d w v sub)
    (run : List (Reading × SourceAction)) :
    Handed d (final (LocalSources.step py) w run) ((observedIn py w run).foldl (follow d) v)
      (sub ++ (observedIn py w run).filterMap (submissionOf d)) := by
  induction run generalizing w v sub with
  | nil => simpa [observedIn, final] using h
  | cons i run ih =>
      have hnext := ih (handed_step py h i)
      rw [List.append_assoc] at hnext
      have hout : (submissionOf d (w.step py i).2).toList
          ++ (observedIn py (w.step py i).1 run).filterMap (submissionOf d)
          = (observedIn py w (i :: run)).filterMap (submissionOf d) := by
        show _ = ((w.step py i).2 :: observedIn py (w.step py i).1 run).filterMap _
        rw [List.filterMap_cons]
        cases submissionOf d (w.step py i).2 <;> rfl
      rw [hout] at hnext
      exact hnext

/-! ## The start -/

/-- What `start` has set up. -/
structure SetUp (w : LocalSources) : Prop where
  threads : ∀ d ∈ w.threads, (w.nodes.get? d).isSome
  latest : w.latest = ∅
  closing : w.closing = false

theorem attachAll_setUp {py : Python} {r : Reading} {uuids : String → String} {w w' : LocalSources}
    {items : List (String × Json)} (h : SetUp w)
    (hall : LocalSources.attachAll py r uuids w items = .ok w') :
    SetUp w' ∧ w'.pump = w.pump ∧ (items = [] → w' = w) := by
  induction items generalizing w with
  | nil =>
      obtain rfl := Except.ok.inj hall
      exact ⟨h, rfl, fun _ => rfl⟩
  | cons item items ih =>
      obtain ⟨d, source⟩ := item
      unfold LocalSources.attachAll at hall
      split_ifs at hall
      refine ⟨(ih ?_ hall).1, (ih ?_ hall).2.1, fun hnil => by cases hnil⟩
      all_goals
        refine ⟨fun d' hd' => ?_, h.latest, h.closing⟩
        show ((w.nodes.set d _).get? d').isSome
        rw [Dict.get?_set]
        split_ifs with hsame
        · rfl
        · rcases List.mem_append.mp hd' with hold | hnew
          · exact h.threads d' hold
          · exact absurd (List.mem_singleton.mp hnew) hsame

/-- The sources as they are constructed. -/
def constructed (s : Server) (socket : Socket) : LocalSources := { server := s, socket := socket }

theorem start_eq_ok {py : Python} {w w' : LocalSources} {r : Reading} {uuids : String → String}
    {sources : Json} (h : w.start py r uuids sources = .ok w') :
    ∃ fields w₁, sources.toDict = some fields ∧ (∀ d ∈ fields.keys, d ∈ directions)
      ∧ LocalSources.attachAll py r uuids w fields.items = .ok w₁
      ∧ w' = w₁.startPump fields.items := by
  unfold LocalSources.start at h
  split at h
  · cases h
  · rename_i fields hfields
    split_ifs at h with hkeys
    refine ⟨fields, ?_⟩
    cases hall : LocalSources.attachAll py r uuids w fields.items with
    | error e => rw [hall] at h; cases h
    | ok w₁ =>
        rw [hall] at h
        refine ⟨w₁, hfields, fun d hd => ?_, rfl, (Except.ok.inj h).symm⟩
        by_contra hno
        exact hkeys (List.any_eq_true.mpr ⟨d, hd, by simpa using hno⟩)

theorem start_handed {py : Python} {s : Server} {socket : Socket} {r : Reading}
    {uuids : String → String} {sources : Json} {w : LocalSources}
    (hstart : (constructed s socket).start py r uuids sources = .ok w) (d : String) :
    Handed d w (none, []) [] := by
  obtain ⟨fields, w', -, -, hall, rfl⟩ := start_eq_ok hstart
  have hempty : SetUp (constructed s socket) :=
    ⟨fun d hd => absurd hd List.not_mem_nil, rfl, rfl⟩
  obtain ⟨hset, hpump, hnone⟩ := attachAll_setUp hempty hall
  have hlatest : ∀ k capture, w'.latest.get? k = some capture → (w'.nodes.get? k).isSome := by
    intro k capture hk
    rw [hset.latest] at hk
    cases hk
  have hopen : ∀ {P : Prop}, w'.closing = true → P := by
    intro P hc
    rw [hset.closing] at hc
    cases hc
  have hkept : w'.latest.get? d = none := by rw [hset.latest]; rfl
  unfold LocalSources.startPump
  split_ifs with hitems
  · -- no source, and no thread
    have hw := hnone (List.isEmpty_iff.mp hitems)
    have hframes : w'.pump.frames = [] := by rw [hpump]; rfl
    refine ⟨⟨hset.threads, hlatest, fun frame hframe => ?_, hopen, fun _ hthreads => ?_⟩, hkept,
      fun _ => ?_, hopen⟩
    · rw [hframes] at hframe
      exact absurd hframe List.not_mem_nil
    · rw [hw] at hthreads
      exact absurd rfl hthreads
    · rw [hframes]; rfl
  · exact ⟨⟨hset.threads, hlatest, fun frame hframe => absurd hframe List.not_mem_nil, hopen,
      fun _ _ => by simp⟩, hkept, fun _ => rfl, hopen⟩

/--
**The pump hands over the newest images.** Whatever else goes on between them, what
the pump submits for a direction is what was newest each time it took the images:
in the order in which the camera read them, none twice. It lags behind by what
it has just taken, and it ends at `shutdown` and nowhere else.
-/
theorem newest_images_submitted (py : Python) {s : Server} {socket : Socket} {r : Reading}
    {uuids : String → String} {sources : Json} {w : LocalSources}
    (hstart : (constructed s socket).start py r uuids sources = .ok w)
    (run : List (Reading × SourceAction)) (d : String) :
    let os := observedIn py w run
    let w' := final (LocalSources.step py) w run
    os.filterMap (submissionOf d) <+: newestTaken d os
      ∧ (newestTaken d os).Sublist (os.filterMap (captureOf d))
      ∧ (w'.closing = false →
          os.filterMap (submissionOf d) ++ imagesOf d w'.pump.frames = newestTaken d os
            ∧ (w'.threads ≠ [] → w'.pump ≠ .ended)) := by
  intro os w'
  have h := handed_run py (start_handed hstart d) run
  rw [List.nil_append] at h
  refine ⟨?_, newestTaken_sublist d os, fun hopen => ⟨h.pending hopen, h.wired.alive hopen⟩⟩
  cases hc : w'.closing with
  | true => exact h.stopped hc
  | false => exact ⟨_, h.pending hc⟩

/-- Two cameras: the north one reads three images before the pump wakes, the east one none. -/
def twoCameras : Json := .obj [("north", .int 0), ("east", .str "rtsp://camera/stream")]

def cameraTokens (direction : String) : String := direction ++ "-token"

def startedCameras : LocalSources :=
  ((constructed {} 9).start plainPython (readingAt 0 "t0") cameraTokens twoCameras).toOption.getD
    (constructed {} 9)

def cameraRun : List (Reading × SourceAction) :=
  [(readingAt 1 "", .capture "north" 1), (readingAt 1 "", .capture "north" 2),
   (readingAt 1 "", .capture "north" 3), (readingAt 2 "", .wake), (readingAt 2 "", .submit),
   (readingAt 3 "", .capture "north" 4), (readingAt 4 "", .wake)]

theorem newest_images_submitted_two :
    ∃ w, (constructed {} 9).start plainPython (readingAt 0 "t0") cameraTokens twoCameras = .ok w
      ∧ (newestTaken "north" (observedIn plainPython w cameraRun)).map (·.image) = [3, 4]
      ∧ (newestTaken "north" (observedIn plainPython w cameraRun)).Sublist
          ((observedIn plainPython w cameraRun).filterMap (captureOf "north")) := by
  refine ⟨startedCameras, rfl, by decide +kernel, ?_⟩
  exact (newest_images_submitted plainPython (rfl : (constructed {} 9).start plainPython
    (readingAt 0 "t0") cameraTokens twoCameras = .ok startedCameras) cameraRun "north").2.1

end SmartTraffic.Proof
