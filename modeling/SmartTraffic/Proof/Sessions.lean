import SmartTraffic.Lib.Run
import SmartTraffic.Proof.Ownership

/-!
# One live session for each approach

Sequences of operations on the session table, with a clock that never runs
back. Whether a session is live depends on the reading, so the invariant does as
well: at the last reading no two live sessions share an approach. Time only
takes sessions away from it, a heartbeat is refreshed only while its session is
live, and a new session evicts the one live session it may meet.
-/

namespace SmartTraffic.Proof

open SmartTraffic Lib

/-! ## Operations -/

/-- What happens to a session table. -/
inductive SessionOp
  /-- `create_session` with the token that `uuid4` yields, and the `streaming` its caller sets. -/
  | createSession (nodeId direction token : String) (streaming : Bool)
  | updateHeartbeat (nodeId token : String)
  /-- A message with these values of `node_id` and `session_token` is authenticated. -/
  | authenticate (nodeId token : Json)
  | removeSession (nodeId : String)
  | cleanupExpiredSessions
  /-- Time passes. -/
  | pass

/-- The operation creates a session of the node with the token. -/
def SessionOp.Issues (op : SessionOp) (node token : String) : Prop :=
  ∃ direction streaming, op = .createSession node direction token streaming

/-- One operation at a reading of the clock. -/
def sessionStep (py : Python) (m : SessionManager) (i : Rat × SessionOp) : SessionManager × Unit :=
  (match i.2 with
    | .createSession nodeId direction token streaming =>
        m.createSession py nodeId direction token i.1 streaming
    | .updateHeartbeat nodeId token => m.refreshHeartbeat (.str nodeId) (.str token) i.1
    | .authenticate nodeId token => m.refreshHeartbeat nodeId token i.1
    | .removeSession nodeId => m.removeSession nodeId
    | .cleanupExpiredSessions => m.cleanupExpiredSessions i.1
    | .pass => m, ())

/-! ## Expiry -/

theorem isExpired_mono {s : NodeSession} {c now : Rat} (hc : c ≤ now)
    (h : s.isExpired c = true) : s.isExpired now = true := by
  have hlt := of_decide_eq_true h
  exact decide_eq_true (by linarith)

theorem live_of_later {s : NodeSession} {c now : Rat} (hc : c ≤ now)
    (h : s.isExpired now = false) : s.isExpired c = false := by
  by_contra hno
  rw [isExpired_mono hc (by simpa using hno)] at h
  nomatch h

/-- The same session later on: it is live at the reading only if it was so before. -/
structure Continues (r : Rat) (s s' : NodeSession) : Prop where
  identity : s.identity = s'.identity
  live : s'.isExpired r = false → s.isExpired r = false

theorem continues_refl (r : Rat) (s : NodeSession) : Continues r s s := ⟨rfl, fun h => h⟩

theorem Continues.token {r : Rat} {s s' : NodeSession} (h : Continues r s s') :
    s'.sessionToken = s.sessionToken :=
  (congrArg (fun x : String × String × String × Rat => x.2.1) h.identity).symm

theorem Continues.direction {r : Rat} {s s' : NodeSession} (h : Continues r s s') :
    s'.cameraDirection = s.cameraDirection :=
  (congrArg (fun x : String × String × String × Rat => x.2.2.1) h.identity).symm

theorem Continues.nodeId {r : Rat} {s s' : NodeSession} (h : Continues r s s') :
    s'.nodeId = s.nodeId :=
  (congrArg (fun x : String × String × String × Rat => x.1) h.identity).symm

/-! ## What an operation leaves -/

/-- Every session of `m'` was there before and is not livelier for it. -/
def Survives (r : Rat) (m m' : SessionManager) : Prop :=
  ∀ node s', m'.sessions.get? node = some s' →
    ∃ s, m.sessions.get? node = some s ∧ Continues r s s'

theorem survives_of_shrinks {r : Rat} {m m' : SessionManager} (h : m.sessions.Shrinks m'.sessions) :
    Survives r m m' := fun node s' hs => ⟨s', h node s' hs, continues_refl r s'⟩

/-- **A heartbeat is refreshed only while its session is live.** -/
theorem refreshHeartbeat_survives (m : SessionManager) (nodeId token : Json) (r : Rat) :
    Survives r m (m.refreshHeartbeat nodeId token r) := by
  unfold SessionManager.refreshHeartbeat
  split
  · rename_i node hvalid
    obtain ⟨node', session, hnode, hget, hlive, -⟩ := validateSession_ok hvalid
    obtain rfl := Json.str.inj hnode
    intro n s' hs'
    unfold SessionManager.beat SessionManager.update at hs'
    rw [hget] at hs'
    dsimp only at hs'
    by_cases hn : n = node
    · subst hn
      rw [Dict.get?_set_self] at hs'
      obtain rfl := Option.some.inj hs'
      exact ⟨session, hget, rfl, fun _ => hlive⟩
    · rw [Dict.get?_set_of_ne _ _ hn] at hs'
      exact ⟨s', hs', continues_refl r s'⟩
  · exact survives_of_shrinks (Dict.shrinks_refl _)

theorem cleanup_shrinks (m : SessionManager) (nodes : List String) :
    m.sessions.Shrinks (nodes.foldl SessionManager.removeSession m).sessions := by
  induction nodes generalizing m with
  | nil => exact Dict.shrinks_refl _
  | cons node nodes ih => exact (Dict.shrinks_erase m.sessions node).trans (ih _)

/-- **An operation creates a session, or what is left was there before.** -/
theorem sessionStep_cases (py : Python) (m : SessionManager) (i : Rat × SessionOp) :
    (∃ node direction token streaming, i.2 = .createSession node direction token streaming)
      ∨ Survives i.1 m (sessionStep py m i).1 := by
  obtain ⟨r, op⟩ := i
  cases op with
  | createSession node direction token streaming =>
      exact Or.inl ⟨node, direction, token, streaming, rfl⟩
  | updateHeartbeat node token => exact Or.inr (refreshHeartbeat_survives m _ _ r)
  | authenticate node token => exact Or.inr (refreshHeartbeat_survives m _ _ r)
  | removeSession node => exact Or.inr (survives_of_shrinks (Dict.shrinks_erase _ _))
  | cleanupExpiredSessions => exact Or.inr (survives_of_shrinks (cleanup_shrinks m _))
  | pass => exact Or.inr (survives_of_shrinks (Dict.shrinks_refl _))

/-! ## At most one live session -/

/-- What holds of a table when the clock last read `c`. -/
structure OneLive (py : Python) (m : SessionManager) (c : Rat) : Prop where
  /-- A session stands under its own node. -/
  keyed : ∀ node s, m.sessions.get? node = some s → s.nodeId = node
  /-- No two live sessions share a direction, as the search for one compares them. -/
  unique : ∀ node node' s s', m.sessions.get? node = some s → m.sessions.get? node' = some s' →
    py.lower s.cameraDirection = py.lower s'.cameraDirection →
    s.isExpired c = false → s'.isExpired c = false → node = node'

theorem oneLive_empty {py : Python} {m : SessionManager} {c : Rat} (h : m.sessions = ∅) :
    OneLive py m c := by
  have hnone : ∀ n s, m.sessions.get? n ≠ some s := fun n s hs => by rw [h] at hs; nomatch hs
  exact ⟨fun n s hs => absurd hs (hnone n s), fun n _ s _ hs => absurd hs (hnone n s)⟩

theorem oneLive_later {py : Python} {m : SessionManager} {c now : Rat} (h : OneLive py m c)
    (hc : c ≤ now) : OneLive py m now :=
  ⟨h.keyed, fun n n' s s' hs hs' hd hlive hlive' =>
    h.unique n n' s s' hs hs' hd (live_of_later hc hlive) (live_of_later hc hlive')⟩

theorem oneLive_survives {py : Python} {m m' : SessionManager} {r : Rat} (h : OneLive py m r)
    (hs : Survives r m m') : OneLive py m' r := by
  refine ⟨fun n s' hn => ?_, fun n n' s' t' hn hn' hd hlive hlive' => ?_⟩
  · obtain ⟨s, hget, hcont⟩ := hs n s' hn
    exact hcont.nodeId.trans (h.keyed n s hget)
  · obtain ⟨s, hget, hcont⟩ := hs n s' hn
    obtain ⟨t, hget', hcont'⟩ := hs n' t' hn'
    rw [hcont.direction, hcont'.direction] at hd
    exact h.unique n n' s t hget hget' hd (hcont.live hlive) (hcont'.live hlive')

/-- **The session found for a direction is the one live session it has.** -/
theorem getSessionByDirection_unique {py : Python} {m : SessionManager} {r : Rat}
    (h : OneLive py m r) {node direction : String} {s : NodeSession}
    (hget : m.sessions.get? node = some s)
    (hd : py.lower s.cameraDirection = cleanDirection py direction)
    (hlive : s.isExpired r = false) :
    ∃ found, m.getSessionByDirection py direction r = some found ∧ found.nodeId = node := by
  have hmatch : (py.lower s.cameraDirection = cleanDirection py direction
      && !s.isExpired r) = true := by simp [hd, hlive]
  unfold SessionManager.getSessionByDirection
  cases hfind : m.sessions.values.find? _ with
  | none => exact absurd hmatch (List.find?_eq_none.mp hfind s ((Dict.mem_values_iff _).mpr
      ⟨node, hget⟩))
  | some found =>
      refine ⟨found, rfl, ?_⟩
      obtain ⟨node', hget'⟩ := (Dict.mem_values_iff _).mp (List.mem_of_find?_eq_some hfind)
      have hfound := List.find?_some hfind
      obtain ⟨hdir, hlive'⟩ := Bool.and_eq_true_iff.mp hfound
      have hsame : py.lower found.cameraDirection = py.lower s.cameraDirection :=
        (of_decide_eq_true hdir).trans hd.symm
      rw [h.keyed node' found hget']
      exact h.unique node' node found s hget' hget hsame (Bool.not_eq_true' _ |>.mp hlive') hlive

/-- **A new session meets no live one of its direction.** -/
theorem oneLive_create {py : Python} {m : SessionManager} {r : Rat} (h : OneLive py m r)
    {direction : String} (hclean : cleanDirection py (cleanDirection py direction)
      = py.lower (cleanDirection py direction)) (nodeId token : String) (streaming : Bool) :
    OneLive py (m.createSession py nodeId direction token r streaming) r := by
  have hnew : ∀ n s, (m.createSession py nodeId direction token r streaming).sessions.get? n
      = some s → n = nodeId ∧ s = m.newSession py nodeId direction token r streaming
        ∨ n ≠ nodeId ∧ m.sessions.get? n = some s
          ∧ (m.evict py nodeId (cleanDirection py direction) r).sessions.get? n = some s := by
    intro n s hs
    unfold SessionManager.createSession at hs
    dsimp only at hs
    by_cases hn : n = nodeId
    · subst hn
      rw [Dict.get?_set_self] at hs
      exact Or.inl ⟨rfl, (Option.some.inj hs).symm⟩
    · rw [Dict.get?_set_of_ne _ _ hn] at hs
      exact Or.inr ⟨hn, evict_shrinks _ _ _ _ _ n s hs, hs⟩
  -- another live session of the direction would have been evicted
  have hevicted : ∀ n s, n ≠ nodeId → m.sessions.get? n = some s →
      (m.evict py nodeId (cleanDirection py direction) r).sessions.get? n = some s →
      py.lower s.cameraDirection = py.lower (cleanDirection py direction) →
      s.isExpired r = false → False := by
    intro n s hn hget hleft hd hlive
    rw [← hclean] at hd
    obtain ⟨found, hfound, hnode⟩ := getSessionByDirection_unique h hget hd hlive
    unfold SessionManager.evict at hleft
    rw [hfound] at hleft
    dsimp only at hleft
    rw [hnode, if_pos hn] at hleft
    exact (Dict.get?_of_get?_erase m.sessions hleft).1 rfl
  refine ⟨fun n s hs => ?_, fun n n' s s' hs hs' hd hlive hlive' => ?_⟩
  · rcases hnew n s hs with ⟨rfl, rfl⟩ | ⟨-, hget, -⟩
    · rfl
    · exact h.keyed n s hget
  · rcases hnew n s hs with ⟨hn, rfl⟩ | ⟨hn, hget, hleft⟩
    · rcases hnew n' s' hs' with ⟨hn', -⟩ | ⟨hn', hget', hleft'⟩
      · exact hn.trans hn'.symm
      · exact (hevicted n' s' hn' hget' hleft' hd.symm hlive').elim
    · rcases hnew n' s' hs' with ⟨hn', rfl⟩ | ⟨hn', hget', hleft'⟩
      · exact (hevicted n s hn hget hleft hd hlive).elim
      · exact h.unique n n' s s' hget hget' hd hlive hlive'

section

/-! No text but the empty one is lowered to the empty one. -/

variable {py : Python} (hlower : ∀ s, s ≠ "" → py.lower s ≠ "")

include hlower in
/-- A cleaned direction is cleaned by lowering it. -/
theorem cleanDirection_cleanDirection (direction : String) :
    cleanDirection py (cleanDirection py direction) = py.lower (cleanDirection py direction) := by
  have hclean : cleanDirection py direction ≠ "" := by
    refine hlower _ ?_
    split_ifs with hempty
    · decide
    · exact hempty
  show py.lower (if cleanDirection py direction = "" then _ else _) = _
  rw [if_neg hclean]

include hlower in
theorem oneLive_step {m : SessionManager} {i : Rat × SessionOp} (h : OneLive py m i.1) :
    OneLive py (sessionStep py m i).1 i.1 := by
  obtain ⟨r, op⟩ := i
  rcases sessionStep_cases py m (r, op) with ⟨node, direction, token, streaming, hop⟩ | hs
  · obtain rfl : op = _ := hop
    exact oneLive_create h (cleanDirection_cleanDirection hlower direction) node token streaming
  · exact oneLive_survives h hs

include hlower in
/-- The invariant at the end of a run, at any reading from its last one on. -/
theorem oneLive_run {m : SessionManager} {c now : Rat} {run : List (Rat × SessionOp)}
    (h : OneLive py m c) (hclock : (c :: run.map Prod.fst).Pairwise (· ≤ ·)) (hc : c ≤ now)
    (hnow : ∀ i ∈ run, i.1 ≤ now) : OneLive py (final (sessionStep py) m run) now := by
  induction run generalizing m c with
  | nil => exact oneLive_later h hc
  | cons i run ih =>
      obtain ⟨hle, hrest⟩ := List.pairwise_cons.mp hclock
      have hi : OneLive py m i.1 := oneLive_later h (hle _ (List.mem_map_of_mem List.mem_cons_self))
      rw [final_cons]
      exact ih (oneLive_step hlower hi) hrest (hnow i List.mem_cons_self)
        fun j hj => hnow j (List.mem_cons_of_mem _ hj)

end

/-! ## What has expired stays expired -/

/-- The node has no live session with the token. -/
def Dead (m : SessionManager) (node token : String) (c : Rat) : Prop :=
  m.validateSession (.str node) (.str token) c ≠ .ok true

theorem dead_iff {m : SessionManager} {node token : String} {c : Rat} : Dead m node token c
    ↔ ∀ s, m.sessions.get? node = some s → s.sessionToken = token → s.isExpired c = true := by
  unfold Dead SessionManager.validateSession Dict.lookupJson
  dsimp only
  cases hget : m.sessions.get? node with
  | none => exact iff_of_true (by simp) fun s hs => nomatch hs
  | some s =>
      dsimp only
      constructor
      · intro h s' hs' htoken
        obtain rfl := Option.some.inj hs'
        by_contra hlive
        refine h (congrArg Except.ok ?_)
        rw [Json.isStr_iff.mpr (congrArg Json.str htoken.symm)]
        simpa using hlive
      · intro h hvalid
        obtain ⟨hlive, htoken⟩ := Bool.and_eq_true_iff.mp (Except.ok.inj hvalid)
        rw [h s rfl (Json.str.inj (Json.isStr_iff.mp htoken)).symm] at hlive
        nomatch hlive

theorem dead_later {m : SessionManager} {node token : String} {c now : Rat}
    (h : Dead m node token c) (hc : c ≤ now) : Dead m node token now :=
  dead_iff.mpr fun s hs htoken => isExpired_mono hc (dead_iff.mp h s hs htoken)

theorem dead_step {py : Python} {m : SessionManager} {node token : String} {c : Rat}
    {i : Rat × SessionOp} (hc : c ≤ i.1) (h : Dead m node token c)
    (hno : ¬i.2.Issues node token) : Dead (sessionStep py m i).1 node token i.1 := by
  obtain ⟨r, op⟩ := i
  rw [dead_iff] at h ⊢
  intro s' hs' htoken
  rcases sessionStep_cases py m (r, op) with ⟨n, direction, tok, streaming, hop⟩ | hs
  · obtain rfl : op = _ := hop
    rcases createSession_get? hs' with ⟨rfl, rfl⟩ | hold
    · -- the new session has another token
      exact absurd ⟨direction, streaming, by rw [show tok = token from htoken]⟩ hno
    · exact isExpired_mono hc (h s' hold htoken)
  · obtain ⟨s, hget, hcont⟩ := hs node s' hs'
    by_contra hlive
    have hlive := hcont.live (by simpa using hlive)
    have hexp := isExpired_mono hc (h s hget (hcont.token.symm.trans htoken))
    rw [hexp] at hlive
    nomatch hlive

/-- **What has expired stays expired**, until its token is issued once more. -/
theorem dead_run {py : Python} {m : SessionManager} {node token : String} {c now : Rat}
    {run : List (Rat × SessionOp)} (h : Dead m node token c)
    (hclock : (c :: run.map Prod.fst).Pairwise (· ≤ ·)) (hc : c ≤ now)
    (hnow : ∀ i ∈ run, i.1 ≤ now) (hno : ∀ i ∈ run, ¬i.2.Issues node token) :
    Dead (final (sessionStep py) m run) node token now := by
  induction run generalizing m c with
  | nil => exact dead_later h hc
  | cons i run ih =>
      obtain ⟨hle, hrest⟩ := List.pairwise_cons.mp hclock
      have hi : c ≤ i.1 := hle _ (List.mem_map_of_mem List.mem_cons_self)
      rw [final_cons]
      exact ih (dead_step hi h (hno i List.mem_cons_self)) hrest (hnow i List.mem_cons_self)
        (fun j hj => hnow j (List.mem_cons_of_mem _ hj))
        fun j hj => hno j (List.mem_cons_of_mem _ hj)

/--
**At most one live session for each approach, and no revival.** In a run from an
empty table, at every reading from its last one on, two unexpired sessions of one
direction are the same session. And a node that has no live session with a token
gets none with it, unless a session is created with that very token.
-/
theorem one_live_session_per_approach (py : Python) (hlower : ∀ s, s ≠ "" → py.lower s ≠ "")
    (m : SessionManager) (hm : m.sessions = ∅) (run : List (Rat × SessionOp))
    (hclock : (run.map Prod.fst).Pairwise (· ≤ ·)) :
    (∀ now, (∀ i ∈ run, i.1 ≤ now) → ∀ node node' s s',
      (final (sessionStep py) m run).sessions.get? node = some s →
      (final (sessionStep py) m run).sessions.get? node' = some s' →
      s.cameraDirection = s'.cameraDirection → s.isExpired now = false →
      s'.isExpired now = false → node = node')
    ∧ ∀ before after, run = before ++ after → ∀ node token c, (∀ i ∈ before, i.1 ≤ c) →
      (∀ i ∈ after, c ≤ i.1) → Dead (final (sessionStep py) m before) node token c →
      (∀ i ∈ after, ¬i.2.Issues node token) → ∀ now, c ≤ now → (∀ i ∈ after, i.1 ≤ now) →
      Dead (final (sessionStep py) m run) node token now := by
  constructor
  · intro now hnow node node' s s' hs hs' hd hlive hlive'
    have hone : OneLive py (final (sessionStep py) m run) now := by
      cases run with
      | nil => exact oneLive_empty hm
      | cons i run =>
          have hfirst : ((i.1) :: (i :: run).map Prod.fst).Pairwise (· ≤ ·) := by
            rw [List.map_cons] at hclock ⊢
            refine List.pairwise_cons.mpr ⟨fun a ha => ?_, hclock⟩
            rcases List.mem_cons.mp ha with rfl | ha
            · exact le_refl _
            · exact (List.pairwise_cons.mp hclock).1 a ha
          exact oneLive_run hlower (oneLive_empty hm) hfirst (hnow i List.mem_cons_self) hnow
    exact hone.unique node node' s s' hs hs' (congrArg py.lower hd) hlive hlive'
  · rintro before after rfl node token c - hafter hdead hno now hc hnow
    rw [final_append]
    rw [List.map_append] at hclock
    have hrest : (c :: after.map Prod.fst).Pairwise (· ≤ ·) := by
      refine List.pairwise_cons.mpr ⟨fun a ha => ?_, (List.pairwise_append.mp hclock).2.1⟩
      obtain ⟨i, hi, rfl⟩ := List.mem_map.mp ha
      exact hafter i hi
    exact dead_run hdead hrest hc hnow hno

/-- A camera falls silent, another one takes its approach, and the first one speaks again. -/
def sampleSessions : List (Rat × SessionOp) :=
  [(0, .createSession "CAM-1" "north" "t0" true),
   (20, .createSession "CAM-2" "north" "t1" true),
   (21, .updateHeartbeat "CAM-1" "t0"),
   (25, .authenticate (.str "CAM-2") (.str "t1"))]

-- the expired session lingers beside the new one
example : ((final (sessionStep plainPython) {} sampleSessions).sessions.keys,
    (final (sessionStep plainPython) {} sampleSessions).expiredSessions 25)
      = (["CAM-1", "CAM-2"], ["CAM-1"]) := by decide +kernel

theorem sampleSessions_one_live :
    (∀ node node' s s',
      (final (sessionStep plainPython) {} sampleSessions).sessions.get? node = some s →
      (final (sessionStep plainPython) {} sampleSessions).sessions.get? node' = some s' →
      s.cameraDirection = s'.cameraDirection → s.isExpired 25 = false →
      s'.isExpired 25 = false → node = node')
    ∧ Dead (final (sessionStep plainPython) {} sampleSessions) "CAM-1" "t0" 30 := by
  have h := one_live_session_per_approach plainPython (fun _ hs => hs) {} rfl sampleSessions
    (by decide +kernel)
  refine ⟨h.1 25 (by decide +kernel), ?_⟩
  -- dead before the second registration already
  refine h.2 (sampleSessions.take 1) (sampleSessions.drop 1) rfl "CAM-1" "t0" 20
    (by decide +kernel) (by decide +kernel) ?_ ?_ 30 (by decide +kernel) (by decide +kernel)
  · exact dead_iff.mpr fun s hs _ => by
      obtain rfl := Option.some.inj hs
      decide +kernel
  · rintro i hi ⟨direction, streaming, hop⟩
    simp only [sampleSessions, List.drop_succ_cons, List.drop_zero, List.mem_cons,
      List.not_mem_nil, or_false] at hi
    rcases hi with rfl | rfl | rfl
    · exact absurd (SessionOp.createSession.inj hop).1 (by decide)
    · nomatch hop
    · nomatch hop

end SmartTraffic.Proof
