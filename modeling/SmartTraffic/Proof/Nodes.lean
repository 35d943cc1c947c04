import SmartTraffic.Proof.Registration
import SmartTraffic.Rest.Service

/-!
# The list of nodes

The operator's list is put together from the sessions and, for what they leave open, from the
pairings, by comparing the beginning of a title with a direction. Two live sessions of one
approach would both be listed, and a session of no approach would leave its slot open; the
server has neither.
-/

namespace SmartTraffic.Proof

open SmartTraffic Lib Rest

/-! ## One entry -/

/-- The title of an approach begins with its direction and with no other. -/
theorem approachTitle_begins {d d' : String} (hd : d ∈ directions) (hd' : d' ∈ directions) :
    d'.toList.isPrefixOf (lower (approachTitle d)) = decide (d = d') := by
  have h : ∀ d ∈ directions, ∀ d' ∈ directions,
      d'.toList.isPrefixOf (lower (approachTitle d)) = decide (d = d') := by decide +kernel
  exact h d hd d' hd'

/-- The one entry of a list that satisfies a test. -/
theorem filter_eq_find_toList {α : Type} {l : List α} {p : α → Bool} (hnodup : l.Nodup)
    (h : ∀ x ∈ l, ∀ y ∈ l, p x = true → p y = true → x = y) : l.filter p = (l.find? p).toList := by
  induction l with
  | nil => rfl
  | cons a l ih =>
      obtain ⟨hnotMem, hnodup⟩ := List.nodup_cons.mp hnodup
      cases ha : p a with
      | false =>
          rw [List.filter_cons_of_neg (by simp [ha]), List.find?_cons_of_neg (by simp [ha])]
          exact ih hnodup fun x hx y hy =>
            h x (List.mem_cons_of_mem _ hx) y (List.mem_cons_of_mem _ hy)
      | true =>
          rw [List.filter_cons_of_pos ha, List.find?_cons_of_pos ha]
          have hrest : l.filter p = [] := by
            refine List.filter_eq_nil_iff.mpr fun x hx hpx => ?_
            have heq := h x (List.mem_cons_of_mem _ hx) a List.mem_cons_self hpx ha
            exact hnotMem (heq ▸ hx)
          rw [hrest]
          rfl

section

variable {py : Python} {m : SessionManager} {now : Rat}

/-- The session is live and has the direction, as the search for one tests it. -/
def isLiveFor (py : Python) (now : Rat) (d : String) (session : NodeSession) : Bool :=
  decide (py.lower session.cameraDirection = cleanDirection py d) && !session.isExpired now

/-- The sessions that a search for the direction may find are the one that it finds. -/
theorem liveSessions_eq (hlive : OneLive py m now) {d : String} :
    m.sessions.values.filter (isLiveFor py now d)
      = (m.getSessionByDirection py d now).toList := by
  have hitems : m.sessions.items.filter (isLiveFor py now d ∘ Prod.snd)
      = (m.sessions.items.find? (isLiveFor py now d ∘ Prod.snd)).toList := by
    refine filter_eq_find_toList m.sessions.nodup.of_map ?_
    rintro ⟨node, session⟩ hmem ⟨node', session'⟩ hmem' hp hp'
    have hget := (Dict.mem_items_iff _).mp hmem
    have hget' := (Dict.mem_items_iff _).mp hmem'
    obtain ⟨hd, hexpired⟩ := Bool.and_eq_true_iff.mp hp
    obtain ⟨hd', hexpired'⟩ := Bool.and_eq_true_iff.mp hp'
    obtain rfl := hlive.unique node node' session session' hget hget'
      ((of_decide_eq_true hd).trans (of_decide_eq_true hd').symm)
      (by simpa using hexpired) (by simpa using hexpired')
    rw [Option.some.inj (hget.symm.trans hget')]
  have hfind : m.getSessionByDirection py d now
      = (m.sessions.items.find? (isLiveFor py now d ∘ Prod.snd)).map Prod.snd :=
    List.find?_map
  unfold Dict.values
  rw [List.filter_map, hitems, hfind]
  cases m.sessions.items.find? (isLiveFor py now d ∘ Prod.snd) with
  | none => rfl
  | some item => rfl

/-- The entries of live sessions that serve a direction. -/
theorem liveItems_serving (hdirections : ∀ node session, m.sessions.get? node = some session →
      session.cameraDirection ∈ directions) (hlive : OneLive py m now) {d : String}
    (hd : d ∈ directions) :
    (liveItems m now).filter (·.serves d)
      = ((m.getSessionByDirection py d now).map connectedItem).toList := by
  unfold liveItems
  rw [List.filter_map, List.filter_filter]
  have hsame : m.sessions.values.filter (fun session =>
      ((fun item : NodeItem => item.serves d) ∘ connectedItem) session && !session.isExpired now)
      = m.sessions.values.filter (isLiveFor py now d) := by
    refine List.filter_congr fun session hsession => ?_
    obtain ⟨node, hget⟩ := (Dict.mem_values_iff _).mp hsession
    have hmem := hdirections node session hget
    have hserves : (connectedItem session).serves d = decide (session.cameraDirection = d) :=
      approachTitle_begins hmem hd
    unfold isLiveFor
    rw [Function.comp_apply, hserves, lower_direction py hmem, cleanDirection_direction py hd]
  rw [hsame, liveSessions_eq hlive]
  cases m.getSessionByDirection py d now with
  | none => rfl
  | some session => rfl

/-! ## The slots -/

theorem slotItem_serves {d d' : String} (hd : d ∈ directions) (hd' : d' ∈ directions)
    (pairing : Option PairingSession) : (slotItem d pairing).serves d' = decide (d = d') :=
  approachTitle_begins hd hd'

/-- The pairing that is found for a direction, unless it has expired. -/
theorem getPairing_fst {d : String} (hd : d ∈ directions) :
    (m.getPairing py d now).1
      = (m.pairingSessions.get? d).filter fun pairing => !decide (pairing.expiresAt < now) := by
  unfold SessionManager.getPairing
  rw [cleanDirection_direction py hd]
  cases m.pairingSessions.get? d with
  | none => rfl
  | some pairing =>
      by_cases hexpired : pairing.expiresAt < now
      · simp [hexpired, Option.filter]
      · simp [hexpired, Option.filter]

/-- A pairing that is looked at leaves those of the other directions. -/
theorem getPairing_getPairing {d d' : String} (hd : d ∈ directions) (hd' : d' ∈ directions)
    (hne : d' ≠ d) :
    ((m.getPairing py d now).2.getPairing py d' now).1 = (m.getPairing py d' now).1 := by
  have hlookup : (m.getPairing py d now).2.pairingSessions.get? d' = m.pairingSessions.get? d' := by
    unfold SessionManager.getPairing
    rw [cleanDirection_direction py hd]
    cases m.pairingSessions.get? d with
    | none => rfl
    | some pairing =>
        dsimp only
        split_ifs
        · unfold SessionManager.clearPairing
          rw [cleanDirection_direction py hd]
          exact Dict.get?_erase_of_ne _ hne
        · rfl
  rw [getPairing_fst hd', getPairing_fst hd', hlookup]

end

/-- **The loop adds a slot for every direction that no entry serves,** and does nothing else. -/
theorem addSlot_foldl (py : Python) (now : Rat) {ds : List String} (hnodup : ds.Nodup)
    (hds : ∀ d ∈ ds, d ∈ directions) (items : List NodeItem) (m : SessionManager) :
    (ds.foldl (addSlot py now) (items, m)).1
        = items ++ (ds.filter fun d => !items.any (·.serves d)).map
          (fun d => slotItem d (m.getPairing py d now).1)
      ∧ (ds.foldl (addSlot py now) (items, m)).2.sessions = m.sessions := by
  induction ds generalizing items m with
  | nil => exact ⟨(List.append_nil items).symm, rfl⟩
  | cons d ds ih =>
      obtain ⟨hnotMem, hnodup⟩ := List.nodup_cons.mp hnodup
      have hd := hds d List.mem_cons_self
      have hrest : ∀ d' ∈ ds, d' ∈ directions := fun d' h => hds d' (List.mem_cons_of_mem _ h)
      rw [List.foldl_cons]
      by_cases hserved : items.any (·.serves d) = true
      · have hstep : addSlot py now (items, m) d = (items, m) := if_pos hserved
        rw [hstep, List.filter_cons_of_neg (by simp [hserved])]
        exact ih hnodup hrest items m
      · have hstep : addSlot py now (items, m) d
            = (items ++ [slotItem d (m.getPairing py d now).1], (m.getPairing py d now).2) :=
          if_neg hserved
        obtain ⟨hitems, hsessions⟩ := ih hnodup hrest
          (items ++ [slotItem d (m.getPairing py d now).1]) (m.getPairing py d now).2
        rw [hstep, List.filter_cons_of_pos (by simpa using hserved), List.map_cons]
        refine ⟨?_, hsessions.trans (getPairing_sessions py m d now)⟩
        -- the slot of one approach does not serve another
        have hothers : (ds.filter fun d' =>
              !(items ++ [slotItem d (m.getPairing py d now).1]).any (·.serves d'))
            = ds.filter fun d' => !items.any (·.serves d') := by
          refine List.filter_congr fun d' hd' => ?_
          have hne : d ≠ d' := fun h => hnotMem (h ▸ hd')
          rw [List.any_append, List.any_cons, slotItem_serves hd (hrest d' hd')]
          simp [hne]
        rw [hitems, hothers, List.append_assoc, List.singleton_append]
        congr 2
        refine List.map_congr_left fun d' hd' => ?_
        have hmem := (List.mem_filter.mp hd').1
        have hne : d' ≠ d := fun h => hnotMem (h ▸ hmem)
        rw [getPairing_getPairing hd (hrest d' hmem) hne]

/-! ## The list -/

/-- What the operator sees of an approach. -/
def nodeOf (py : Python) (m : SessionManager) (now : Rat) (d : String) : NodeItem :=
  match m.getSessionByDirection py d now with
  | some session => connectedItem session
  | none => slotItem d (m.getPairing py d now).1

/-- Every approach is listed once, and nothing else is. -/
structure Lists (py : Python) (m : SessionManager) (now : Rat) (items : List NodeItem) : Prop where
  once : ∀ d ∈ directions, (items.filter fun item => item.serves d) = [nodeOf py m now d]
  only : ∀ item ∈ items, ∃ d ∈ directions, item = nodeOf py m now d

theorem nodeOf_some {py : Python} {m : SessionManager} {now : Rat} {d : String}
    {session : NodeSession} (h : m.getSessionByDirection py d now = some session) :
    nodeOf py m now d = connectedItem session := by
  unfold nodeOf
  rw [h]

theorem nodeOf_none {py : Python} {m : SessionManager} {now : Rat} {d : String}
    (h : m.getSessionByDirection py d now = none) :
    nodeOf py m now d = slotItem d (m.getPairing py d now).1 := by
  unfold nodeOf
  rw [h]

/-- One of a list of different texts, if it passes a test. -/
theorem filter_filter_eq {ds : List String} (hnodup : ds.Nodup) {d : String} (hd : d ∈ ds)
    (p : String → Bool) :
    (ds.filter p).filter (fun d' => decide (d' = d)) = if p d then [d] else [] := by
  rw [List.filter_comm, List.filter_eq, List.count_eq_one_of_mem hnodup hd, List.replicate_one]
  by_cases hp : p d = true
  · rw [List.filter_cons_of_pos hp, if_pos hp]
    rfl
  · rw [List.filter_cons_of_neg hp, if_neg hp]
    rfl

theorem getConnectedNodes_lists {py : Python} {m : SessionManager} {now : Rat}
    (hdirections : ∀ node session, m.sessions.get? node = some session →
      session.cameraDirection ∈ directions) (hlive : OneLive py m now) :
    Lists py m now (getConnectedNodes py m now).1 := by
  have hds : ∀ d ∈ ["north", "east", "south", "west"], d ∈ directions := by decide
  have hds' : ∀ d ∈ directions, d ∈ ["north", "east", "south", "west"] := by decide
  have hnodup : ["north", "east", "south", "west"].Nodup := by decide
  have hfold := (addSlot_foldl py now hnodup hds (liveItems m now) m).1
  -- an approach is served exactly if it has a live session
  have hserved : ∀ d ∈ directions, (liveItems m now).any (·.serves d)
      = (m.getSessionByDirection py d now).isSome := by
    intro d hd
    have hserving := liveItems_serving hdirections hlive hd
    cases hfound : m.getSessionByDirection py d now with
    | none =>
        rw [hfound] at hserving
        have hnone := List.filter_eq_nil_iff.mp hserving
        exact List.any_eq_false.mpr hnone
    | some session =>
        rw [hfound] at hserving
        have hmem : connectedItem session ∈ (liveItems m now).filter (·.serves d) := by
          rw [hserving]; exact List.mem_cons_self
        obtain ⟨hmem, hserves⟩ := List.mem_filter.mp hmem
        exact List.any_eq_true.mpr ⟨_, hmem, hserves⟩
  unfold getConnectedNodes
  constructor
  · intro d hd
    -- the slots are those of the approaches that nobody serves
    have hslots : ((["north", "east", "south", "west"].filter fun d' =>
          !(liveItems m now).any (·.serves d')).map
            fun d' => slotItem d' (m.getPairing py d' now).1).filter (·.serves d)
        = if (m.getSessionByDirection py d now).isSome then []
          else [slotItem d (m.getPairing py d now).1] := by
      have hsame : ∀ d' ∈ ["north", "east", "south", "west"].filter
            (fun d' => !(liveItems m now).any (·.serves d')),
          ((fun item : NodeItem => item.serves d) ∘
            fun d' => slotItem d' (m.getPairing py d' now).1) d' = decide (d' = d) :=
        fun d' hd' => slotItem_serves (hds d' (List.mem_filter.mp hd').1) hd _
      rw [List.filter_map, List.filter_congr hsame, filter_filter_eq hnodup (hds' d hd),
        hserved d hd]
      cases m.getSessionByDirection py d now with
      | none => rfl
      | some session => rfl
    rw [hfold, List.filter_append, liveItems_serving hdirections hlive hd, hslots]
    cases hfound : m.getSessionByDirection py d now with
    | none => rw [nodeOf_none hfound]; rfl
    | some session => rw [nodeOf_some hfound]; rfl
  · intro item hitem
    rw [hfold] at hitem
    rcases List.mem_append.mp hitem with hitem | hitem
    · -- an item of a live session
      obtain ⟨session, hsession, rfl⟩ := List.mem_map.mp hitem
      obtain ⟨node, hget⟩ := (Dict.mem_values_iff _).mp (List.mem_filter.mp hsession).1
      have hd := hdirections node session hget
      refine ⟨session.cameraDirection, hd, ?_⟩
      have hmem : connectedItem session
          ∈ (liveItems m now).filter (·.serves session.cameraDirection) :=
        List.mem_filter.mpr ⟨hitem, (approachTitle_begins hd hd).trans (by simp)⟩
      rw [liveItems_serving hdirections hlive hd] at hmem
      cases hfound : m.getSessionByDirection py session.cameraDirection now with
      | none => rw [hfound] at hmem; exact absurd hmem List.not_mem_nil
      | some found =>
          rw [hfound] at hmem
          rw [nodeOf_some hfound]
          exact List.mem_singleton.mp hmem
    · -- an item of a slot
      obtain ⟨d, hd, rfl⟩ := List.mem_map.mp hitem
      obtain ⟨hd, hunserved⟩ := List.mem_filter.mp hd
      refine ⟨d, hds d hd, ?_⟩
      rw [hserved d (hds d hd)] at hunserved
      exact (nodeOf_none (by simpa using hunserved)).symm

/-! ## Over a run of the server -/

theorem liveTable_run {py : Python} {s : Server} {c now : Rat} {run : List (Reading × Action)}
    (h : LiveTable py s c) (hclock : (c :: run.map (·.1.time)).Pairwise (· ≤ ·)) (hc : c ≤ now)
    (hnow : ∀ i ∈ run, i.1.time ≤ now) : LiveTable py (final (Server.step py) s run) now := by
  induction run generalizing s c with
  | nil => exact ⟨h.sound, oneLive_later h.live hc⟩
  | cons i run ih =>
      obtain ⟨hle, hrest⟩ := List.pairwise_cons.mp hclock
      have hi : c ≤ i.1.time := hle _ (List.mem_map_of_mem List.mem_cons_self)
      exact ih (liveTable_step h hi) hrest (hnow i List.mem_cons_self)
        fun j hj => hnow j (List.mem_cons_of_mem _ hj)

/--
**The operator's list shows every approach once.** After any run of the server, an approach is
shown as connected with its one live session if it has one, else as paired if its pairing has
not expired, and else as offline; and the list holds nothing else.
-/
theorem nodes_listed (py : Python) {s : Server} (hs : Initial s) {run : List (Reading × Action)}
    (hclock : (run.map (·.1.time)).Pairwise (· ≤ ·)) {now : Rat}
    (hnow : ∀ i ∈ run, i.1.time ≤ now) :
    Lists py (final (Server.step py) s run).sessions now
      (getConnectedNodes py (final (Server.step py) s run).sessions now).1 := by
  have hend : LiveTable py (final (Server.step py) s run) now := by
    cases run with
    | nil => exact ⟨soundTable_init hs, oneLive_empty hs.sessions⟩
    | cons i run =>
        refine liveTable_run ⟨soundTable_init hs, oneLive_empty hs.sessions⟩
          (List.pairwise_cons.mpr ⟨fun t ht => ?_, hclock⟩) (hnow i List.mem_cons_self) hnow
        rcases List.mem_cons.mp ht with rfl | hlater
        · exact le_refl _
        · exact (List.pairwise_cons.mp hclock).1 t hlater
  exact getConnectedNodes_lists (fun node session hget => (hend.sound.sessions node session hget).1)
    hend.live

/-- A camera is connected in the north, and nothing else is. -/
theorem nodes_listed_north :
    Lists plainPython (final (Server.step plainPython) {} sampleRun).sessions 5
      (getConnectedNodes plainPython (final (Server.step plainPython) {} sampleRun).sessions 5).1 :=
  @nodes_listed plainPython {} ⟨by decide, rfl, rfl, rfl, rfl⟩ sampleRun (by decide +kernel) 5
    (by decide +kernel)

example : ((getConnectedNodes plainPython
      (final (Server.step plainPython) {} sampleRun).sessions 5).1.map (·.status))
    = [.connected, .offline, .offline, .offline] := by decide +kernel

end SmartTraffic.Proof
