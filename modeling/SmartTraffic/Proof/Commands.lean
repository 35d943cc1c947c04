import SmartTraffic.Lib.Run
import SmartTraffic.Split.Commands

/-!
# A command that is acknowledged has been run

An answer in Redis is traced back to the run of the callback that produced it,
and that run to the call that published its message. The request id is the link:
it travels with the message, names the key, and belongs to one call only.
-/

namespace SmartTraffic.Split

open Lib SplitRuntime

/-! ## Messages and answers -/

/-- The message the callback is running. -/
def SplitRuntime.running (s : SplitRuntime) : List CommandMessage :=
  match s.listener with
  | .executing message => [message]
  | _ => []

/-- The messages that Redis has handed over and that are not lost. -/
def SplitRuntime.handed (s : SplitRuntime) : List CommandMessage :=
  s.channel ++ (s.running ++ s.executed.map Prod.fst)

/-- The message has this request id. -/
def CommandMessage.carries (m : CommandMessage) (requestId : String) : Prop :=
  m.payload.get? "request_id" = some (.str requestId)

/-- A call that has drawn its id has published the message. -/
def Sent (codec : EnvelopeCodec) (s : SplitRuntime) (m : CommandMessage) : Prop :=
  ∃ id c, s.calls.get? id = some c ∧ messageOf codec id c = .ok m

/-- The answer is what the callback made of a message with this request id. -/
def Answers (s : SplitRuntime) (requestId : String) (answer : Json) : Prop :=
  ∃ m result, (m, result) ∈ s.executed ∧ m.carries requestId ∧ result.answer = some answer

/-- The answer is a dictionary whose status is SUCCESS. -/
def Succeeds (answer : Json) : Prop :=
  ∃ fields, answer.toDict = some fields ∧ fields.getJson "status" = .str "SUCCESS"

/-- A message has the command of its call, its payload as it arrives, and its id. -/
theorem messageOf_spec {codec : EnvelopeCodec} {id : String} {c : Call} {m : CommandMessage}
    (h : messageOf codec id c = .ok m) :
    m.command = c.command
      ∧ codec.carried (c.payload.set "request_id" (.str id)) = .ok m.payload
      ∧ m.carries id := by
  unfold messageOf at h
  cases hcarried : codec.carried (c.payload.set "request_id" (.str id)) with
  | error text => rw [hcarried] at h; cases h
  | ok payload =>
      rw [hcarried] at h
      obtain rfl := Except.ok.inj h
      exact ⟨rfl, rfl, codec.carried_str _ _ hcarried _ _ (Dict.get?_set_self _ _ _)⟩

/-- A message has one request id only. -/
theorem CommandMessage.carries.unique {m : CommandMessage} {id id' : String} (h : m.carries id)
    (h' : m.carries id') : id = id' :=
  Json.str.inj (Option.some.inj (h.symm.trans h'))

theorem answerKey_injective {id id' : String} (h : answerKey id = answerKey id') : id = id' := by
  have hlist := congrArg String.toList h
  unfold answerKey at hlist
  rw [String.toList_append, String.toList_append] at hlist
  exact String.toList_inj.mp (List.append_cancel_left hlist)

theorem conclude_returned {py : Python} {answer r : Json} (h : conclude py answer = .returned r) :
    r = answer ∧ Succeeds answer := by
  unfold conclude at h
  cases hdict : answer.toDict with
  | none => rw [hdict] at h; cases h
  | some fields =>
      rw [hdict] at h
      dsimp only at h
      split_ifs at h with hstatus
      exact ⟨(CallStage.returned.inj h).symm, fields, hdict, Json.isStr_iff.mp hstatus⟩

/-- An answer that succeeds is what the callback returned. -/
theorem returned_of_succeeds {result : CallbackResult} {answer : Json}
    (h : result.answer = some answer) (hs : Succeeds answer) : result = .returned answer := by
  cases result with
  | returned j => exact congrArg _ (Option.some.inj h)
  | unserializable => cases h
  | raised text =>
      -- an exception is answered with ERROR
      obtain rfl := Option.some.inj h
      obtain ⟨fields, hdict, hstatus⟩ := hs
      obtain rfl := Option.some.inj hdict
      simp [Dict.getJson, Dict.get?, Dict.set, Dict.setItems, EmptyCollection.emptyCollection,
        Dict.empty] at hstatus

/-! ## The invariant -/

/-- Redis has handed the message of the call over. -/
def SplitRuntime.isHandedOver (s : SplitRuntime) (requestId : String) : Bool :=
  (s.calls.get? requestId).any (·.handedOver)

instance (m : CommandMessage) (requestId : String) : Decidable (m.carries requestId) := by
  unfold CommandMessage.carries
  exact decidable_of_iff ((m.payload.get? "request_id").any (Json.isStr requestId) = true) (by
    cases m.payload.get? "request_id" with
    | none => simp
    | some j => simp [Json.isStr_iff])

/-- What every step keeps. -/
structure Kept (codec : EnvelopeCodec) (s : SplitRuntime) : Prop where
  sent : ∀ m ∈ s.handed, Sent codec s m
  /-- A request id is on one message at most, and on none before it is handed over. -/
  once : ∀ id, s.handed.countP (fun m => m.carries id) ≤ (s.isHandedOver id).toNat
  replying : ∀ id answer, s.listener = .replying id answer → Answers s id answer
  answers : ∀ key answer, s.answers.get? key = some answer →
    ∃ id, key = answerKey id ∧ Answers s id answer
  returned : ∀ id c r, s.calls.get? id = some c → c.stage = .returned r →
    Answers s id r ∧ Succeeds r

theorem kept_start (codec : EnvelopeCodec) : Kept codec {} where
  sent m hm := by cases hm
  once id := Nat.zero_le _
  replying id answer h := by cases h
  answers key answer h := by cases h
  returned id c r h := by cases h

/-- The calls of before are there still, with the same command and payload. -/
def Retained (s s' : SplitRuntime) : Prop :=
  ∀ id c, s.calls.get? id = some c →
    ∃ c', s'.calls.get? id = some c' ∧ c'.command = c.command ∧ c'.payload = c.payload

theorem Sent.mono {codec : EnvelopeCodec} {s s' : SplitRuntime} (h : Retained s s')
    {m : CommandMessage} (hm : Sent codec s m) : Sent codec s' m := by
  obtain ⟨id, c, hc, hmessage⟩ := hm
  obtain ⟨c', hc', hcommand, hpayload⟩ := h id c hc
  refine ⟨id, c', hc', ?_⟩
  unfold messageOf at hmessage ⊢
  rw [hcommand, hpayload]
  exact hmessage

theorem Answers.mono {s s' : SplitRuntime} (h : ∀ x ∈ s.executed, x ∈ s'.executed)
    {id : String} {answer : Json} (ha : Answers s id answer) : Answers s' id answer := by
  obtain ⟨m, result, hmem, hid, hanswer⟩ := ha
  exact ⟨m, result, h _ hmem, hid, hanswer⟩

/-! ## The listener and Redis -/

/-- A step of the listener or of Redis: the calls stay, and no message is new. -/
theorem kept_listener {codec : EnvelopeCodec} {s s' : SplitRuntime} (h : Kept codec s)
    (hcalls : s'.calls = s.calls) (hhanded : s'.handed.Subperm s.handed)
    (hexecuted : ∀ x ∈ s.executed, x ∈ s'.executed)
    (hreplying : ∀ id answer, s'.listener = .replying id answer → Answers s' id answer)
    (hanswers : ∀ key answer, s'.answers.get? key = some answer →
      ∃ id, key = answerKey id ∧ Answers s' id answer) : Kept codec s' where
  sent m hm := by
    obtain ⟨id, c, hc, hmessage⟩ := h.sent m (hhanded.subset hm)
    exact ⟨id, c, by rw [hcalls]; exact hc, hmessage⟩
  once id := by
    unfold SplitRuntime.isHandedOver
    rw [hcalls]
    exact (hhanded.countP_le _).trans (h.once id)
  replying := hreplying
  answers := hanswers
  returned id c r hc hr := by
    rw [hcalls] at hc
    obtain ⟨hanswer, hok⟩ := h.returned id c r hc hr
    exact ⟨hanswer.mono hexecuted, hok⟩

/-- A step in which the callback does not end and nothing is stored. -/
theorem kept_idle {codec : EnvelopeCodec} {s s' : SplitRuntime} (h : Kept codec s)
    (hcalls : s'.calls = s.calls) (hhanded : s'.handed.Subperm s.handed)
    (hexecuted : s'.executed = s.executed)
    (hreplying : ∀ id answer, s'.listener ≠ .replying id answer)
    (hanswers : s.answers.Shrinks s'.answers) : Kept codec s' := by
  have hmem : ∀ x ∈ s.executed, x ∈ s'.executed := fun x hx => hexecuted ▸ hx
  refine kept_listener h hcalls hhanded hmem (fun id answer hl => absurd hl (hreplying id answer))
    fun key answer hget => ?_
  obtain ⟨id, hkey, hanswer⟩ := h.answers key answer (hanswers key answer hget)
  exact ⟨id, hkey, hanswer.mono hmem⟩

theorem disconnect_handed (s : SplitRuntime) : s.disconnect.handed.Subperm s.handed := by
  show (s.executed.map Prod.fst).Subperm (s.channel ++ (s.running ++ s.executed.map Prod.fst))
  exact ((List.sublist_append_right _ _).trans (List.sublist_append_right _ _)).subperm

theorem disconnect_kept {codec : EnvelopeCodec} {s : SplitRuntime} (h : Kept codec s) :
    Kept codec s.disconnect :=
  kept_idle h rfl (disconnect_handed s) rfl (fun id answer hl => by cases hl)
    (Dict.shrinks_refl _)

/-- A message of the channel, and those that are left when it is taken. -/
theorem channel_perm {s : SplitRuntime} {k : Nat} {m : CommandMessage}
    (h : s.channel[k]? = some m) : (m :: s.channel.eraseIdx k).Perm s.channel := by
  obtain ⟨hk, rfl⟩ := List.getElem?_eq_some_iff.mp h
  exact List.getElem_cons_eraseIdx_perm hk

theorem receive_kept {codec : EnvelopeCodec} {s : SplitRuntime} (h : Kept codec s) (k : Nat) :
    Kept codec (s.receive k) := by
  unfold SplitRuntime.receive
  split
  · rename_i m hlistener hk
    have hperm := channel_perm hk
    have hrunning : s.running = [] := by unfold SplitRuntime.running; rw [hlistener]
    dsimp only
    split_ifs
    · -- the message is passed over
      refine kept_idle h rfl ?_ rfl (fun id answer hl => ?_) (Dict.shrinks_refl _)
      · exact ((List.eraseIdx_sublist _ k).append_right _).subperm
      · dsimp only at hl
        rw [hlistener] at hl
        cases hl
    · refine kept_idle h rfl ?_ rfl (fun id answer hl => by cases hl) (Dict.shrinks_refl _)
      unfold SplitRuntime.handed
      rw [hrunning]
      show (s.channel.eraseIdx k ++ (m :: s.executed.map Prod.fst)).Subperm
        (s.channel ++ s.executed.map Prod.fst)
      exact (List.perm_middle.trans (hperm.append_right (s.executed.map Prod.fst))).subperm
  · exact h

theorem lose_kept {codec : EnvelopeCodec} {s : SplitRuntime} (h : Kept codec s) (k : Nat) :
    Kept codec { s with channel := s.channel.eraseIdx k } :=
  kept_listener h rfl ((List.eraseIdx_sublist _ k).append_right _).subperm (fun _ hx => hx)
    h.replying h.answers

/-- The end of the callback is recorded, and its answer is what is to be stored. -/
theorem callbackDone_kept {codec : EnvelopeCodec} {s : SplitRuntime} (h : Kept codec s)
    (result : CallbackResult) : Kept codec (s.callbackDone result) := by
  unfold SplitRuntime.callbackDone
  split
  · rename_i m hlistener
    have hrunning : s.running = [m] := by unfold SplitRuntime.running; rw [hlistener]
    -- the message moves from the callback to the record
    have hmoved : (s.channel ++ (s.executed ++ [(m, result)]).map Prod.fst).Perm s.handed := by
      unfold SplitRuntime.handed
      rw [hrunning, List.map_append]
      exact List.perm_append_comm.append_left s.channel
    have hrecord : ∀ x ∈ s.executed, x ∈ s.executed ++ [(m, result)] :=
      fun x hx => List.mem_append_left _ hx
    have hanswers : ∀ (s' : SplitRuntime), s'.executed = s.executed ++ [(m, result)] →
        s'.answers = s.answers → ∀ key answer, s'.answers.get? key = some answer →
          ∃ id, key = answerKey id ∧ Answers s' id answer := by
      intro s' hexec hans key answer hget
      rw [hans] at hget
      obtain ⟨id, hkey, hanswer⟩ := h.answers key answer hget
      exact ⟨id, hkey, hanswer.mono (by rw [hexec]; exact hrecord)⟩
    dsimp only
    split_ifs with htruthy
    · exact kept_listener h rfl hmoved.subperm hrecord (fun id answer hl => by cases hl)
        (hanswers _ rfl rfl)
    · split
      · rename_i id answer hid hanswer
        refine kept_listener h rfl hmoved.subperm hrecord (fun id' answer' hl => ?_)
          (hanswers _ rfl rfl)
        obtain ⟨rfl, rfl⟩ := Listener.replying.inj hl
        refine ⟨m, result, List.mem_append_right _ List.mem_cons_self, ?_, hanswer⟩
        -- the id read from the payload is the one the message carries
        unfold CommandMessage.carries
        unfold Dict.getJson at hid
        cases hget : m.payload.get? "request_id" with
        | none => rw [hget] at hid; cases hid
        | some j => rw [hget] at hid; exact congrArg some hid
      · refine kept_listener h rfl ?_ hrecord (fun id answer hl => by cases hl)
          (hanswers _ rfl rfl)
        exact ((List.sublist_append_right s.channel _).subperm).trans hmoved.subperm
  · exact h

theorem set_kept {codec : EnvelopeCodec} {s : SplitRuntime} (h : Kept codec s)
    (stored raises : Bool) : Kept codec (s.set stored raises) := by
  unfold SplitRuntime.set
  split
  · rename_i id answer hlistener
    have hanswer := h.replying id answer hlistener
    have hrunning : s.running = [] := by unfold SplitRuntime.running; rw [hlistener]
    have hstored : Kept codec
        (if stored then { s with answers := s.answers.set (answerKey id) answer } else s) := by
      split_ifs
      · refine kept_listener h rfl (List.Subperm.refl _) (fun _ hx => hx) h.replying
          fun key answer' hget => ?_
        by_cases hkey : key = answerKey id
        · subst hkey
          rw [Dict.get?_set_self] at hget
          obtain rfl := Option.some.inj hget
          exact ⟨id, rfl, hanswer⟩
        · rw [Dict.get?_set_of_ne _ _ hkey] at hget
          exact h.answers key answer' hget
      · exact h
    dsimp only
    generalize hs : (if stored then { s with answers := s.answers.set (answerKey id) answer }
      else s) = s₁ at hstored ⊢
    split_ifs
    · exact disconnect_kept hstored
    · refine kept_idle hstored rfl ?_ rfl (fun id' answer' hl => by cases hl)
        (Dict.shrinks_refl _)
      show (s₁.channel ++ ([] ++ s₁.executed.map Prod.fst)).Subperm _
      exact ((List.sublist_append_right s₁.running _).append_left s₁.channel).subperm
  · exact h

/-! ## The calls -/

/-- A step that changes one call, and hands over no message. -/
theorem kept_call {codec : EnvelopeCodec} {s : SplitRuntime} (h : Kept codec s) {id : String}
    {c : Call} (hold : ∀ c', s.calls.get? id = some c' → c.command = c'.command
      ∧ c.payload = c'.payload)
    (hflag : c.handedOver = s.isHandedOver id)
    (hreturned : ∀ r, c.stage = .returned r → Answers s id r ∧ Succeeds r) :
    Kept codec { s with calls := s.calls.set id c } := by
  -- no command and no payload is lost
  have hretained : Retained s { s with calls := s.calls.set id c } := by
    intro id' c' hc'
    by_cases hid : id' = id
    · subst hid
      exact ⟨c, Dict.get?_set_self _ _ _, hold c' hc'⟩
    · exact ⟨c', by rw [← hc']; exact Dict.get?_set_of_ne _ _ hid, rfl, rfl⟩
  refine ⟨fun m hm => (h.sent m hm).mono hretained, fun id' => ?_, h.replying, h.answers,
    fun id' c' r hc' hr => ?_⟩
  · -- the flag of every call is as it was
    have hsame : SplitRuntime.isHandedOver { s with calls := s.calls.set id c } id'
        = s.isHandedOver id' := by
      by_cases hid : id' = id
      · subst hid
        rw [← hflag]
        unfold SplitRuntime.isHandedOver
        dsimp only
        rw [Dict.get?_set_self]
        rfl
      · unfold SplitRuntime.isHandedOver
        dsimp only
        rw [Dict.get?_set_of_ne _ _ hid]
    rw [hsame]
    exact h.once id'
  · by_cases hid : id' = id
    · subst hid
      dsimp only at hc'
      rw [Dict.get?_set_self] at hc'
      obtain rfl := Option.some.inj hc'
      exact hreturned r hr
    · dsimp only at hc'
      rw [Dict.get?_set_of_ne _ _ hid] at hc'
      exact h.returned id' c' r hc' hr

theorem isHandedOver_of_get? {s : SplitRuntime} {id : String} {c : Call}
    (h : s.calls.get? id = some c) : s.isHandedOver id = c.handedOver := by
  unfold SplitRuntime.isHandedOver
  rw [h]
  rfl

/-- A call goes on to another stage. -/
theorem setStage_kept {codec : EnvelopeCodec} {s : SplitRuntime} (h : Kept codec s) {id : String}
    {c : Call} (hc : s.calls.get? id = some c) {stage : CallStage}
    (hreturned : ∀ r, stage = .returned r → Answers s id r ∧ Succeeds r) :
    Kept codec (s.setStage id c stage) := by
  refine kept_call h (fun c' hc' => ?_) (isHandedOver_of_get? hc).symm hreturned
  obtain rfl := Option.some.inj (hc.symm.trans hc')
  exact ⟨rfl, rfl⟩

theorem publishCommand_kept {codec : EnvelopeCodec} {s : SplitRuntime} (h : Kept codec s)
    (id command : String) (payload : Dict String Json) :
    Kept codec (s.publishCommand codec id command payload).1 := by
  unfold SplitRuntime.publishCommand
  dsimp only
  split_ifs with hconn hfresh
  · exact h
  · exact h
  · split
    · exact h
    · have hnone : s.calls.get? id = none := by
        unfold Dict.contains at hfresh
        simpa using hfresh
      refine kept_call h (fun c' hc' => ?_) ?_ fun r hr => by cases hr
      · rw [hnone] at hc'
        cases hc'
      · unfold SplitRuntime.isHandedOver
        rw [hnone]
        rfl

theorem published_kept {codec : EnvelopeCodec} {s : SplitRuntime} (h : Kept codec s) (id : String)
    (outcome : Except String Nat) : Kept codec (s.published id outcome) := by
  unfold SplitRuntime.published
  split
  · exact h
  · rename_i c hc
    split
    · exact setStage_kept h hc fun r hr => by cases hr
    · exact setStage_kept h hc fun r hr => by cases hr
    · exact setStage_kept h hc fun r hr => by cases hr
    · exact h

theorem poll_kept {codec : EnvelopeCodec} (py : Python) {s : SplitRuntime} (h : Kept codec s)
    (id : String) (failure : Option String) : Kept codec (s.poll py id failure) := by
  unfold SplitRuntime.poll
  split
  · exact h
  · rename_i c hc
    split
    · exact setStage_kept h hc fun r hr => by cases hr
    · exact setStage_kept h hc fun r hr => by cases hr
    · split
      · exact setStage_kept h hc fun r hr => by cases hr
      · rename_i answer hget
        refine setStage_kept h hc fun r hr => ?_
        obtain ⟨rfl, hok⟩ := conclude_returned hr
        obtain ⟨id', hkey, hanswer⟩ := h.answers _ _ hget
        rw [answerKey_injective hkey]
        exact ⟨hanswer, hok⟩
    · exact h

/-- A message that is handed over is the first with its request id. -/
theorem countP_handedOver {s : SplitRuntime} {m : CommandMessage} {id id' : String}
    (hcarries : m.carries id) (hflag : s.isHandedOver id = false)
    (h : s.handed.countP (fun m' => m'.carries id') ≤ (s.isHandedOver id').toNat) :
    (m :: s.handed).countP (fun m' => m'.carries id')
      ≤ (if id' = id then true else s.isHandedOver id').toNat := by
  rw [List.countP_cons]
  by_cases hid : id' = id
  · subst hid
    rw [hflag] at h
    rw [if_pos rfl]
    simpa [hcarries] using h
  · have hother : ¬m.carries id' := fun hm => hid (hm.unique hcarries)
    rw [if_neg hid]
    simpa [hother] using h

theorem handOver_kept {codec : EnvelopeCodec} {s : SplitRuntime} (h : Kept codec s) (id : String) :
    Kept codec (s.handOver codec id) := by
  unfold SplitRuntime.handOver
  split
  · exact h
  · rename_i c hc
    split
    · rename_i m hflag hmessage
      obtain ⟨-, -, hcarries⟩ := messageOf_spec hmessage
      -- the call keeps its command and its payload
      have hretained : Retained s
          { s with calls := s.calls.set id { c with handedOver := true },
                   channel := s.channel ++ [m] } := by
        intro id' c' hc'
        dsimp only
        rw [Dict.get?_set]
        split_ifs with hid
        · subst hid
          obtain rfl := Option.some.inj (hc.symm.trans hc')
          exact ⟨_, rfl, rfl, rfl⟩
        · exact ⟨c', hc', rfl, rfl⟩
      -- what has been handed over is what there was, and the new message
      have hperm : (s.channel ++ [m] ++ (s.running ++ s.executed.map Prod.fst)).Perm
          (m :: s.handed) := by
        rw [List.append_assoc]
        exact List.perm_middle
      -- the flag is set for this call and for no other
      have hflags : ∀ id', ((s.calls.set id { c with handedOver := true }).get? id').any
          (·.handedOver) = if id' = id then true else s.isHandedOver id' := by
        intro id'
        rw [Dict.get?_set]
        split_ifs <;> rfl
      refine ⟨fun m' hm' => ?_, fun id' => ?_, fun id' answer hl => ?_, fun key answer hget => ?_,
        fun id' c' r hc' hr => ?_⟩
      · rcases List.mem_cons.mp (hperm.subset hm') with rfl | hm'
        · exact Sent.mono hretained ⟨id, c, hc, hmessage⟩
        · exact (h.sent m' hm').mono hretained
      · have hcount :=
          countP_handedOver hcarries ((isHandedOver_of_get? hc).trans hflag) (h.once id')
        rw [← hflags] at hcount
        exact (hperm.countP_eq fun m' => decide (m'.carries id')).trans_le hcount
      · exact (h.replying id' answer hl).mono fun _ hx => hx
      · obtain ⟨id', hkey, hanswer⟩ := h.answers key answer hget
        exact ⟨id', hkey, hanswer.mono fun _ hx => hx⟩
      · dsimp only at hc'
        rw [Dict.get?_set] at hc'
        split_ifs at hc' with hid
        · subst hid
          obtain rfl := Option.some.inj hc'
          obtain ⟨hanswer, hok⟩ := h.returned id' c r hc hr
          exact ⟨hanswer.mono fun _ hx => hx, hok⟩
        · obtain ⟨hanswer, hok⟩ := h.returned id' c' r hc' hr
          exact ⟨hanswer.mono fun _ hx => hx, hok⟩
    · exact h

/-- **Every step keeps the invariant.** -/
theorem step_kept (py : Python) (codec : EnvelopeCodec) (s : SplitRuntime) (i : Step)
    (h : Kept codec s) : Kept codec (s.step py codec i).1 := by
  cases i with
  | connection up =>
      exact kept_listener h rfl (List.Subperm.refl _) (fun _ hx => hx) h.replying h.answers
  | publishCommand id command payload => exact publishCommand_kept h id command payload
  | handOver id => exact handOver_kept h id
  | published id outcome => exact published_kept h id outcome
  | poll id failure => exact poll_kept py h id failure
  | subscribe =>
      unfold SplitRuntime.step
      dsimp only
      split
      · exact kept_idle h rfl (disconnect_handed s) rfl (fun id answer hl => by cases hl)
          (Dict.shrinks_refl _)
      · exact h
  | receive k => exact receive_kept h k
  | lose k => exact lose_kept h k
  | callbackDone result => exact callbackDone_kept h result
  | set stored raises => exact set_kept h stored raises
  | connectionLost => exact disconnect_kept h
  | expire key =>
      exact kept_listener h rfl (List.Subperm.refl _) (fun _ hx => hx) h.replying
        fun key' answer hget => h.answers key' answer (Dict.shrinks_erase _ key key' answer hget)

/-! ## The end of a call -/

/-- The stretches that a call has still to run, at most. -/
def CallStage.remaining : CallStage → Nat
  | .publishing => 52
  | .polling left => left + 1
  | .returned _ => 0
  | .failed _ => 0

/-- The call awaits `publish`. -/
def CallStage.isPublishing : CallStage → Bool
  | .publishing => true
  | _ => false

def CallStage.isPolling : CallStage → Bool
  | .polling _ => true
  | _ => false

/-- The step is the next stretch of this call. -/
def Step.advances (s : SplitRuntime) (id : String) : Step → Bool
  | .published id' _ => id' = id && (s.calls.get? id).any (·.stage.isPublishing)
  | .poll id' _ => id' = id && (s.calls.get? id).any (·.stage.isPolling)
  | _ => false

/-- The stretches of the call with this request id in a run. -/
def stretches (id : String) (es : List (Event SplitRuntime Step (Option String))) : Nat :=
  es.countP fun e => e.input.advances e.pre id

/-- What a step leaves of a call: its next stretch uses up one of those that remain. -/
def Advances (s : SplitRuntime) (i : Step) (s' : SplitRuntime) (id : String) : Prop :=
  match s.calls.get? id, s'.calls.get? id with
  | none, none => True
  | none, some c' => c'.stage.remaining = 52
  | some _, none => False
  | some c, some c' => c'.stage.remaining + (i.advances s id).toNat ≤ c.stage.remaining

theorem conclude_remaining (py : Python) (answer : Json) : (conclude py answer).remaining = 0 := by
  unfold conclude
  split
  · rfl
  · split_ifs <;> rfl

/-- A step that leaves the call alone. -/
theorem advances_of_same {s s' : SplitRuntime} {i : Step} {id : String}
    (hcalls : s'.calls.get? id = s.calls.get? id) (hi : i.advances s id = false) :
    Advances s i s' id := by
  unfold Advances
  rw [hcalls, hi]
  cases s.calls.get? id with
  | none => trivial
  | some c => exact le_rfl

theorem advances_setStage {s : SplitRuntime} {i : Step} {id id' : String} {c : Call}
    (hc : s.calls.get? id' = some c) {stage : CallStage}
    (hless : stage.remaining + 1 ≤ c.stage.remaining)
    (hother : id' ≠ id → i.advances s id = false) :
    Advances s i (s.setStage id' c stage) id := by
  by_cases hid : id' = id
  · subst hid
    unfold Advances SplitRuntime.setStage
    dsimp only
    rw [hc, Dict.get?_set_self]
    have := Bool.toNat_le (i.advances s id')
    dsimp only
    omega
  · exact advances_of_same (Dict.get?_set_of_ne _ _ (Ne.symm hid)) (hother hid)

/-- The last stretch of a call, or one of many, leaves fewer of them. -/
theorem published_advances (s : SplitRuntime) (id id' : String) (outcome : Except String Nat) :
    Advances s (.published id' outcome) (s.published id' outcome) id := by
  have hother : id' ≠ id → (Step.published id' outcome).advances s id = false := by
    intro hid
    simp [Step.advances, hid]
  have hidle : ((s.calls.get? id').any (·.stage.isPublishing)) = false →
      (Step.published id' outcome).advances s id = false := by
    intro hno
    by_cases hid : id' = id
    · subst hid
      simp [Step.advances, hno]
    · exact hother hid
  unfold SplitRuntime.published
  cases hc : s.calls.get? id' with
  | none => exact advances_of_same rfl (hidle (by rw [hc]; rfl))
  | some c =>
      rw [hc] at hidle
      obtain ⟨command, payload, stage, handedOver⟩ := c
      cases stage with
      | polling left => exact advances_of_same rfl (hidle rfl)
      | returned r => exact advances_of_same rfl (hidle rfl)
      | failed text => exact advances_of_same rfl (hidle rfl)
      | publishing =>
          cases outcome with
          | error text => exact advances_setStage hc (Nat.le_add_left 1 51) hother
          | ok n =>
              cases n with
              | zero => exact advances_setStage hc (Nat.le_add_left 1 51) hother
              | succ n => exact advances_setStage hc (Nat.le_refl 52) hother

theorem poll_advances (py : Python) (s : SplitRuntime) (id id' : String)
    (failure : Option String) :
    Advances s (.poll id' failure) (s.poll py id' failure) id := by
  have hother : id' ≠ id → (Step.poll id' failure).advances s id = false := by
    intro hid
    simp [Step.advances, hid]
  -- nor is one of a call that has stopped polling
  have hidle : ((s.calls.get? id').any (·.stage.isPolling)) = false →
      (Step.poll id' failure).advances s id = false := by
    intro hno
    by_cases hid : id' = id
    · subst hid
      simp [Step.advances, hno]
    · exact hother hid
  unfold SplitRuntime.poll
  cases hc : s.calls.get? id' with
  | none => exact advances_of_same rfl (hidle (by rw [hc]; rfl))
  | some c =>
      rw [hc] at hidle
      obtain ⟨command, payload, stage, handedOver⟩ := c
      cases stage with
      | publishing => exact advances_of_same rfl (hidle rfl)
      | returned r => exact advances_of_same rfl (hidle rfl)
      | failed text => exact advances_of_same rfl (hidle rfl)
      | polling left =>
          cases left with
          | zero => exact advances_setStage hc (Nat.le_refl 1) hother
          | succ left =>
              cases failure with
              | some text => exact advances_setStage hc (Nat.le_add_left 1 (left + 1)) hother
              | none =>
                  dsimp only
                  cases s.answers.get? (answerKey id') with
                  | none => exact advances_setStage hc (Nat.le_refl (left + 2)) hother
                  | some answer =>
                      refine advances_setStage hc ?_ hother
                      rw [conclude_remaining]
                      exact Nat.le_add_left 1 (left + 1)

theorem publishCommand_advances (codec : EnvelopeCodec) (s : SplitRuntime)
    (id id' command : String) (payload : Dict String Json) :
    Advances s (.publishCommand id' command payload)
      (s.publishCommand codec id' command payload).1 id := by
  have hsame : Advances s (.publishCommand id' command payload) s id := advances_of_same rfl rfl
  unfold SplitRuntime.publishCommand
  dsimp only
  split_ifs with hconn hfresh
  · exact hsame
  · exact hsame
  · split
    · exact hsame
    · by_cases hid : id' = id
      · subst hid
        have hnone : s.calls.get? id' = none := by
          unfold Dict.contains at hfresh
          simpa using hfresh
        unfold Advances
        dsimp only
        rw [hnone, Dict.get?_set_self]
        rfl
      · exact advances_of_same (Dict.get?_set_of_ne _ _ (Ne.symm hid)) rfl

theorem handOver_advances (codec : EnvelopeCodec) (s : SplitRuntime) (id id' : String) :
    Advances s (.handOver id') (s.handOver codec id') id := by
  unfold SplitRuntime.handOver
  split
  · exact advances_of_same rfl rfl
  · rename_i c hc
    split
    · by_cases hid : id' = id
      · subst hid
        unfold Advances
        dsimp only
        rw [hc, Dict.get?_set_self]
        exact Nat.le_refl _
      · exact advances_of_same (Dict.get?_set_of_ne _ _ (Ne.symm hid)) rfl
    · exact advances_of_same rfl rfl

/-- The listener and Redis leave the calls alone. -/
theorem receive_calls (s : SplitRuntime) (k : Nat) : (s.receive k).calls = s.calls := by
  unfold SplitRuntime.receive
  split
  · dsimp only
    split_ifs <;> rfl
  · rfl

theorem callbackDone_calls (s : SplitRuntime) (result : CallbackResult) :
    (s.callbackDone result).calls = s.calls := by
  unfold SplitRuntime.callbackDone
  split
  · dsimp only
    split_ifs
    · rfl
    · split <;> rfl
  · rfl

theorem set_calls (s : SplitRuntime) (stored raises : Bool) :
    (s.set stored raises).calls = s.calls := by
  unfold SplitRuntime.set
  split
  · dsimp only
    split_ifs <;> rfl
  · rfl

theorem step_advances (py : Python) (codec : EnvelopeCodec) (s : SplitRuntime) (i : Step)
    (id : String) : Advances s i (s.step py codec i).1 id := by
  cases i with
  | publishCommand id' command payload =>
      exact publishCommand_advances codec s id id' command payload
  | handOver id' => exact handOver_advances codec s id id'
  | published id' outcome => exact published_advances s id id' outcome
  | poll id' failure => exact poll_advances py s id id' failure
  | subscribe =>
      refine advances_of_same ?_ rfl
      unfold SplitRuntime.step
      dsimp only
      split <;> rfl
  | receive k => exact advances_of_same (congrArg (·.get? id) (receive_calls s k)) rfl
  | callbackDone result =>
      exact advances_of_same (congrArg (·.get? id) (callbackDone_calls s result)) rfl
  | set stored raises =>
      exact advances_of_same (congrArg (·.get? id) (set_calls s stored raises)) rfl
  | connection | lose | connectionLost | expire => exact advances_of_same rfl rfl

/-- No stretch belongs to a call that has not begun. -/
theorem advances_of_none {s : SplitRuntime} {id : String} (h : s.calls.get? id = none) (i : Step) :
    i.advances s id = false := by
  cases i <;> simp [Step.advances, h]

theorem stretches_snoc (id : String) (es : List (Event SplitRuntime Step (Option String)))
    (e : Event SplitRuntime Step (Option String)) :
    stretches id (es ++ [e]) = stretches id es + (e.input.advances e.pre id).toNat := by
  unfold stretches
  rw [List.countP_append, List.countP_singleton]
  cases e.input.advances e.pre id <;> rfl

/-- **A call has 52 stretches at most**, whatever happens between them. -/
theorem stretches_le (py : Python) (codec : EnvelopeCodec) (is : List Step) (id : String) :
    match (final (SplitRuntime.step py codec) {} is).calls.get? id with
    | none => stretches id (events (SplitRuntime.step py codec) {} is) = 0
    | some c =>
        c.stage.remaining + stretches id (events (SplitRuntime.step py codec) {} is) ≤ 52 := by
  induction is using List.reverseRecOn with
  | nil => rfl
  | append_singleton is i ih =>
      generalize hw : final (SplitRuntime.step py codec) {} is = w at ih
      have hstep := step_advances py codec w i id
      rw [events_append, final_append, hw, events_cons, events_nil, stretches_snoc]
      show match (w.step py codec i).1.calls.get? id with
        | none => stretches id _ + (i.advances w id).toNat = 0
        | some c => c.stage.remaining + (stretches id _ + (i.advances w id).toNat) ≤ 52
      unfold Advances at hstep
      cases hbefore : w.calls.get? id with
      | none =>
          have hno := advances_of_none hbefore i
          rw [hbefore] at ih hstep
          rw [hno, ih]
          cases hafter : (w.step py codec i).1.calls.get? id with
          | none => rfl
          | some c' => rw [hafter] at hstep; exact hstep.le
      | some c =>
          rw [hbefore] at ih hstep
          cases hafter : (w.step py codec i).1.calls.get? id with
          | none => rw [hafter] at hstep; exact hstep.elim
          | some c' =>
              rw [hafter] at hstep
              dsimp only at ih hstep ⊢
              omega

/-! ## Soundness -/

/-- What a call that has returned can rely on. -/
structure Acknowledged (codec : EnvelopeCodec) (s : SplitRuntime) (id : String) (c : Call)
    (response : Json) (m : CommandMessage) : Prop where
  /-- The callback has run the message and returned the response. -/
  executed : (m, .returned response) ∈ s.executed
  command : m.command = c.command
  payload : codec.carried (c.payload.set "request_id" (.str id)) = .ok m.payload
  /-- The message is that of this call and of no other. -/
  own : ∀ id', m.carries id' ↔ id' = id
  success : Succeeds response

/-- A response is traced back to the run of the very command and payload. -/
theorem acknowledged_of_returned {codec : EnvelopeCodec} {s : SplitRuntime} (h : Kept codec s)
    {id : String} {c : Call} {response : Json} (hc : s.calls.get? id = some c)
    (hr : c.stage = .returned response) : ∃ m, Acknowledged codec s id c response m := by
  obtain ⟨⟨m, result, hmem, hid, hanswer⟩, hok⟩ := h.returned id c response hc hr
  obtain rfl := returned_of_succeeds hanswer hok
  -- the message was handed over for a call, and its id says for which
  have hhanded : m ∈ s.handed :=
    List.mem_append_right _ (List.mem_append_right _ (List.mem_map_of_mem (f := Prod.fst) hmem))
  obtain ⟨id', c', hc', hmessage⟩ := h.sent m hhanded
  obtain ⟨hcommand, hpayload, hcarries⟩ := messageOf_spec hmessage
  obtain rfl : id' = id := hcarries.unique hid
  obtain rfl : c' = c := Option.some.inj (hc'.symm.trans hc)
  exact ⟨m, hmem, hcommand, hpayload,
    fun id'' => ⟨fun h => h.unique hid, fun h => h ▸ hid⟩, hok⟩

/-- The callback runs for a request id once at most. -/
theorem executed_once {codec : EnvelopeCodec} {s : SplitRuntime} (h : Kept codec s) (id : String) :
    s.executed.countP (fun x => x.1.carries id) ≤ 1 := by
  have hpart : (s.executed.map Prod.fst).countP (fun m => decide (m.carries id))
      ≤ s.handed.countP fun m => decide (m.carries id) :=
    ((List.sublist_append_right _ _).trans (List.sublist_append_right _ _)).countP_le
  rw [List.countP_map] at hpart
  exact (hpart.trans (h.once id)).trans (Bool.toNat_le _)

/-- A call that has not ended has a next stretch. -/
theorem ended_or_advances {s : SplitRuntime} {id : String} {c : Call}
    (hc : s.calls.get? id = some c) :
    (∃ response, c.stage = .returned response) ∨ (∃ text, c.stage = .failed text)
      ∨ 0 < c.stage.remaining ∧ ∃ i : Step, i.advances s id = true := by
  cases hstage : c.stage with
  | returned response => exact Or.inl ⟨response, rfl⟩
  | failed text => exact Or.inr (Or.inl ⟨text, rfl⟩)
  | publishing =>
      refine Or.inr (Or.inr ⟨by decide, .published id (.ok 0), ?_⟩)
      simp [Step.advances, hc, hstage, CallStage.isPublishing]
  | polling left =>
      refine Or.inr (Or.inr ⟨Nat.succ_pos left, .poll id none, ?_⟩)
      simp [Step.advances, hc, hstage, CallStage.isPolling]

/-! ## What a call comes to at once -/

theorem retained_refl (s : SplitRuntime) : Retained s s := fun _ c hc => ⟨c, hc, rfl, rfl⟩

theorem Retained.trans {s s' s'' : SplitRuntime} (h : Retained s s') (h' : Retained s' s'') :
    Retained s s'' := by
  intro id c hc
  obtain ⟨c', hc', hcommand, hpayload⟩ := h id c hc
  obtain ⟨c'', hc'', hcommand', hpayload'⟩ := h' id c' hc'
  exact ⟨c'', hc'', hcommand'.trans hcommand, hpayload'.trans hpayload⟩

theorem retained_of_calls {s s' : SplitRuntime} (h : s'.calls = s.calls) : Retained s s' := by
  intro id c hc
  exact ⟨c, by rw [h]; exact hc, rfl, rfl⟩

/-- A call is entered anew with its command and payload, or for the first time. -/
theorem retained_set {s s' : SplitRuntime} {id : String} {c : Call}
    (hcalls : s'.calls = s.calls.set id c)
    (hold : ∀ c', s.calls.get? id = some c' → c.command = c'.command ∧ c.payload = c'.payload) :
    Retained s s' := by
  intro id' c' hc'
  rw [hcalls]
  by_cases hid : id' = id
  · subst hid
    exact ⟨c, Dict.get?_set_self _ _ _, hold c' hc'⟩
  · exact ⟨c', (Dict.get?_set_of_ne _ _ hid).trans hc', rfl, rfl⟩

theorem setStage_retained {s : SplitRuntime} {id : String} {c : Call}
    (hc : s.calls.get? id = some c) (stage : CallStage) : Retained s (s.setStage id c stage) := by
  refine retained_set rfl fun c' hc' => ?_
  obtain rfl := Option.some.inj (hc.symm.trans hc')
  exact ⟨rfl, rfl⟩

theorem publishCommand_retained (codec : EnvelopeCodec) (s : SplitRuntime) (id command : String)
    (payload : Dict String Json) : Retained s (s.publishCommand codec id command payload).1 := by
  unfold SplitRuntime.publishCommand
  dsimp only
  split_ifs with hconn hfresh
  · exact retained_refl s
  · exact retained_refl s
  · split
    · exact retained_refl s
    · refine retained_set rfl fun c' hc' => ?_
      unfold Dict.contains at hfresh
      rw [hc'] at hfresh
      exact absurd rfl hfresh

theorem handOver_retained (codec : EnvelopeCodec) (s : SplitRuntime) (id : String) :
    Retained s (s.handOver codec id) := by
  unfold SplitRuntime.handOver
  split
  · exact retained_refl s
  · rename_i c hc
    split
    · refine retained_set rfl fun c' hc' => ?_
      obtain rfl := Option.some.inj (hc.symm.trans hc')
      exact ⟨rfl, rfl⟩
    · exact retained_refl s

theorem published_retained (s : SplitRuntime) (id : String) (outcome : Except String Nat) :
    Retained s (s.published id outcome) := by
  unfold SplitRuntime.published
  split
  · exact retained_refl s
  · rename_i c hc
    split
    · exact setStage_retained hc _
    · exact setStage_retained hc _
    · exact setStage_retained hc _
    · exact retained_refl s

theorem poll_retained (py : Python) (s : SplitRuntime) (id : String) (failure : Option String) :
    Retained s (s.poll py id failure) := by
  unfold SplitRuntime.poll
  split
  · exact retained_refl s
  · rename_i c hc
    split
    · exact setStage_retained hc _
    · exact setStage_retained hc _
    · split <;> exact setStage_retained hc _
    · exact retained_refl s

/-- **No step loses a call.** -/
theorem step_retained (py : Python) (codec : EnvelopeCodec) (s : SplitRuntime) (i : Step) :
    Retained s (s.step py codec i).1 := by
  cases i with
  | publishCommand id command payload => exact publishCommand_retained codec s id command payload
  | handOver id => exact handOver_retained codec s id
  | published id outcome => exact published_retained s id outcome
  | poll id failure => exact poll_retained py s id failure
  | subscribe =>
      refine retained_of_calls ?_
      unfold SplitRuntime.step
      dsimp only
      split <;> rfl
  | receive k => exact retained_of_calls (receive_calls s k)
  | callbackDone result => exact retained_of_calls (callbackDone_calls s result)
  | set stored raises => exact retained_of_calls (set_calls s stored raises)
  | connection | lose | connectionLost | expire => exact retained_refl s

theorem final_retained (py : Python) (codec : EnvelopeCodec) (s : SplitRuntime) (is : List Step) :
    Retained s (final (SplitRuntime.step py codec) s is) := by
  induction is generalizing s with
  | nil => exact retained_refl s
  | cons i is ih => exact (step_retained py codec s i).trans (ih _)

/--
What a new call of `publish_command` comes to in its first stretch, and what is left of
it in `s`: it raises a `RuntimeError` at once and leaves nothing, or it is followed.
-/
structure Begins (codec : EnvelopeCodec) (e : Event SplitRuntime Step (Option String))
    (s : SplitRuntime) (id : String) (c : Call) : Prop where
  unavailable : e.pre.isConnected = false →
    e.out = some "Redis unavailable; runtime command was not applied" ∧ e.post = e.pre
  unformed : e.pre.isConnected = true → ∀ text, messageOf codec id c = .error text →
    e.out = some (commandFailed text) ∧ e.post = e.pre
  followed : e.pre.isConnected = true → ∀ m, messageOf codec id c = .ok m →
    e.out = none ∧ ∃ c', s.calls.get? id = some c' ∧ c'.command = c.command
      ∧ c'.payload = c.payload

/-- The first stretch by itself. -/
theorem publishCommand_begins (py : Python) (codec : EnvelopeCodec) {s : SplitRuntime}
    {id : String} (hfresh : s.calls.contains id = false) (command : String)
    (payload : Dict String Json) :
    let e := eventOf (SplitRuntime.step py codec) s (.publishCommand id command payload)
    Begins codec e e.post id { command := command, payload := payload } := by
  intro e
  have hfresh' : ¬s.calls.contains id = true := by rw [hfresh]; exact Bool.false_ne_true
  have hpost : (e.post, e.out) = s.publishCommand codec id command payload := rfl
  refine ⟨fun hconn => ?_, fun hconn text htext => ?_, fun hconn m hm => ?_⟩
  · unfold SplitRuntime.publishCommand at hpost
    rw [if_pos (show s.isConnected = false from hconn)] at hpost
    obtain ⟨hs, hout⟩ := Prod.mk.inj hpost
    exact ⟨hout, hs⟩
  · have hup : ¬s.isConnected = false := by
      rw [show s.isConnected = true from hconn]
      exact Bool.true_eq_false_eq_False
    unfold SplitRuntime.publishCommand at hpost
    rw [if_neg hup, if_neg hfresh', htext] at hpost
    obtain ⟨hs, hout⟩ := Prod.mk.inj hpost
    exact ⟨hout, hs⟩
  · have hup : ¬s.isConnected = false := by
      rw [show s.isConnected = true from hconn]
      exact Bool.true_eq_false_eq_False
    unfold SplitRuntime.publishCommand at hpost
    rw [if_neg hup, if_neg hfresh', hm] at hpost
    obtain ⟨hs, hout⟩ := Prod.mk.inj hpost
    refine ⟨hout, _, ?_, rfl, rfl⟩
    rw [hs]
    exact Dict.get?_set_self _ _ _

/-- What is entered stays entered. -/
theorem Begins.later {codec : EnvelopeCodec} {e : Event SplitRuntime Step (Option String)}
    {s s' : SplitRuntime} {id : String} {c : Call} (h : Begins codec e s id c)
    (hs : Retained s s') : Begins codec e s' id c where
  unavailable := h.unavailable
  unformed := h.unformed
  followed hconn m hm := by
    obtain ⟨hout, c', hc', hcommand, hpayload⟩ := h.followed hconn m hm
    obtain ⟨c'', hc'', hcommand', hpayload'⟩ := hs id c' hc'
    exact ⟨hout, c'', hc'', hcommand'.trans hcommand, hpayload'.trans hpayload⟩

theorem event_begins {py : Python} {codec : EnvelopeCodec} {is : List Step}
    {e : Event SplitRuntime Step (Option String)}
    (he : e ∈ events (SplitRuntime.step py codec) {} is) {id command : String}
    {payload : Dict String Json} (hinput : e.input = .publishCommand id command payload)
    (hfresh : e.pre.calls.contains id = false) :
    Begins codec e (final (SplitRuntime.step py codec) {} is) id
      { command := command, payload := payload } := by
  obtain ⟨before, i, rest, rfl, rfl⟩ := mem_events_iff _ |>.mp he
  obtain rfl : i = .publishCommand id command payload := hinput
  rw [final_append, final_cons]
  exact (publishCommand_begins py codec hfresh command payload).later
    (final_retained py codec _ rest)

end SmartTraffic.Split

namespace SmartTraffic.Proof

open SmartTraffic Lib Split SplitRuntime

/--
**Acknowledgements are sound.** In every run of calls, listener and Redis:

a call that has returned a response has had its very command and payload run by
the callback, which returned that response with status SUCCESS, and the message it
ran carries the id of no other call; the callback runs for an id once at most;
a call that has neither returned nor raised a `RuntimeError` has a next stretch, of
which no call has more than 52; and a call that does not get as far as publishing,
for want of Redis or of a message, raises a `RuntimeError` at once.
-/
theorem acknowledgements_are_sound (py : Python) (codec : EnvelopeCodec) (is : List Step) :
    let es := events (SplitRuntime.step py codec) {} is
    let s := final (SplitRuntime.step py codec) {} is
    (∀ id c response, s.calls.get? id = some c → c.stage = .returned response →
        ∃ m, Acknowledged codec s id c response m)
      ∧ (∀ id, s.executed.countP (fun x => x.1.carries id) ≤ 1)
      ∧ (∀ id c, s.calls.get? id = some c →
          (∃ response, c.stage = .returned response) ∨ (∃ text, c.stage = .failed text)
            ∨ stretches id es < 52 ∧ ∃ i : Step, i.advances s id = true)
      ∧ ∀ e ∈ es, ∀ id command payload, e.input = .publishCommand id command payload →
          e.pre.calls.contains id = false →
            Begins codec e s id { command := command, payload := payload } := by
  have h : Kept codec (final (SplitRuntime.step py codec) {} is) :=
    final_invariant_of_step (step_kept py codec) (kept_start codec) is
  refine ⟨fun id c response hc hr => acknowledged_of_returned h hc hr, executed_once h,
    fun id c hc => ?_, fun e he id command payload => event_begins he⟩
  rcases ended_or_advances hc with hreturned | hfailed | ⟨hleft, hnext⟩
  · exact Or.inl hreturned
  · exact Or.inr (Or.inl hfailed)
  · have hle := stretches_le py codec is id
    rw [hc] at hle
    dsimp only at hle
    exact Or.inr (Or.inr ⟨by omega, hnext⟩)

/-- A payload of texts arrives as it is. -/
def plainCodec : EnvelopeCodec where
  carried payload := .ok payload
  carried_str p q h k text hk := by
    obtain rfl := Except.ok.inj h
    exact hk

/-- A STOP that the runtime runs and acknowledges. -/
example : ((final (SplitRuntime.step
      ⟨id, fun _ _ => rfl, id, id, fun _ => "", fun _ => true, fun _ => ""⟩ plainCodec) {}
      [.connection true, .publishCommand "1f" "STOP" ∅, .subscribe, .handOver "1f",
        .published "1f" (.ok 1), .poll "1f" none, .receive 0,
        .callbackDone (.returned (.obj [("status", .str "SUCCESS")])), .set true false,
        .poll "1f" none]).calls.get? "1f").any (fun c => c.stage matches .returned _) := by
  decide +kernel

end SmartTraffic.Proof
