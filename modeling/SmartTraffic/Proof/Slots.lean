import SmartTraffic.Server.Slots

/-!
# No frame is lost to a missed wake-up, taken twice or out of order

The frames of the cameras go through one slot for each direction and one event.
What the coordinator takes is read off the run: an accepted frame is known by the
step that accepted it.
-/

namespace SmartTraffic.Proof

open SmartTraffic Lib Mailbox SlotServer

/-- A step that takes a batch hands just these frames to `process_batch`. -/
theorem taken_inferring {py : Python} {w : SlotServer} {i : Reading × SlotAction}
    {batch : List (String × Packet)} (h : mailOf (eventOf (step py) w i) = some (.take batch)) :
    (w.step py i).1.server.coordinator = .inferring (batch.map Prod.snd) := by
  obtain ⟨r, action⟩ := i
  have hout : ∀ e, admission e ≠ some (.take batch) := by
    intro e he
    unfold admission at he
    split at he <;> cases he
  cases action with
  | slept =>
      unfold mailOf eventOf at h
      unfold step
      dsimp only at h ⊢
      split_ifs at h ⊢ with hstage
      obtain rfl := Mail.take.inj (Option.some.inj h)
      rfl
  | publishRaises => cases h
  | handleVideoFrame | waited | other => exact absurd h (hout _)

/-- The finer coordinator only does what the coarse one does, or nothing. -/
theorem step_refines (py : Python) {w : SlotServer} {ls : List (Option (Mail String Packet))}
    (h : Run ls w.mailbox) (r : Reading) {action : SlotAction}
    (hcalls : ∀ payload decoded owner, action ≠ .handleVideoFrame payload decoded owner)
    (hraises : action ≠ .publishRaises) :
    (w.step py (r, action)).1.server = w.server
      ∨ ∃ a, (w.step py (r, action)).1.server = (w.server.step py (r, a)).1 := by
  cases action with
  | handleVideoFrame payload decoded owner => exact absurd rfl (hcalls payload decoded owner)
  | publishRaises => exact absurd rfl hraises
  | waited => unfold step; dsimp only; split_ifs <;> exact Or.inl rfl
  | slept =>
      unfold step
      dsimp only
      split_ifs with hstage
      · exact Or.inr ⟨.takeBatch, slept_eq_takeBatch hstage (h.kept.gathering hstage)⟩
      · exact Or.inl rfl
  | other a =>
      cases a with
      | takeBatch => exact Or.inl rfl
      | _ => exact Or.inr ⟨_, rfl⟩

/--
**The frame slots.** In every run, from a server that has seen no frame:

while the coordinator waits and a slot is filled, `batch_ready` is set; a batch is
handed to `process_batch` with one frame for a direction at most, the newest
accepted one by then; no accepted frame is in two batches; and the frames of one
direction are in batches in the order in which they were accepted.
-/
theorem slots_lose_and_repeat_nothing (py : Python) (s : Server)
    (is : List (Reading × SlotAction)) :
    let es := events (step py) (beforeFrames s) is
    let w := final (step py) (beforeFrames s) is
    let mail := es.map mailOf
    (w.stage = .waiting → w.server.latestFrames.items ≠ [] → w.server.batchReady = true)
      ∧ (∀ j e batch, es[j]? = some e → mailOf e = some (.take batch) →
          e.post.server.coordinator = .inferring (batch.map Prod.snd)
            ∧ (batch.map Prod.fst).Nodup
            ∧ ∀ d p, (d, p) ∈ batch → ∃ i, Newest mail j d p i)
      ∧ (∀ d d' i j j', Delivered mail d i j → Delivered mail d' i j' → d = d' ∧ j = j')
      ∧ ∀ d i i' j j', Delivered mail d i j → Delivered mail d i' j' → i < i' → j < j' := by
  have hrun := run_beforeFrames py s is
  refine ⟨fun _ => hrun.ready_of_letter, ?_, fun d d' i j j' => hrun.delivered_once,
    fun d i i' j j' => Delivered.ordered⟩
  intro j e batch he hbatch
  have htaken : TakenAt ((events (step py) (beforeFrames s) is).map mailOf) j batch := by
    unfold TakenAt
    rw [List.getElem?_map, he, Option.map_some, hbatch]
  obtain ⟨hnodup, horigin⟩ := hrun.batch htaken
  refine ⟨?_, hnodup, fun d p hmem => ?_⟩
  · obtain ⟨before, i, rest, -, rfl⟩ := (mem_events_iff _).mp (List.mem_of_getElem? he)
    exact taken_inferring hbatch
  · obtain ⟨i, hnew, -⟩ := horigin d p hmem
    exact ⟨i, hnew⟩

end SmartTraffic.Proof
