import SmartTraffic.Lib.Run
import SmartTraffic.Perception.VehicleState

/-!
# Predictions leave no evidence

Two runs are compared: one with the tracker's projections among its detections
and one without them. `forget` blots out the two fields in which a projection
may leave its mark. It commutes with every operation of the manager, and a
projection is nothing but what it blots out.
-/

namespace SmartTraffic

open Lib

/-! ## What a projection may mark -/

/-- The record without the mark of a projection. -/
def VehicleRecord.forget (s : VehicleRecord) : VehicleRecord :=
  { s with observationType := .observed, lastPredictionFrameId := none }

theorem forget_predict (s : VehicleRecord) (frameNumber : Int) :
    (s.predict frameNumber).forget = s.forget := rfl

namespace VehicleStateManager

/-- The manager without the marks of projections. -/
def forget (m : VehicleStateManager) : VehicleStateManager :=
  { m with activeStates := m.activeStates.mapValues fun _ s => s.forget }

theorem get?_forget (m : VehicleStateManager) (tid : Int) :
    m.forget.activeStates.get? tid = (m.activeStates.get? tid).map (·.forget) :=
  Dict.get?_mapValues _ _ _

/-- **A projection is forgotten.** -/
theorem forget_predictOne (m : VehicleStateManager) (d : Detection) (tid frameNumber : Int) :
    (m.predictOne d tid frameNumber).1.forget = m.forget := by
  unfold predictOne
  cases hget : m.activeStates.get? tid with
  | none => rfl
  | some s =>
      have hforgotten : m.forget.activeStates.get? tid = some s.forget := by
        rw [get?_forget, hget]
        rfl
      have hset : (m.activeStates.set tid (s.predict frameNumber)).mapValues (fun _ s => s.forget)
          = m.activeStates.mapValues fun _ s => s.forget := by
        rw [Dict.mapValues_set, forget_predict]
        exact Dict.set_of_get? hforgotten
      unfold forget
      dsimp only
      rw [hset]

theorem forget_sighted (hypot : Int → Int → Rat) (m : VehicleStateManager) (d : Detection)
    (tid frameNumber : Int) (timestamp : Rat) :
    (m.sighted hypot d tid frameNumber timestamp).forget
      = m.forget.sighted hypot d tid frameNumber timestamp := by
  unfold sighted
  rw [get?_forget]
  cases m.activeStates.get? tid with
  | none => rfl
  | some s => rfl

/-- An observation commutes with forgetting. -/
theorem forget_observeOne (hypot : Int → Int → Rat) (m : VehicleStateManager) (d : Detection)
    (tid frameNumber : Int) (timestamp : Rat) :
    (m.observeOne hypot d tid frameNumber timestamp).1.forget
      = (m.forget.observeOne hypot d tid frameNumber timestamp).1 := by
  have hs := forget_sighted hypot m d tid frameNumber timestamp
  have hconfirmed : (m.forget.sighted hypot d tid frameNumber timestamp).isConfirmed
      = (m.sighted hypot d tid frameNumber timestamp).isConfirmed := by rw [← hs]; rfl
  unfold observeOne forget
  dsimp only
  rw [Dict.mapValues_set, hs]
  show VehicleStateManager.mk _ _ _ _ = VehicleStateManager.mk _ _ _ _
  rw [show m.forget = { m with activeStates := m.activeStates.mapValues fun _ s => s.forget }
    from rfl] at hconfirmed ⊢
  rw [hconfirmed]

/-- So does the purge. -/
theorem forget_purgeStaleTracks (m : VehicleStateManager) (ids : Finset Int) (now : Rat) :
    (m.purgeStaleTracks ids now).forget = m.forget.purgeStaleTracks ids now := by
  have hmark : ∀ tid s, (VehicleRecord.markUnseen ids tid s).forget
      = VehicleRecord.markUnseen ids tid s.forget := by
    intro tid s
    unfold VehicleRecord.markUnseen
    split_ifs <;> rfl
  have hmarked : (m.activeStates.mapValues (VehicleRecord.markUnseen ids)).mapValues
        (fun _ s => s.forget)
      = m.forget.activeStates.mapValues (VehicleRecord.markUnseen ids) := by
    unfold forget
    rw [Dict.mapValues_mapValues, Dict.mapValues_mapValues]
    congr 1
    funext tid s
    exact hmark tid s
  unfold purgeStaleTracks
  rw [← hmarked]
  unfold forget
  dsimp only
  congr 1
  refine (Dict.mapValues_filter _ _ ?_).symm
  intro tid s
  rfl

/-! ## Calls -/

end VehicleStateManager

/-- The call without its predicted detections. -/
def UpdateCall.withoutPredictions (c : UpdateCall) : UpdateCall :=
  { c with detections := c.detections.filter fun d => d.observationType ≠ .predicted }

namespace VehicleStateManager

variable (hypot : Int → Int → Rat)

/-- Two updates that have seen the same evidence. -/
structure SameEvidence (u u' : Updating) : Prop where
  manager : u.manager.forget = u'.manager.forget
  ids : u.currentFrameTrackIds = u'.currentFrameTrackIds

/-- A projection is no evidence. -/
theorem sameEvidence_predicted {u u' : Updating} (h : SameEvidence u u') {d : Detection}
    (hd : d.observationType = .predicted) (frameNumber : Int) (timestamp : Rat) :
    SameEvidence (updateOne hypot frameNumber timestamp u d) u' := by
  unfold updateOne
  cases d.trackId with
  | none => exact ⟨h.manager, h.ids⟩
  | some tid =>
      rw [hd]
      exact ⟨(forget_predictOne u.manager d tid frameNumber).trans h.manager, h.ids⟩

/-- The same observation is the same evidence. -/
theorem sameEvidence_observed {u u' : Updating} (h : SameEvidence u u') {d : Detection}
    (hd : d.observationType ≠ .predicted) (frameNumber : Int) (timestamp : Rat) :
    SameEvidence (updateOne hypot frameNumber timestamp u d)
      (updateOne hypot frameNumber timestamp u' d) := by
  unfold updateOne
  cases d.trackId with
  | none => exact ⟨h.manager, h.ids⟩
  | some tid =>
      cases hobs : d.observationType with
      | predicted => exact absurd hobs hd
      | observed =>
          refine ⟨?_, congrArg (insert tid) h.ids⟩
          show (u.manager.observeOne hypot d tid frameNumber timestamp).1.forget
            = (u'.manager.observeOne hypot d tid frameNumber timestamp).1.forget
          rw [forget_observeOne, forget_observeOne, h.manager]

theorem sameEvidence_foldl (frameNumber : Int) (timestamp : Rat) (detections : List Detection)
    {u u' : Updating} (h : SameEvidence u u') :
    SameEvidence (detections.foldl (updateOne hypot frameNumber timestamp) u)
      ((detections.filter fun d => d.observationType ≠ .predicted).foldl
        (updateOne hypot frameNumber timestamp) u') := by
  induction detections generalizing u u' with
  | nil => exact h
  | cons d rest ih =>
      by_cases hd : d.observationType = .predicted
      · rw [List.foldl_cons, List.filter_cons_of_neg (by simp [hd])]
        exact ih (sameEvidence_predicted hypot h hd frameNumber timestamp)
      · rw [List.foldl_cons, List.filter_cons_of_pos (by simp [hd]), List.foldl_cons]
        exact ih (sameEvidence_observed hypot h hd frameNumber timestamp)

/-- **One call**: managers alike but for projections stay so when one of them gets none. -/
theorem forget_update {m m' : VehicleStateManager} (h : m.forget = m'.forget) (c : UpdateCall) :
    (m.update hypot c).1.forget = (m'.update hypot c.withoutPredictions).1.forget := by
  have hstart : SameEvidence { manager := m } { manager := m' } := ⟨h, rfl⟩
  have hsame := sameEvidence_foldl hypot c.frameNumber c.timestamp c.detections hstart
  unfold update UpdateCall.withoutPredictions
  dsimp only
  rw [forget_purgeStaleTracks, forget_purgeStaleTracks, hsame.manager, hsame.ids]

/-- **A whole run** of calls. -/
theorem forget_run {m m' : VehicleStateManager} (h : m.forget = m'.forget)
    (calls : List UpdateCall) :
    (final (update hypot) m calls).forget
      = (final (update hypot) m' (calls.map (·.withoutPredictions))).forget := by
  induction calls generalizing m m' with
  | nil => exact h
  | cons c rest ih =>
      rw [List.map_cons, final_cons, final_cons]
      exact ih (forget_update hypot h c)

end VehicleStateManager

/-! ## Statistics -/

theorem vehicleCounts_forget (vehicles : List VehicleRecord) :
    vehicleCounts (vehicles.map (·.forget)) = vehicleCounts vehicles := by
  unfold vehicleCounts
  rw [List.foldl_map]
  rfl

theorem averageMotion_forget (vehicles : List VehicleRecord) :
    averageMotion (vehicles.map (·.forget)) = averageMotion vehicles := by
  unfold averageMotion
  rw [List.map_map, List.length_map]
  cases vehicles <;> rfl

/-- The vehicles of every lane, forgotten. -/
def forgetLanes (grouped : Dict String (List VehicleRecord)) : Dict String (List VehicleRecord) :=
  grouped.mapValues fun _ vehicles => vehicles.map (·.forget)

theorem forgetLanes_groupOne (grouped : Dict String (List VehicleRecord)) (s : VehicleRecord) :
    forgetLanes (VehicleStateManager.groupOne grouped s)
      = VehicleStateManager.groupOne (forgetLanes grouped) s.forget := by
  have hlane : ((forgetLanes grouped).get? s.lane).getD []
      = ((grouped.get? s.lane).getD []).map (·.forget) := by
    unfold forgetLanes
    rw [Dict.get?_mapValues]
    cases grouped.get? s.lane <;> rfl
  show (grouped.set s.lane _).mapValues _
    = (forgetLanes grouped).set s.lane (((forgetLanes grouped).get? s.lane).getD [] ++ [s.forget])
  rw [Dict.mapValues_set, hlane, List.map_append]
  rfl

/-- The vehicles that count, in their lanes. -/
theorem getConfirmedVehiclesByLane_forget (m : VehicleStateManager) :
    m.forget.getConfirmedVehiclesByLane = forgetLanes m.getConfirmedVehiclesByLane := by
  have hfill : ∀ (vehicles : List VehicleRecord) (grouped : Dict String (List VehicleRecord)),
      (vehicles.map (·.forget)).foldl VehicleStateManager.groupOne (forgetLanes grouped)
        = forgetLanes (vehicles.foldl VehicleStateManager.groupOne grouped) := by
    intro vehicles
    induction vehicles with
    | nil => intro grouped; rfl
    | cons s rest ih =>
        intro grouped
        rw [List.map_cons, List.foldl_cons, List.foldl_cons, ← forgetLanes_groupOne, ih]
  have hvalues : m.forget.activeStates.values = m.activeStates.values.map (·.forget) := by
    unfold VehicleStateManager.forget Dict.values Dict.mapValues
    dsimp only
    rw [List.map_map, List.map_map]
    rfl
  unfold VehicleStateManager.getConfirmedVehiclesByLane
  rw [hvalues, List.filter_map]
  exact hfill _ ∅

/-- **The statistics do not see what is forgotten.** -/
theorem generateStats_forget (m : VehicleStateManager) :
    generateStats m.forget = generateStats m := by
  unfold generateStats exportLane
  rw [getConfirmedVehiclesByLane_forget]
  unfold forgetLanes
  refine List.map_congr_left fun lane _ => ?_
  rw [Dict.get?_mapValues]
  have hvehicles : ((m.getConfirmedVehiclesByLane.get? lane).map (·.map (·.forget))).getD []
      = ((m.getConfirmedVehiclesByLane.get? lane).getD []).map (·.forget) := by
    cases m.getConfirmedVehiclesByLane.get? lane <;> rfl
  dsimp only
  rw [hvehicles, averageMotion_forget, vehicleCounts_forget, List.map_map]
  rfl

namespace Proof

/--
**Predictions are inert.** Take the predicted detections out of every call of a
run: the active states are the same but for the type of the last observation and
the frame of the last prediction, and so are the historical counts and the
statistics of every lane.
-/
theorem predictions_are_inert (hypot : Int → Int → Rat) (m : VehicleStateManager)
    (calls : List UpdateCall) :
    let with' := final (VehicleStateManager.update hypot) m calls
    let without := final (VehicleStateManager.update hypot) m (calls.map (·.withoutPredictions))
    with'.activeStates.mapValues (fun _ s => s.forget)
        = without.activeStates.mapValues (fun _ s => s.forget)
      ∧ with'.historicalTracksCount = without.historicalTracksCount
      ∧ generateStats with' = generateStats without := by
  have h := VehicleStateManager.forget_run hypot (m := m) rfl calls
  refine ⟨congrArg (·.activeStates) h, congrArg (·.historicalTracksCount) h, ?_⟩
  rw [← generateStats_forget, h, generateStats_forget]

end Proof

end SmartTraffic
