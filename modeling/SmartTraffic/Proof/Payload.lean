import SmartTraffic.Signal.Payload

/-!
# Decision payloads round-trip

The decoder finds all nine keys in an encoded decision, and each with a value of the
kind it expects, so that no default, no conversion of text and no exception comes into
play. What it makes of the payload is the decision with its two floats rounded and with
its lanes read as `LaneName` values where they spell one.

Neither shows in the payload again: a float that was rounded is its own nearest decimal,
and a lane and what it spells are encoded by the same string.
-/

namespace SmartTraffic.Proof

open SmartTraffic Lib DecisionRecord

/-- What is looked up in an encoded decision. -/
theorem toDict_get? (d : DecisionRecord) :
    d.toDict.get? "phase_id" = some (.int d.phaseId)
      ∧ d.toDict.get? "green_lane" = some (.str d.greenLane.toStr)
      ∧ d.toDict.get? "green_duration_sec" = some (.int d.greenDurationSec)
      ∧ d.toDict.get? "yellow_duration_sec" = some (.int d.yellowDurationSec)
      ∧ d.toDict.get? "red_lanes" = some (.arr (d.redLanes.map fun r => .str r.toStr))
      ∧ d.toDict.get? "priority_score" = some (.float (d.priorityScore.round 2))
      ∧ d.toDict.get? "reason" = some (.str d.reason.value)
      ∧ d.toDict.get? "reason_details" = some (.str d.reasonDetails)
      ∧ d.toDict.get? "timestamp" = some (.float (d.timestamp.round 3)) := by
  unfold Dict.get? toDict
  refine ⟨rfl, rfl, rfl, rfl, rfl, rfl, rfl, rfl, rfl⟩

/-- **What the decoder makes of an encoded decision.** -/
theorem fromDict_toDict (c : Conversions) (now : JsonFloat) (d : DecisionRecord) :
    fromDict c now d.toDict = .ok d.rounded.canonical := by
  obtain ⟨hphase, hgreen, hgreenSec, hyellowSec, hred, hscore, hreason, hdetails, htime⟩ :=
    toDict_get? d
  have hlanes : (d.redLanes.map fun r => Json.str r.toStr).map c.laneOf
      = d.redLanes.map Lane.canonical := by
    rw [List.map_map]
    rfl
  unfold fromDict
  simp only [hphase, hgreen, hgreenSec, hyellowSec, hred, hscore, hreason, hdetails, htime,
    Option.getD_some, Conversions.iterate_arr, Conversions.reasonOf_value, Conversions.intOf_int,
    Conversions.floatOf_float, Conversions.strOf_str, Conversions.laneOf_str, bind, Except.bind,
    hlanes]
  rfl

/-- A lane and what it spells are encoded alike. -/
theorem toDict_canonical (d : DecisionRecord) : d.canonical.toDict = d.toDict := by
  have hred : (d.redLanes.map Lane.canonical).map (fun r => Json.str r.toStr)
      = d.redLanes.map fun r => .str r.toStr := by
    rw [List.map_map]
    refine List.map_congr_left fun r _ => ?_
    simp [Lane.canonical]
  refine Dict.eq_of_items ?_
  unfold toDict canonical
  dsimp only
  rw [hred, Lane.canonical, Lane.toStr_ofStr]

/-- Rounding once more changes nothing. -/
theorem toDict_rounded (d : DecisionRecord) : d.rounded.toDict = d.toDict := by
  refine Dict.eq_of_items ?_
  unfold toDict rounded
  dsimp only
  rw [JsonFloat.round_two (d.priorityScore.round_hasDecimals 2),
    JsonFloat.round_three (d.timestamp.round_hasDecimals 3)]

/--
**Decision payloads round-trip.** Decoding an encoded decision succeeds, and encoding the
result gives the same payload. The result is the decision itself, a lane that spells a
`LaneName` counting as that value, whenever the score is stored for at most two decimals and
the timestamp for at most three.
-/
theorem decision_payload_roundtrip (c : Conversions) (now : JsonFloat) (d : DecisionRecord) :
    (∃ d', fromDict c now d.toDict = .ok d' ∧ d'.toDict = d.toDict)
      ∧ (d.priorityScore.HasDecimals 2 → d.timestamp.HasDecimals 3 →
        fromDict c now d.toDict = .ok d.canonical) := by
  refine ⟨⟨_, fromDict_toDict c now d, ?_⟩, fun hscore htime => ?_⟩
  · rw [toDict_canonical, toDict_rounded]
  · have hrounded : d.rounded = d := by
      unfold rounded
      rw [JsonFloat.round_two hscore, JsonFloat.round_three htime]
    rw [fromDict_toDict, hrounded]

/-- A decision for a lane that is spelled out, and a red lane that is no approach. -/
def sideStreetDecision : DecisionRecord where
  phaseId := -4
  greenLane := .text "North"
  greenDurationSec := 25
  yellowDurationSec := 3
  redLanes := [.name .south, .text "Side street"]
  priorityScore := .finite (double (4127 / 100))
  reason := .starvation
  reasonDetails := ""
  timestamp := .finite (double (1700000000123 / 1000))

/-- The decoder needs no text conversion for it. -/
theorem decision_payload_roundtrip_side_street :
    let c : Conversions :=
      { intOfStr := fun _ => none, floatOfStr := fun _ => none, str := fun _ => "" }
    fromDict c (.finite 0) sideStreetDecision.toDict
      = .ok { sideStreetDecision with greenLane := .name .north } :=
  (decision_payload_roundtrip _ _ sideStreetDecision).2 ⟨4127, by norm_num⟩
    ⟨1700000000123, by norm_num⟩

end SmartTraffic.Proof
