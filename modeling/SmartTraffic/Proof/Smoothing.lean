import SmartTraffic.Lib.Dict
import SmartTraffic.Lib.Run
import SmartTraffic.Perception.Stabilizer

/-!
# Smoothing, lane by lane

The stabilizer keeps one table for all lanes and seeds an average whenever the
history it has just written holds a single count. Two things follow for every run
of calls. The average of a lane, and the count derived from it, stay between the
smallest and the largest count the lane was ever given. And a call reads and writes
nothing of a lane it does not list, so that what a lane gets is what it would get if
its own observations came alone, one in a call.

Two stabilizers agree on a lane if they hold the same of it. Agreement survives a
call that does not list the lane on either side, and a call on both sides with the
same observation, which then has the same result.
-/

namespace SmartTraffic.Proof

open SmartTraffic Lib CountStabilizer

variable {K : Type} [DecidableEq K]

/-- One call of `stabilize` over exact rationals, as a step. -/
def stabilizeCall (s : CountStabilizer K) (call : Dict K LaneStatistics) :
    CountStabilizer K × List (K × LaneStatistics) :=
  ((s.stabilize id call.items).2, (s.stabilize id call.items).1)

/-- What a run of calls observes of a lane. -/
def observations (lane : K) (calls : List (Dict K LaneStatistics)) : List LaneStatistics :=
  calls.filterMap (·.get? lane)

/-- What a run of calls puts out for a lane. -/
def laneOutputs (s : CountStabilizer K) (lane : K) (calls : List (Dict K LaneStatistics)) :
    List LaneStatistics :=
  (events stabilizeCall s calls).filterMap (·.out.lookup lane)

theorem observations_cons (lane : K) (call : Dict K LaneStatistics)
    (calls : List (Dict K LaneStatistics)) :
    observations lane (call :: calls) = (call.get? lane).toList ++ observations lane calls := by
  unfold observations
  rw [List.filterMap_cons]
  cases call.get? lane <;> rfl

theorem laneOutputs_cons (s : CountStabilizer K) (lane : K) (call : Dict K LaneStatistics)
    (calls : List (Dict K LaneStatistics)) :
    laneOutputs s lane (call :: calls)
      = ((s.stabilize id call.items).1.lookup lane).toList
        ++ laneOutputs (stabilizeCall s call).1 lane calls := by
  unfold laneOutputs
  rw [events_cons, List.filterMap_cons]
  unfold eventOf stabilizeCall
  cases (s.stabilize id call.items).1.lookup lane <;> rfl

/-- The average lies between two of the observed counts. -/
def BetweenCounts (seen : List LaneStatistics) (q : Rat) : Prop :=
  ∃ least ∈ seen, ∃ greatest ∈ seen, (least.liveCount : Rat) ≤ q ∧ q ≤ greatest.liveCount

/-! ## Agreement on a lane -/

/-- The two stabilizers hold the same of the lane. -/
structure Agree (lane : K) (s s' : CountStabilizer K) : Prop where
  alpha : s.alpha = s'.alpha
  historySize : s.historySize = s'.historySize
  countHistory : s.countHistory lane = s'.countHistory lane
  ema : s.ema lane = s'.ema lane

namespace Agree

variable {lane : K} {s s' s'' : CountStabilizer K}

omit [DecidableEq K] in
theorem refl (lane : K) (s : CountStabilizer K) : Agree lane s s := ⟨rfl, rfl, rfl, rfl⟩

omit [DecidableEq K] in
theorem trans (h : Agree lane s s') (h' : Agree lane s' s'') : Agree lane s s'' :=
  ⟨h.alpha.trans h'.alpha, h.historySize.trans h'.historySize,
    h.countHistory.trans h'.countHistory, h.ema.trans h'.ema⟩

omit [DecidableEq K] in
theorem symm (h : Agree lane s s') : Agree lane s' s :=
  ⟨h.alpha.symm, h.historySize.symm, h.countHistory.symm, h.ema.symm⟩

omit [DecidableEq K] in
theorem nextEma (h : Agree lane s s') (n : Int) : s.nextEma id lane n = s'.nextEma id lane n := by
  unfold CountStabilizer.nextEma
  rw [h.alpha, h.historySize, h.countHistory, h.ema]

/-- Another lane's count changes nothing. -/
theorem record_of_ne {other : K} (hne : lane ≠ other) (n : Int) :
    Agree lane s (s.record id other n) :=
  ⟨rfl, rfl, (record_countHistory_of_ne s n hne).symm, (record_ema_of_ne s n hne).symm⟩

/-- The same count keeps the agreement. -/
theorem record (h : Agree lane s s') (n : Int) :
    Agree lane (s.record id lane n) (s'.record id lane n) where
  alpha := h.alpha
  historySize := h.historySize
  countHistory := by
    unfold CountStabilizer.record
    simp only [Function.update_self]
    rw [h.historySize, h.countHistory]
  ema := by rw [record_ema_self, record_ema_self, h.nextEma n]

end Agree

/-- A call without the lane leaves the lane alone. -/
theorem stabilize_of_notMem {lane : K} {items : List (K × LaneStatistics)}
    (h : lane ∉ items.map Prod.fst) (s : CountStabilizer K) :
    Agree lane s (s.stabilize id items).2 ∧ (s.stabilize id items).1.lookup lane = none := by
  induction items generalizing s with
  | nil => exact ⟨Agree.refl lane s, rfl⟩
  | cons item rest ih =>
      obtain ⟨other, stats⟩ := item
      rw [List.map_cons, List.mem_cons, not_or] at h
      obtain ⟨hne, hrest⟩ := h
      obtain ⟨hagree, hnone⟩ := ih hrest (s.record id other stats.liveCount)
      refine ⟨(Agree.record_of_ne hne stats.liveCount).trans hagree, ?_⟩
      unfold stabilize
      rw [List.lookup_cons, beq_false_of_ne hne]
      exact hnone

/-- A call with the lane records its count, and puts out its statistics. -/
theorem stabilize_of_get? {lane : K} {call : Dict K LaneStatistics} {stats : LaneStatistics}
    (h : call.get? lane = some stats) (s : CountStabilizer K) :
    Agree lane (s.record id lane stats.liveCount) (s.stabilize id call.items).2
      ∧ (s.stabilize id call.items).1.lookup lane
        = some (smoothed id stats (s.nextEma id lane stats.liveCount)) := by
  obtain ⟨items, hnd⟩ := call
  unfold Dict.get? at h
  dsimp only at h ⊢
  induction items generalizing s with
  | nil => exact absurd h (by simp)
  | cons item rest ih =>
      obtain ⟨other, st⟩ := item
      obtain ⟨hnew, hrest⟩ := List.nodup_cons.mp hnd
      unfold stabilize
      rw [List.lookup_cons] at h ⊢
      by_cases hl : lane = other
      · subst hl
        rw [beq_self_eq_true] at h ⊢
        obtain rfl := Option.some.inj h
        exact ⟨(stabilize_of_notMem hnew _).1, rfl⟩
      · rw [beq_false_of_ne hl] at h ⊢
        have hother := Agree.record_of_ne (s := s) hl st.liveCount
        obtain ⟨hagree, hout⟩ := ih (s.record id other st.liveCount) hrest h
        refine ⟨(hother.record stats.liveCount).trans hagree, ?_⟩
        rw [hother.nextEma]
        exact hout

/-! ## Isolation -/

/-- A call with one lane. -/
def alone (lane : K) (stats : LaneStatistics) : Dict K LaneStatistics where
  items := [(lane, stats)]
  nodup := List.nodup_singleton _

@[simp] theorem alone_get? (lane : K) (stats : LaneStatistics) :
    (alone lane stats).get? lane = some stats := by simp [alone, Dict.get?]

theorem observations_alone (lane : K) (seen : List LaneStatistics) :
    observations lane (seen.map (alone lane)) = seen := by
  unfold observations
  rw [List.filterMap_map]
  have hsome : (fun call : Dict K LaneStatistics => call.get? lane) ∘ alone lane = some :=
    funext fun stats => alone_get? lane stats
  rw [hsome, List.filterMap_some]

/-- **A run means for a lane what its own observations mean, one in a call.** -/
theorem run_alone {lane : K} {s s' : CountStabilizer K} (h : Agree lane s s')
    (calls : List (Dict K LaneStatistics)) :
    laneOutputs s lane calls
        = laneOutputs s' lane ((observations lane calls).map (alone lane))
      ∧ Agree lane (final stabilizeCall s calls)
        (final stabilizeCall s' ((observations lane calls).map (alone lane))) := by
  induction calls generalizing s s' with
  | nil => exact ⟨rfl, h⟩
  | cons call calls ih =>
      rw [observations_cons, laneOutputs_cons, final_cons]
      cases hget : call.get? lane with
      | none =>
          obtain ⟨hagree, hout⟩ := stabilize_of_notMem (call.notMem_keys_of_get? hget) s
          rw [hout]
          exact ih (hagree.symm.trans h)
      | some stats =>
          obtain ⟨hagree, hout⟩ := stabilize_of_get? hget s
          obtain ⟨hagree', hout'⟩ := stabilize_of_get? (alone_get? lane stats) s'
          have hnext : Agree lane (stabilizeCall s call).1
              (stabilizeCall s' (alone lane stats)).1 :=
            hagree.symm.trans ((h.record stats.liveCount).trans hagree')
          obtain ⟨houts, hfinal⟩ := ih hnext
          rw [Option.toList_some, List.singleton_append, List.map_cons, laneOutputs_cons,
            final_cons, hout, hout', h.nextEma, houts]
          exact ⟨rfl, hfinal⟩

/-! ## Bounds -/

omit [DecidableEq K] in
theorem dequeAppend_ne_nil {maxlen : Nat} (h : 1 ≤ maxlen) (history : List Int) (x : Int) :
    dequeAppend maxlen history x ≠ [] := by
  unfold dequeAppend
  rw [ne_eq, List.drop_eq_nil_iff, List.length_append, List.length_singleton]
  omega

/-- Everything that was observed lies between a least and a greatest count. -/
theorem exists_bounds {seen : List LaneStatistics} (h : seen ≠ []) :
    ∃ least ∈ seen, ∃ greatest ∈ seen, ∀ stats ∈ seen,
      least.liveCount ≤ stats.liveCount ∧ stats.liveCount ≤ greatest.liveCount := by
  have hne : seen.toFinset.Nonempty := List.toFinset_nonempty_iff _ |>.mpr h
  obtain ⟨least, hleast, hmin⟩ := seen.toFinset.exists_min_image (·.liveCount) hne
  obtain ⟨greatest, hgreatest, hmax⟩ := seen.toFinset.exists_max_image (·.liveCount) hne
  exact ⟨least, List.mem_toFinset.mp hleast, greatest, List.mem_toFinset.mp hgreatest,
    fun stats hs => ⟨hmin stats (List.mem_toFinset.mpr hs), hmax stats (List.mem_toFinset.mpr hs)⟩⟩

/-- A run keeps the average of a lane between bounds that its observations obey. -/
theorem run_within {s : CountStabilizer K} (ha : s.Averaging) {lo hi : Rat} {lane : K}
    {calls : List (Dict K LaneStatistics)} (hw : EmaWithin lo hi s lane)
    (hn : ∀ stats ∈ observations lane calls, lo ≤ stats.liveCount ∧ (stats.liveCount : Rat) ≤ hi) :
    EmaWithin lo hi (final stabilizeCall s calls) lane
      ∧ (final stabilizeCall s calls).Averaging := by
  induction calls generalizing s with
  | nil => exact ⟨hw, ha⟩
  | cons call calls ih =>
      have hcall : ∀ stats, (lane, stats) ∈ call.items →
          lo ≤ stats.liveCount ∧ (stats.liveCount : Rat) ≤ hi := fun stats hmem =>
        hn stats (List.mem_filterMap.mpr ⟨call, List.mem_cons_self, call.mem_items_iff.mp hmem⟩)
      obtain ⟨-, hnext, hnextAvg⟩ := stabilize_within ha hw hcall
      refine ih hnextAvg hnext fun stats hs => hn stats ?_
      obtain ⟨c, hc, hget⟩ := List.mem_filterMap.mp hs
      exact List.mem_filterMap.mpr ⟨c, List.mem_cons_of_mem _ hc, hget⟩

/-- An observed lane has a history. -/
theorem countHistory_ne_nil {s : CountStabilizer K} (ha : s.Averaging) {lane : K}
    {call : Dict K LaneStatistics} {stats : LaneStatistics} (h : call.get? lane = some stats) :
    (s.stabilize id call.items).2.countHistory lane ≠ [] := by
  rw [← (stabilize_of_get? h s).1.countHistory]
  unfold CountStabilizer.record
  simp only [Function.update_self]
  exact dequeAppend_ne_nil ha.history_pos _ _

/-- **The average of a lane lies between two of its counts**, and so does the count it rounds to. -/
theorem call_between {alpha : Rat} {historySize : Nat} (h0 : 0 ≤ alpha) (h1 : alpha ≤ 1)
    (hsize : 1 ≤ historySize) (before : List (Dict K LaneStatistics))
    {call : Dict K LaneStatistics} {lane : K} {stats : LaneStatistics}
    (h : call.get? lane = some stats) :
    let s := final stabilizeCall { alpha := alpha, historySize := historySize } before
    BetweenCounts (observations lane (before ++ [call])) ((s.stabilize id call.items).2.ema lane)
      ∧ ∀ out, (lane, out) ∈ (s.stabilize id call.items).1 →
        BetweenCounts (observations lane (before ++ [call])) out.liveCount := by
  intro s
  have hseen : observations lane (before ++ [call]) = observations lane before ++ [stats] := by
    unfold observations
    rw [List.filterMap_append]
    simp [h]
  have hne : observations lane (before ++ [call]) ≠ [] := by rw [hseen]; simp
  obtain ⟨least, hleast, greatest, hgreatest, hall⟩ := exists_bounds hne
  have hbounds : ∀ stats ∈ observations lane (before ++ [call]),
      (least.liveCount : Rat) ≤ stats.liveCount
        ∧ (stats.liveCount : Rat) ≤ greatest.liveCount := fun stats hs => by
    obtain ⟨hl, hg⟩ := hall stats hs
    exact ⟨by exact_mod_cast hl, by exact_mod_cast hg⟩
  have hinit : Averaging (K := K) { alpha := alpha, historySize := historySize } := ⟨h0, h1, hsize⟩
  have hrun : EmaWithin (least.liveCount : Rat) greatest.liveCount s lane ∧ s.Averaging :=
    run_within hinit (Or.inl rfl) fun stats hs =>
      hbounds stats (by rw [hseen]; exact List.mem_append_left _ hs)
  obtain ⟨hw, ha⟩ := hrun
  obtain ⟨hout, hnext, -⟩ := stabilize_within ha hw fun st hst => by
    obtain rfl := Option.some.inj ((call.mem_items_iff.mp hst).symm.trans h)
    exact hbounds st (by rw [hseen]; exact List.mem_append_right _ List.mem_cons_self)
  refine ⟨⟨least, hleast, greatest, hgreatest, ?_⟩, fun out hmem => ?_⟩
  · exact hnext.resolve_left (countHistory_ne_nil ha h)
  · obtain ⟨st, e, -, rfl, hlo, hhi⟩ := hout out hmem
    refine ⟨least, hleast, greatest, hgreatest, ?_, ?_⟩
    · exact_mod_cast le_roundHalfEven hlo
    · exact_mod_cast roundHalfEven_le hhi

/--
**Smoothing stays within what was seen and keeps lanes apart.** With a weight between 0
and 1 and room for at least one count, in every run of calls: the average of a lane that was
observed lies between two counts observed so far; so does every count put out for it;
and two runs that observe the same of a lane, however other lanes come in between, put
out the same for it and leave the same average.
-/
theorem stabilize_within_and_apart {alpha : Rat} {historySize : Nat} (h0 : 0 ≤ alpha)
    (h1 : alpha ≤ 1) (hsize : 1 ≤ historySize) :
    let s₀ : CountStabilizer K := { alpha := alpha, historySize := historySize }
    (∀ calls lane, observations lane calls ≠ [] →
        BetweenCounts (observations lane calls) ((final stabilizeCall s₀ calls).ema lane))
      ∧ (∀ before (call : Dict K LaneStatistics) lane out,
        (lane, out) ∈ ((final stabilizeCall s₀ before).stabilize id call.items).1 →
          BetweenCounts (observations lane (before ++ [call])) out.liveCount)
      ∧ ∀ calls calls' lane, observations lane calls = observations lane calls' →
        laneOutputs s₀ lane calls = laneOutputs s₀ lane calls'
          ∧ (final stabilizeCall s₀ calls).ema lane = (final stabilizeCall s₀ calls').ema lane := by
  intro s₀
  refine ⟨fun calls lane hne => ?_, fun before call lane out hout => ?_,
    fun calls calls' lane hsame => ?_⟩
  · -- the last call that observed the lane, with nothing else around it
    rw [(run_alone (Agree.refl lane s₀) calls).2.ema]
    obtain ⟨stats, hlast⟩ := Option.ne_none_iff_exists'.mp (mt List.getLast?_eq_none_iff.mp hne)
    obtain ⟨seen, hseen⟩ := List.getLast?_eq_some_iff.mp hlast
    have hbetween := (call_between h0 h1 hsize (seen.map (alone lane)) (alone_get? lane stats)).1
    have hcalls : seen.map (alone lane) ++ [alone lane stats]
        = (observations lane calls).map (alone lane) := by
      rw [hseen, List.map_append, List.map_singleton]
    rw [hcalls, observations_alone] at hbetween
    rw [← hcalls, final_append]
    exact hbetween
  · have hkey : call.get? lane ≠ none := by
      intro hnone
      have hlookup := (stabilize_of_notMem (call.notMem_keys_of_get? hnone)
        (final stabilizeCall s₀ before)).2
      have hne := List.lookup_eq_none_iff.mp hlookup _ hout
      simp at hne
    obtain ⟨stats, hstats⟩ := Option.ne_none_iff_exists'.mp hkey
    exact (call_between h0 h1 hsize before hstats).2 out hout
  · obtain ⟨hout, hagree⟩ := run_alone (Agree.refl lane s₀) calls
    obtain ⟨hout', hagree'⟩ := run_alone (Agree.refl lane s₀) calls'
    rw [hsame] at hout hagree
    exact ⟨hout.trans hout'.symm, hagree.ema.trans hagree'.ema.symm⟩

/-- With the default parameters, an average after a 4 and a 9 lies between them. -/
theorem stabilize_within_and_apart_north :
    let calls := [4, 9].map fun n : Int => alone "North" { laneName := "North", liveCount := n }
    BetweenCounts (observations "North" calls)
      ((final stabilizeCall { alpha := Config.emaAlpha, historySize := Config.countHistorySize }
        calls).ema "North") :=
  (stabilize_within_and_apart (by decide +kernel) (by decide +kernel)
    (by decide)).1 _ "North" (by decide)

end SmartTraffic.Proof
