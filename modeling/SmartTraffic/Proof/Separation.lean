import SmartTraffic.Proof.Simulator

/-!
# All red between conflicting greens

Once a lit approach is put out, every approach stays red until the next green, so
the time in between is one all-red spell (`spell_of_no_green`). The spell begins
with the all-red timer full, and lasts until it has run out, unless a stall or a
hold clears the timer.
-/

namespace SmartTraffic.Proof

open SmartTraffic Lib DigitalIntersection

/-! ## All red -/

/-- Every approach is red. -/
def AllRed (d : DigitalIntersection) : Prop := ∀ lane, d.signalOf lane = .red

instance (d : DigitalIntersection) : Decidable (AllRed d) :=
  inferInstanceAs (Decidable (∀ lane, d.signalOf lane = .red))

theorem allRed_iff {d : DigitalIntersection} (h : LaneSet d) :
    AllRed d ↔ d.simPhaseState = .allRed := by
  constructor
  · intro hred
    by_contra hne
    obtain ⟨lane, hlane⟩ := h hne
    cases hp : d.simPhaseState with
    | green => exact absurd (signalOf_green_iff.mpr ⟨hp, hlane⟩) (by rw [hred lane]; decide)
    | yellow => exact absurd (signalOf_yellow_iff.mpr ⟨hp, hlane⟩) (by rw [hred lane]; decide)
    | allRed => exact hne hp
  · intro hp lane
    by_contra hlit
    rcases (lit_cases hlit).2 with hg | hy
    · rw [hp] at hg; exact absurd hg (by decide)
    · rw [hp] at hy; exact absurd hy (by decide)

/-! ## From one approach to another -/

/-- A stall or a hold comes while all is red and the all-red time is over. -/
def Undisturbed (d : DigitalIntersection) (op : SimOp) : Prop :=
  d.holds op = true → d.simPhaseState = .allRed ∧ d.simRemainingSec ≤ 0

instance (d : DigitalIntersection) (op : SimOp) : Decidable (Undisturbed d op) :=
  inferInstanceAs (Decidable (_ → _))

/-- The simulated time of a stretch that is spent with every approach red. -/
def allRedTime (d : DigitalIntersection) (ops : List SimOp) : Rat :=
  ((events DigitalIntersection.apply d ops).map fun e =>
    if AllRed e.pre then e.input.dt else 0).sum

/--
From the last moment at which `a` is green or yellow to the first later moment at
which another approach is green: `a` is lit in `d`, the calls `ops` lead to a
green of `b`, and in between `a` is not lit and nobody is green.
-/
structure ChangeOver (d : DigitalIntersection) (ops : List SimOp) (a b : LaneName) : Prop where
  lit : d.signalOf a ≠ .red
  between : ∀ e ∈ (events DigitalIntersection.apply d ops).dropLast,
    e.post.signalOf a = .red ∧ ∀ c, e.post.signalOf c ≠ .green
  next : (final DigitalIntersection.apply d ops).signalOf b = .green
  ne : b ≠ a

/-- One call never passes the green from a lit approach to another. -/
theorem no_direct_change {d : DigitalIntersection} {op : SimOp} {a b : LaneName}
    (hlit : d.signalOf a ≠ .red) (hgreen : (d.apply op).1.signalOf b = .green) : b = a := by
  obtain ⟨hlane, hphase⟩ := lit_cases hlit
  obtain ⟨hp', hlane'⟩ := signalOf_green_iff.mp hgreen
  cases hh : d.holds op with
  | true => exact absurd ((apply_of_holds hh).1.symm.trans hp') (by decide)
  | false =>
      rcases hphase with hp | hp
      · have hl := (apply_green hh hp).2.1
        exact Option.some.inj (hlane'.symm.trans (hl.trans hlane))
      · have hl := (apply_yellow hh hp).2.1
        exact Option.some.inj (hlane'.symm.trans (hl.trans hlane))

/-- An approach is put out, undisturbed, with the all-red timer full. -/
theorem allRed_starts {d : DigitalIntersection} {op : SimOp} {a : LaneName} (h : LaneSet d)
    (hop : Undisturbed d op) (hlit : d.signalOf a ≠ .red) (hred : AllRed (d.apply op).1) :
    (d.apply op).1.simRemainingSec = d.allRedSec := by
  have hp' := (allRed_iff (laneSet_step op h)).mp hred
  obtain ⟨-, hphase⟩ := lit_cases hlit
  cases hh : d.holds op with
  | true =>
      have hp := (hop hh).1
      rw [hp] at hphase
      exact absurd hphase (by decide)
  | false =>
      rcases hphase with hp | hp
      · obtain ⟨-, -, ⟨hg, -⟩ | ⟨hy, -⟩⟩ := apply_green hh hp
        · exact absurd (hg.symm.trans hp') (by decide)
        · exact absurd (hy.symm.trans hp') (by decide)
      · obtain ⟨-, -, ⟨hy, -⟩ | ⟨-, hrem, -⟩⟩ := apply_yellow hh hp
        · exact absurd (hy.symm.trans hp') (by decide)
        · exact hrem

/-- **An undisturbed all-red lasts at least as long as its timer was set.** -/
theorem allRed_duration {d : DigitalIntersection} {mid : List SimOp} {last : SimOp}
    (hset : LaneSet d) (h : Spell DigitalIntersection.apply AllRed d mid last)
    (hok : ∀ e ∈ events DigitalIntersection.apply d (mid ++ [last]),
      Undisturbed e.pre e.input ∧ 0 ≤ e.input.dt) :
    d.simRemainingSec ≤ simTime (mid ++ [last]) := by
  have hstep : ∀ (s : DigitalIntersection) (op : SimOp), LaneSet s →
      (Undisturbed s op ∧ 0 ≤ op.dt) → LaneSet (s.apply op).1 := fun _ op hs _ => laneSet_step op hs
  have hsets := events_invariant hstep hset hok
  refine h.timer_le simRemainingSec SimOp.dt
    (fun d op => LaneSet d ∧ Undisturbed d op ∧ 0 ≤ op.dt) ?_ ?_
    fun e he => ⟨(hsets e he).1, hok e he⟩
  · rintro s op hon ⟨hs, hund, hdt⟩ hon'
    have hp := (allRed_iff hs).mp hon
    cases hh : s.holds op with
    | true =>
        -- the hold finds the timer expired
        have hrem := (hund hh).2
        rw [(apply_of_holds hh).2.2.1]
        linarith
    | false =>
        rcases apply_allRed hh hp with ⟨-, -, hfall⟩ | ⟨-, -, hg, -⟩
        · exact hfall
        · have hred := (allRed_iff (laneSet_step op hs)).mp hon'
          exact absurd (hred.symm.trans hg) (by decide)
  · rintro s op hon ⟨hs, -, -⟩ hoff
    have hp := (allRed_iff hs).mp hon
    cases hh : s.holds op with
    | true => exact absurd ((allRed_iff (laneSet_step op hs)).mpr (apply_of_holds hh).1) hoff
    | false =>
        rcases apply_allRed hh hp with ⟨hred, -⟩ | ⟨-, -, -, -, -, hrun⟩
        · exact absurd ((allRed_iff (laneSet_step op hs)).mpr hred) hoff
        · exact hrun

/-- A lit approach that goes red leaves every approach red. -/
theorem allRed_of_put_out {d : DigitalIntersection} {op : SimOp} {a : LaneName}
    (hlit : d.signalOf a ≠ .red) (hred : (d.apply op).1.signalOf a = .red) :
    (d.apply op).1.simPhaseState = .allRed := by
  obtain ⟨hlane, hphase⟩ := lit_cases hlit
  cases hh : d.holds op with
  | true => exact (apply_of_holds hh).1
  | false =>
      rcases hphase with hp | hp
      · obtain ⟨-, hl, ⟨hg, -⟩ | ⟨hy, -⟩⟩ := apply_green hh hp
        · exact absurd (signalOf_green_iff.mpr ⟨hg, hl.trans hlane⟩) (by rw [hred]; decide)
        · exact absurd (signalOf_yellow_iff.mpr ⟨hy, hl.trans hlane⟩) (by rw [hred]; decide)
      · obtain ⟨-, hl, ⟨hy, -⟩ | ⟨hr, -⟩⟩ := apply_yellow hh hp
        · exact absurd (signalOf_yellow_iff.mpr ⟨hy, hl.trans hlane⟩) (by rw [hred]; decide)
        · exact hr

/-- After all red there is more all red, or a green. -/
theorem allRed_of_no_green {d : DigitalIntersection} {op : SimOp}
    (hp : d.simPhaseState = .allRed) (hno : ∀ c, (d.apply op).1.signalOf c ≠ .green) :
    (d.apply op).1.simPhaseState = .allRed := by
  cases hh : d.holds op with
  | true => exact (apply_of_holds hh).1
  | false =>
      rcases apply_allRed hh hp with ⟨hr, -⟩ | ⟨dec, -, hg, hlane, -⟩
      · exact hr
      · exact absurd (signalOf_green_iff.mpr ⟨hg, hlane⟩) (hno _)

/-- From an all-red state on, the calls before the next green keep every approach red. -/
theorem spell_of_no_green {d : DigitalIntersection} {mid : List SimOp} {last : SimOp} {b : LaneName}
    (hset : LaneSet d) (hp : d.simPhaseState = .allRed)
    (hno : ∀ e ∈ events DigitalIntersection.apply d mid, ∀ c, e.post.signalOf c ≠ .green)
    (hnext : (final DigitalIntersection.apply d (mid ++ [last])).signalOf b = .green) :
    Spell DigitalIntersection.apply AllRed d mid last := by
  refine ⟨(allRed_iff hset).mpr hp, ?_, ?_⟩
  · clear hnext
    induction mid generalizing d with
    | nil => intro e he; exact absurd he List.not_mem_nil
    | cons op mid ih =>
        have hp' := allRed_of_no_green hp (hno _ List.mem_cons_self)
        have hset' := laneSet_step op hset
        intro e he
        rcases List.mem_cons.mp he with rfl | he
        · exact (allRed_iff hset').mpr hp'
        · exact ih hset' hp' (fun e he => hno e (List.mem_cons_of_mem _ he)) e he
  · intro hred
    rw [final_append] at hnext
    exact absurd (hnext.symm.trans (hred b)) (by decide)

/-- A stretch that is all red before every call is all-red time. -/
theorem allRedTime_of_spell {d : DigitalIntersection} {mid : List SimOp} {last : SimOp}
    (h : Spell DigitalIntersection.apply AllRed d mid last) :
    allRedTime d (mid ++ [last]) = simTime (mid ++ [last]) := by
  induction mid generalizing d with
  | nil => simp [allRedTime, simTime, eventOf, h.starts]
  | cons op mid ih =>
      have hrest : Spell DigitalIntersection.apply AllRed (d.apply op).1 mid last :=
        ⟨h.stays _ List.mem_cons_self, fun e he => h.stays e (List.mem_cons_of_mem _ he), h.ends⟩
      have hhere : allRedTime d (op :: (mid ++ [last]))
          = op.dt + allRedTime (d.apply op).1 (mid ++ [last]) := by
        simp [allRedTime, eventOf, h.starts]
      rw [List.cons_append, hhere, ih hrest]
      simp [simTime]

/--
**All red separates conflicting greens while nothing disturbs the all-red timer.**

After every run of a new simulator, whatever happened in it: in every change from
a lit approach to the green of another in which a stall or a held step comes only
when all is red and the all-red time is over, the approaches are all red for at
least the all-red time.
-/
theorem allRed_separates_greens (minGreen maxGreen yellow allRed : Int) (run ops : List SimOp)
    (a b : LaneName)
    (hchange : ChangeOver (simAfter minGreen maxGreen yellow allRed run) ops a b)
    (hdt : ∀ op ∈ ops, 0 ≤ op.dt)
    (hund : ∀ e ∈ events DigitalIntersection.apply
      (simAfter minGreen maxGreen yellow allRed run) ops, Undisturbed e.pre e.input) :
    (allRed : Rat) ≤ allRedTime (simAfter minGreen maxGreen yellow allRed run) ops := by
  have hset := simAfter_laneSet minGreen maxGreen yellow allRed run
  have hconf := (simAfter_config minGreen maxGreen yellow allRed run).2
  generalize simAfter minGreen maxGreen yellow allRed run = d at hchange hund hset hconf ⊢
  obtain ⟨hlit, hbetween, hnext, hne⟩ := hchange
  cases ops with
  | nil =>
      -- one state cannot show both
      have hb : d.signalOf b ≠ .red := by
        rw [show d.signalOf b = .green from hnext]; decide
      exact absurd (Option.some.inj ((lit_cases hb).1.symm.trans (lit_cases hlit).1)) hne
  | cons op rest =>
      rcases List.eq_nil_or_concat rest with rfl | ⟨mid, last, rfl⟩
      · exact absurd (no_direct_change hlit hnext) hne
      · -- the states between are those before the last step
        have hdrop : (events DigitalIntersection.apply d (op :: (mid ++ [last]))).dropLast
            = eventOf DigitalIntersection.apply d op
              :: events DigitalIntersection.apply (d.apply op).1 mid := by
          rw [events_cons, events_append, List.dropLast_cons_of_ne_nil (by simp)]
          simp
        rw [List.concat_eq_append] at hbetween hdt hund hnext ⊢
        rw [hdrop] at hbetween
        have hset' := laneSet_step op hset
        -- the first step puts the lane out, and all is red until the last
        have hp' := allRed_of_put_out hlit (hbetween _ List.mem_cons_self).1
        have hspell := spell_of_no_green hset' hp'
          (fun e he => (hbetween e (List.mem_cons_of_mem _ he)).2) hnext
        have hrem := allRed_starts hset (hund _ List.mem_cons_self) hlit hspell.starts
        have hfirst : allRedTime d (op :: (mid ++ [last]))
            = allRedTime (d.apply op).1 (mid ++ [last]) := by
          -- while the lane is lit, not all is red
          have hnot : ¬AllRed d := fun hred => hlit (hred a)
          simp [allRedTime, eventOf, hnot]
        rw [hfirst, allRedTime_of_spell hspell, ← hconf, ← hrem]
        refine allRed_duration hset' hspell fun e he => ?_
        refine ⟨hund e (List.mem_cons_of_mem _ he), ?_⟩
        obtain ⟨before, op', after, hsplit, rfl⟩ := (mem_events_iff _).mp he
        refine hdt op' (List.mem_cons_of_mem _ ?_)
        rw [hsplit]
        exact List.mem_append_right _ List.mem_cons_self

instance (d : DigitalIntersection) (ops : List SimOp) (a b : LaneName) :
    Decidable (ChangeOver d ops a b) :=
  decidable_of_iff (d.signalOf a ≠ .red
      ∧ (∀ e ∈ (events DigitalIntersection.apply d ops).dropLast,
        e.post.signalOf a = .red ∧ ∀ c, e.post.signalOf c ≠ .green)
      ∧ (final DigitalIntersection.apply d ops).signalOf b = .green ∧ b ≠ a)
    ⟨fun ⟨h1, h2, h3, h4⟩ => ⟨h1, h2, h3, h4⟩, fun ⟨h1, h2, h3, h4⟩ => ⟨h1, h2, h3, h4⟩⟩

theorem allRed_separates_greens_north_east :
    (2 : Int) ≤ allRedTime
      (simAfter 10 60 3 2 [.step 1 (sampleDemand [.north, .east]), .step 12 []])
      [.step 3 [], .step 1 [], .step 1 []] :=
  allRed_separates_greens 10 60 3 2 _ _ .north .east (by decide +kernel) (by decide +kernel)
    (by decide +kernel)

/-- A stall puts north out; once it is over, the east turns green without any all-red time. -/
theorem stall_skips_allRed : ¬∀ (minGreen maxGreen yellow allRed : Int) (run ops : List SimOp) a b,
    ChangeOver (simAfter minGreen maxGreen yellow allRed run) ops a b → (∀ op ∈ ops, 0 ≤ op.dt) →
    (allRed : Rat) ≤ allRedTime (simAfter minGreen maxGreen yellow allRed run) ops := by
  intro h
  have hle := h 10 60 3 2 [.step 1 (sampleDemand [.north, .east])]
    [.aiStall true, .aiStall false, .step 0 []] .north .east (by decide +kernel) (by decide +kernel)
  exact absurd hle (by decide +kernel)

end SmartTraffic.Proof
