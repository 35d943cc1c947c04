import SmartTraffic.Lib.FirstGreatest

/-!
# Greedy matching

Bidders come one after the other. Each looks through the objects that are left, in
their order, keeps the first of those it scores highest, and takes it if the score is
positive and reaches a threshold.

Two things are proved of such a run. A stricter threshold never takes more: what it has
taken at any moment, the looser one has taken too, so that the looser run is ahead at
every bidder. And where bidders score only objects with their own key, the run of all
of them, seen through one key, is the run of that key's bidders over that key's objects.
-/

namespace SmartTraffic.Lib

variable {α P : Type}

/-! ## One bidder -/

/-- The scan replaces the best so far only by something strictly better. -/
def better (score : α → Rat) (best : Rat × Option α) (a : α) : Rat × Option α :=
  if best.1 < score a then (score a, some a) else best

/-- The best score and its first object; nothing is better than a score of zero. -/
def scan (score : α → Rat) (objs : List α) : Rat × Option α := objs.foldl (better score) (0, none)

/-- The object a bidder takes. -/
def choose (threshold : Rat) (score : α → Rat) (objs : List α) : Option α :=
  if threshold ≤ (scan score objs).1 then (scan score objs).2 else none

theorem scan_append (score : α → Rat) (objs : List α) (a : α) :
    scan score (objs ++ [a]) = better score (scan score objs) a := by
  unfold scan
  rw [List.foldl_append, List.foldl_cons, List.foldl_nil]

/-- What a scan has found: nothing with a positive score, or the first of the best. -/
theorem scan_spec (score : α → Rat) (objs : List α) :
    (scan score objs = (0, none) ∧ ∀ a ∈ objs, score a ≤ 0)
      ∨ ∃ before a after, FirstGreatest score objs before a after ∧ 0 < score a
        ∧ scan score objs = (score a, some a) := by
  induction objs using List.reverseRecOn with
  | nil => exact Or.inl ⟨rfl, by simp⟩
  | append_singleton objs b ih =>
      rw [scan_append]
      unfold better
      rcases ih with ⟨hscan, hall⟩ | ⟨before, a, after, hfirst, hpos, hscan⟩
      · rw [hscan]
        by_cases hb : 0 < score b
        · rw [if_pos hb]
          refine Or.inr ⟨objs, b, [], ⟨rfl, fun c hc => ?_, by simp⟩, hb, rfl⟩
          exact (hall c hc).trans_lt hb
        · rw [if_neg hb]
          refine Or.inl ⟨rfl, fun c hc => ?_⟩
          rcases List.mem_append.mp hc with hc | hc
          · exact hall c hc
          · rw [List.mem_singleton.mp hc]
            exact not_lt.mp hb
      · rw [hscan]
        by_cases hb : score a < score b
        · rw [if_pos hb]
          refine Or.inr ⟨objs, b, [], ⟨rfl, fun c hc => ?_, by simp⟩, hpos.trans hb, rfl⟩
          exact (hfirst.le c hc).trans_lt hb
        · rw [if_neg hb]
          refine Or.inr ⟨before, a, after ++ [b], ⟨?_, hfirst.before_lt, fun c hc => ?_⟩, hpos, rfl⟩
          · rw [hfirst.split]
            simp
          · rcases List.mem_append.mp hc with hc | hc
            · exact hfirst.after_le c hc
            · rw [List.mem_singleton.mp hc]
              exact not_lt.mp hb

/-- **What a bidder takes** is the first of the best, and good enough. -/
theorem choose_eq_some_iff {threshold : Rat} {score : α → Rat} {objs : List α} {a : α} :
    choose threshold score objs = some a
      ↔ 0 < score a ∧ threshold ≤ score a ∧ ∃ before after,
        FirstGreatest score objs before a after := by
  unfold choose
  rcases scan_spec score objs with ⟨hscan, hall⟩ | ⟨before, b, after, hfirst, hpos, hscan⟩
  · rw [hscan]
    refine iff_of_false (by simp) fun ⟨hpos, _, _, _, hfirst⟩ => ?_
    exact absurd hpos (not_lt.mpr (hall a hfirst.mem))
  · rw [hscan]
    dsimp only
    constructor
    · intro h
      split_ifs at h with hth
      obtain rfl := Option.some.inj h
      exact ⟨hpos, hth, before, after, hfirst⟩
    · rintro ⟨-, hth, before', after', hfirst'⟩
      have hlen : before.length = before'.length :=
        le_antisymm (hfirst.length_le hfirst'.getElem? (hfirst'.le b hfirst.mem))
          (hfirst'.length_le hfirst.getElem? (hfirst.le a hfirst'.mem))
      have hab := hfirst.getElem?
      rw [hlen, hfirst'.getElem?, Option.some.injEq] at hab
      subst hab
      rw [if_pos hth]

/-- Objects without a positive score may be left out. -/
theorem choose_filter (threshold : Rat) {score : α → Rat} {objs : List α} {keep : α → Bool}
    (h : ∀ a ∈ objs, keep a = false → score a ≤ 0) :
    choose threshold score (objs.filter keep) = choose threshold score objs := by
  have hscan : scan score (objs.filter keep) = scan score objs := by
    induction objs using List.reverseRecOn with
    | nil => rfl
    | append_singleton objs b ih =>
        have ih := ih fun a ha => h a (List.mem_append_left _ ha)
        rw [List.filter_append, scan_append]
        cases hb : keep b with
        | true => rw [List.filter_singleton, hb, cond_true, scan_append, ih]
        | false =>
            rw [List.filter_singleton, hb, cond_false, List.append_nil, ih]
            have hle : score b ≤ 0 := h b (by simp) hb
            have hnonneg : 0 ≤ (scan score objs).1 := by
              rcases scan_spec score objs with ⟨hs, -⟩ | ⟨_, a, _, -, hpos, hs⟩
              · rw [hs]
              · rw [hs]
                exact hpos.le
            exact (if_neg (not_lt.mpr (hle.trans hnonneg))).symm
  unfold choose
  rw [hscan]

theorem choose_congr (threshold : Rat) {score score' : α → Rat} {objs : List α}
    (h : ∀ a ∈ objs, score a = score' a) :
    choose threshold score objs = choose threshold score' objs := by
  have hscan : scan score objs = scan score' objs := by
    unfold scan
    refine List.foldl_ext _ _ _ fun best a ha => ?_
    unfold better
    rw [h a ha]
  unfold choose
  rw [hscan]

/-! ## A run of bidders -/

section

variable [DecidableEq α] (threshold : Rat) (score : P → α → Rat) (objs : List α)

/-- The objects that are left. -/
def leftOver (taken : List α) : List α := objs.filter fun a => decide (a ∉ taken)

/-- What a bidder takes when some objects are gone. -/
def turn (taken : List α) (p : P) : Option α :=
  choose threshold (score p) (leftOver objs taken)

/-- Each bidder with what it takes. -/
def greedy (taken : List α) : List P → List (P × Option α)
  | [] => []
  | p :: ps =>
      (p, turn threshold score objs taken p)
        :: greedy ((turn threshold score objs taken p).toList ++ taken) ps

/-- Whether each bidder takes anything. -/
def hits (taken : List α) (ps : List P) : List Bool :=
  (greedy threshold score objs taken ps).map (·.2.isSome)

end

variable [DecidableEq α] {threshold : Rat} {score : P → α → Rat} {objs taken : List α}

theorem mem_leftOver {a : α} : a ∈ leftOver objs taken ↔ a ∈ objs ∧ a ∉ taken := by
  unfold leftOver
  rw [List.mem_filter, decide_eq_true_eq]

theorem leftOver_concat_of_mem {a : α} (h : a ∈ taken) :
    leftOver (objs ++ [a]) taken = leftOver objs taken := by
  unfold leftOver
  simp [h]

theorem leftOver_concat_of_notMem {a : α} (h : a ∉ taken) :
    leftOver (objs ++ [a]) taken = leftOver objs taken ++ [a] := by
  unfold leftOver
  simp [h]

theorem hits_cons (p : P) (ps : List P) :
    hits threshold score objs taken (p :: ps) = (turn threshold score objs taken p).isSome
      :: hits threshold score objs ((turn threshold score objs taken p).toList ++ taken) ps := rfl

theorem greedy_map_fst (ps : List P) :
    (greedy threshold score objs taken ps).map Prod.fst = ps := by
  induction ps generalizing taken with
  | nil => rfl
  | cons p ps ih => rw [greedy, List.map_cons, ih]

theorem turn_eq_some {p : P} {a : α} (h : turn threshold score objs taken p = some a) :
    a ∈ objs ∧ a ∉ taken ∧ 0 < score p a ∧ threshold ≤ score p a := by
  obtain ⟨hpos, hth, before, after, hfirst⟩ := choose_eq_some_iff.mp h
  obtain ⟨hmem, hfree⟩ := mem_leftOver.mp hfirst.mem
  exact ⟨hmem, hfree, hpos, hth⟩

/-- Nothing is taken twice, and nothing but objects. -/
structure Fair (objs taken : List α) : Prop where
  nodup : taken.Nodup
  subset : taken ⊆ objs

theorem Fair.turn (h : Fair objs taken) (threshold : Rat) (score : P → α → Rat) (p : P) :
    Fair objs ((turn threshold score objs taken p).toList ++ taken) := by
  cases hturn : Lib.turn threshold score objs taken p with
  | none => exact h
  | some a =>
      obtain ⟨hmem, hfree, -⟩ := turn_eq_some hturn
      exact ⟨List.nodup_cons.mpr ⟨hfree, h.nodup⟩, List.cons_subset.mpr ⟨hmem, h.subset⟩⟩

/-! ## A stricter threshold -/

/-- One run of hits is never behind another, `c` and `d` being their numbers so far. -/
def Ahead : Nat → Nat → List Bool → List Bool → Prop
  | c, d, [], [] => d ≤ c
  | c, d, b :: bs, b' :: bs' => d ≤ c ∧ Ahead (c + b.toNat) (d + b'.toNat) bs bs'
  | _, _, _, _ => False

theorem Ahead.le {c d : Nat} {bs bs' : List Bool} (h : Ahead c d bs bs') : d ≤ c := by
  cases bs with
  | nil =>
      cases bs' with
      | nil => exact h
      | cons b' bs' => exact absurd h id
  | cons b bs =>
      cases bs' with
      | nil => exact absurd h id
      | cons b' bs' => exact h.1

/-- **One turn.** What the stricter run has taken, the looser one has taken too. -/
theorem turn_subset {strict : Rat} (hle : threshold ≤ strict) {fewer : List α}
    (hsub : fewer ⊆ taken) (p : P) :
    (turn strict score objs fewer p).toList ++ fewer
      ⊆ (turn threshold score objs taken p).toList ++ taken := by
  cases hstrict : turn strict score objs fewer p with
  | none => exact fun a ha => List.mem_append_right _ (hsub ha)
  | some a =>
      refine List.cons_subset.mpr ⟨?_, fun b hb => List.mem_append_right _ (hsub hb)⟩
      by_cases ha : a ∈ taken
      · exact List.mem_append_right _ ha
      · -- the object is left in both runs, and first of the best in both
        obtain ⟨hpos, hth, before, after, hfirst⟩ := choose_eq_some_iff.mp hstrict
        have hfilter : leftOver objs taken
            = (leftOver objs fewer).filter fun x => decide (x ∉ taken) := by
          unfold leftOver
          rw [List.filter_filter]
          refine List.filter_congr fun x _ => ?_
          rw [← Bool.decide_and, decide_eq_decide]
          exact ⟨fun hx => ⟨hx, fun hf => hx (hsub hf)⟩, And.left⟩
        have hloose : turn threshold score objs taken p = some a := by
          refine choose_eq_some_iff.mpr ⟨hpos, hle.trans hth,
            before.filter fun x => decide (x ∉ taken), after.filter fun x => decide (x ∉ taken), ?_⟩
          refine ⟨?_, fun b hb => hfirst.before_lt b (List.mem_filter.mp hb).1,
            fun b hb => hfirst.after_le b (List.mem_filter.mp hb).1⟩
          rw [hfilter, hfirst.split, List.filter_append,
            List.filter_cons_of_pos (by simpa using ha)]
        rw [hloose]
        exact List.mem_cons_self

omit [DecidableEq α] in
theorem length_toList_append (o : Option α) (l : List α) :
    (o.toList ++ l).length = l.length + o.isSome.toNat := by
  cases o <;> simp

/-- **The looser run is ahead at every bidder.** -/
theorem hits_ahead {strict : Rat} (hle : threshold ≤ strict) {fewer : List α}
    (hsub : fewer ⊆ taken) (htaken : Fair objs taken) (hfewer : Fair objs fewer) (ps : List P) :
    Ahead taken.length fewer.length (hits threshold score objs taken ps)
      (hits strict score objs fewer ps) := by
  induction ps generalizing taken fewer with
  | nil => exact (hfewer.nodup.subperm hsub).length_le
  | cons p ps ih =>
      have hturn : (turn strict score objs fewer p).toList ++ fewer
          ⊆ (turn threshold score objs taken p).toList ++ taken := turn_subset hle hsub p
      have hnext := ih hturn (htaken.turn _ _ p) (hfewer.turn _ _ p)
      rw [length_toList_append, length_toList_append] at hnext
      exact ⟨(hfewer.nodup.subperm hsub).length_le, hnext⟩

/-- No more bidders take something than there are objects left. -/
theorem count_hits_le (h : Fair objs taken) (ps : List P) :
    taken.length + (hits threshold score objs taken ps).count true ≤ objs.length := by
  induction ps generalizing taken with
  | nil => exact (h.nodup.subperm h.subset).length_le
  | cons p ps ih =>
      have hnext := ih (h.turn threshold score p)
      rw [length_toList_append] at hnext
      have hcount : ∀ (b : Bool) (bs : List Bool),
          (b :: bs).count true = b.toNat + bs.count true := by
        intro b bs
        cases b <;> simp [Nat.add_comm]
      rw [hits_cons, hcount]
      omega

/-! ## Keys -/

section Keys

variable {K : Type} [DecidableEq K] (keyP : P → K) (keyO : α → K)

/-- Bidders score only objects with their own key. -/
def OwnKey (score : P → α → Rat) (objs : List α) (ps : List P) : Prop :=
  ∀ p ∈ ps, ∀ a ∈ objs, keyO a ≠ keyP p → score p a ≤ 0

/-- Of the objects with its own key, a bidder takes what it takes of all. -/
theorem turn_filter_key {p : P} {k : K} (hk : keyP p = k)
    (h : ∀ a ∈ objs, keyO a ≠ keyP p → score p a ≤ 0) {taken' : List α}
    (hsame : ∀ a ∈ objs, keyO a = k → (a ∈ taken ↔ a ∈ taken')) :
    turn threshold score (objs.filter fun a => decide (keyO a = k)) taken' p
      = turn threshold score objs taken p := by
  have hcomm : leftOver (objs.filter fun a => decide (keyO a = k)) taken'
      = (leftOver objs taken).filter fun a => decide (keyO a = k) := by
    unfold leftOver
    rw [List.filter_filter, List.filter_filter]
    refine List.filter_congr fun a ha => ?_
    by_cases hka : keyO a = k
    · simp only [hka, decide_true, Bool.and_true, Bool.true_and, hsame a ha hka]
    · simp only [hka, decide_false, Bool.and_false, Bool.false_and]
  unfold turn
  rw [hcomm]
  refine choose_filter threshold fun a ha hka => ?_
  refine h a (mem_leftOver.mp ha).1 ?_
  rw [hk]
  exact of_decide_eq_false hka

/--
**A run seen through one key** is the run of that key's bidders over that key's objects, if
bidders score only objects with their own key.
-/
theorem greedy_filter_key {ps : List P} (h : OwnKey keyP keyO score objs ps) (k : K)
    {taken' : List α} (hsame : ∀ a ∈ objs, keyO a = k → (a ∈ taken ↔ a ∈ taken')) :
    (greedy threshold score objs taken ps).filter (fun d => decide (keyP d.1 = k))
      = greedy threshold score (objs.filter fun a => decide (keyO a = k)) taken'
        (ps.filter fun p => decide (keyP p = k)) := by
  induction ps generalizing taken taken' with
  | nil => rfl
  | cons p ps ih =>
      have hp := h p List.mem_cons_self
      have hps : OwnKey keyP keyO score objs ps := fun q hq => h q (List.mem_cons_of_mem _ hq)
      rw [greedy]
      by_cases hk : keyP p = k
      · rw [List.filter_cons_of_pos (by simpa using hk),
          List.filter_cons_of_pos (by simpa using hk), greedy,
          turn_filter_key keyP keyO hk hp hsame]
        refine congrArg _ (ih hps fun a ha hka => ?_)
        rw [List.mem_append, List.mem_append, hsame a ha hka]
      · rw [List.filter_cons_of_neg (by simpa using hk),
          List.filter_cons_of_neg (by simpa using hk)]
        refine ih hps fun a ha hka => ?_
        rw [List.mem_append, hsame a ha hka]
        refine or_iff_right fun hmem => ?_
        -- what another bidder takes has another key
        obtain ⟨-, -, hpos, -⟩ := turn_eq_some (Option.mem_toList.mp hmem)
        have hle := hp a ha fun heq => hk (heq.symm.trans hka)
        linarith

end Keys

/-- A run depends on the scores of its own bidders for its own objects. -/
theorem greedy_congr {score' : P → α → Rat} {ps : List P}
    (h : ∀ p ∈ ps, ∀ a ∈ objs, score p a = score' p a) :
    greedy threshold score objs taken ps = greedy threshold score' objs taken ps := by
  induction ps generalizing taken with
  | nil => rfl
  | cons p ps ih =>
      have hturn : turn threshold score objs taken p = turn threshold score' objs taken p :=
        choose_congr threshold fun a ha => h p List.mem_cons_self a (mem_leftOver.mp ha).1
      rw [greedy, greedy, hturn, ih fun q hq => h q (List.mem_cons_of_mem _ hq)]

end SmartTraffic.Lib
