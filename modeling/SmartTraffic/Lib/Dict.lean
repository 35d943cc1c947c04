import Mathlib

/-!
# Dictionaries in insertion order

A dictionary keeps its items in the order in which their keys were first
written: writing a key that is present replaces its value in place, writing a
new one appends it. The items never hold a key twice, which the type carries.

`lookup_eq_some_of_mem` and `mem_of_lookup` serve plain association lists, the
form in which a dictionary's items are handed around.
-/

namespace SmartTraffic.Lib

section

variable {K V : Type} [DecidableEq K]

theorem mem_of_lookup {l : List (K × V)} {k : K} {v : V} (h : l.lookup k = some v) :
    (k, v) ∈ l := by
  obtain ⟨l₁, l₂, rfl, -⟩ := List.lookup_eq_some_iff.mp h
  exact List.mem_append_right _ List.mem_cons_self

theorem lookup_eq_some_of_mem {l : List (K × V)} (hnd : (l.map Prod.fst).Nodup) {k : K} {v : V}
    (h : (k, v) ∈ l) : l.lookup k = some v := by
  obtain ⟨l₁, l₂, rfl⟩ := List.mem_iff_append.mp h
  refine List.lookup_eq_some_iff.mpr ⟨l₁, l₂, rfl, fun p hp => ?_⟩
  -- an earlier item with the same key would repeat it
  rw [List.map_append, List.map_cons, List.nodup_append] at hnd
  have hne := hnd.2.2 p.1 (List.mem_map_of_mem hp) k List.mem_cons_self
  exact bne_iff_ne.mpr fun heq => hne heq.symm

/-- A lookup in the same items with other values. -/
theorem lookup_mapValues {W : Type} (l : List (K × V)) (f : K → V → W) (k : K) :
    (l.map fun (k, v) => (k, f k v)).lookup k = (l.lookup k).map (f k) := by
  induction l with
  | nil => rfl
  | cons item rest ih =>
      obtain ⟨k₀, v₀⟩ := item
      rw [List.map_cons, List.lookup_cons, List.lookup_cons, ih]
      by_cases h : k = k₀
      · subst h; simp
      · rw [beq_false_of_ne h]

/-- A total table after `table.update(items)`. -/
def updateAll (f : K → V) (items : List (K × V)) : K → V :=
  items.foldl (fun f item => Function.update f item.1 item.2) f

/-- An entry after an update is the old one or one of the items. -/
theorem updateAll_eq_or_mem (f : K → V) (items : List (K × V)) (k : K) :
    updateAll f items k = f k ∨ (k, updateAll f items k) ∈ items := by
  induction items generalizing f with
  | nil => exact Or.inl rfl
  | cons item rest ih =>
      show updateAll (Function.update f item.1 item.2) rest k = f k
        ∨ (k, updateAll (Function.update f item.1 item.2) rest k) ∈ item :: rest
      rcases ih (Function.update f item.1 item.2) with h | h
      · by_cases hk : k = item.1
        · subst hk
          rw [Function.update_self] at h
          rw [h]
          exact Or.inr List.mem_cons_self
        · rw [Function.update_of_ne hk] at h
          exact Or.inl h
      · exact Or.inr (List.mem_cons_of_mem _ h)

/-- An update by items with different keys writes the value of the key's item, if there is one. -/
theorem updateAll_eq_lookup (f : K → V) {items : List (K × V)} (hnd : (items.map Prod.fst).Nodup)
    (k : K) : updateAll f items k = (items.lookup k).getD (f k) := by
  induction items generalizing f with
  | nil => rfl
  | cons item rest ih =>
      obtain ⟨hnew, hrest⟩ := List.nodup_cons.mp hnd
      show updateAll (Function.update f item.1 item.2) rest k = _
      rw [ih _ hrest, List.lookup_cons]
      by_cases hk : k = item.1
      · subst hk
        -- no later item has the key
        have hnone : rest.lookup item.1 = none :=
          List.lookup_eq_none_iff.mpr fun p hp => by
            simpa using fun heq : item.1 = p.1 => hnew (heq ▸ List.mem_map_of_mem hp)
        rw [hnone, beq_self_eq_true, Option.getD_none, Function.update_self]
        rfl
      · rw [beq_false_of_ne hk, Function.update_of_ne hk]

end

/-- A dictionary: its items in insertion order, each key once. -/
structure Dict (K V : Type) where
  items : List (K × V)
  nodup : (items.map Prod.fst).Nodup

namespace Dict

variable {K V : Type}

/-- The empty dictionary. -/
def empty : Dict K V := { items := [], nodup := List.nodup_nil }

instance : EmptyCollection (Dict K V) := ⟨empty⟩

/-- The keys in order. -/
def keys (d : Dict K V) : List K := d.items.map Prod.fst

/-- The values in order. -/
def values (d : Dict K V) : List V := d.items.map Prod.snd

/-- `len(d)`. -/
def size (d : Dict K V) : Nat := d.items.length

/-- The items that pass a test. -/
def filter (d : Dict K V) (p : K × V → Bool) : Dict K V where
  items := d.items.filter p
  nodup := d.nodup.sublist (List.filter_sublist.map _)

/-- The same keys with other values. -/
def mapValues {W : Type} (d : Dict K V) (f : K → V → W) : Dict K W where
  items := d.items.map fun (k, v) => (k, f k v)
  nodup := by rw [List.map_map]; exact d.nodup

variable [DecidableEq K]

/-- `d.get(k)`. -/
def get? (d : Dict K V) (k : K) : Option V := d.items.lookup k

/-- `k in d`. -/
def contains (d : Dict K V) (k : K) : Bool := (d.get? k).isSome

/-- `d.pop(k, None)`, for its effect. -/
def erase (d : Dict K V) (k : K) : Dict K V := d.filter fun item => item.1 ≠ k

/-- The items after `d[k] = v`. -/
def setItems (k : K) (v : V) : List (K × V) → List (K × V)
  | [] => [(k, v)]
  | item :: rest => if item.1 = k then (k, v) :: rest else item :: setItems k v rest

theorem mem_keys_setItems {k : K} {v : V} {l : List (K × V)} {x : K} :
    x ∈ (setItems k v l).map Prod.fst ↔ x = k ∨ x ∈ l.map Prod.fst := by
  induction l with
  | nil => simp [setItems]
  | cons item rest ih =>
      unfold setItems
      by_cases h : item.1 = k
      · rw [if_pos h]; simp [← h]
      · rw [if_neg h, List.map_cons, List.mem_cons, ih, List.map_cons, List.mem_cons]
        constructor
        · rintro (h1 | h1 | h1)
          · exact Or.inr (Or.inl h1)
          · exact Or.inl h1
          · exact Or.inr (Or.inr h1)
        · rintro (h1 | h1 | h1)
          · exact Or.inr (Or.inl h1)
          · exact Or.inl h1
          · exact Or.inr (Or.inr h1)

theorem nodup_setItems {k : K} {v : V} {l : List (K × V)} (h : (l.map Prod.fst).Nodup) :
    ((setItems k v l).map Prod.fst).Nodup := by
  induction l with
  | nil => exact List.nodup_singleton k
  | cons item rest ih =>
      obtain ⟨hnew, hrest⟩ := List.nodup_cons.mp h
      unfold setItems
      by_cases hk : item.1 = k
      · rw [if_pos hk]; exact List.nodup_cons.mpr ⟨hk ▸ hnew, hrest⟩
      · rw [if_neg hk]
        refine List.nodup_cons.mpr ⟨fun hmem => ?_, ih hrest⟩
        rcases mem_keys_setItems.mp hmem with he | he
        · exact hk he
        · exact hnew he

/-- `d[k] = v`. -/
def set (d : Dict K V) (k : K) (v : V) : Dict K V where
  items := setItems k v d.items
  nodup := nodup_setItems d.nodup

/-! ## Reading back -/

theorem mem_items_iff (d : Dict K V) {k : K} {v : V} : (k, v) ∈ d.items ↔ d.get? k = some v :=
  ⟨lookup_eq_some_of_mem d.nodup, mem_of_lookup⟩

theorem contains_iff (d : Dict K V) {k : K} : d.contains k ↔ k ∈ d.keys := by
  constructor
  · intro h
    obtain ⟨v, hv⟩ := Option.isSome_iff_exists.mp h
    exact List.mem_map.mpr ⟨(k, v), d.mem_items_iff.mpr hv, rfl⟩
  · intro h
    obtain ⟨item, hitem, rfl⟩ := List.mem_map.mp h
    exact Option.isSome_iff_exists.mpr ⟨item.2, d.mem_items_iff.mp hitem⟩

theorem notMem_keys_of_get? (d : Dict K V) {k : K} (h : d.get? k = none) : k ∉ d.keys := by
  rw [← d.contains_iff, contains, h]
  simp

@[simp] theorem get?_set_self (d : Dict K V) (k : K) (v : V) : (d.set k v).get? k = some v := by
  refine (mem_items_iff _).mp ?_
  show (k, v) ∈ setItems k v d.items
  induction d.items with
  | nil => exact List.mem_cons_self
  | cons item rest ih =>
      unfold setItems
      by_cases h : item.1 = k
      · rw [if_pos h]; exact List.mem_cons_self
      · rw [if_neg h]; exact List.mem_cons_of_mem _ ih

theorem get?_set_of_ne (d : Dict K V) {k k' : K} (v : V) (h : k' ≠ k) :
    (d.set k v).get? k' = d.get? k' := by
  show (setItems k v d.items).lookup k' = d.items.lookup k'
  induction d.items with
  | nil =>
      show [(k, v)].lookup k' = none
      rw [List.lookup_cons, beq_false_of_ne h, List.lookup_nil]
  | cons item rest ih =>
      obtain ⟨k₀, v₀⟩ := item
      unfold setItems
      by_cases hk : k₀ = k
      · subst hk
        rw [if_pos rfl, List.lookup_cons, List.lookup_cons, beq_false_of_ne h]
      · rw [if_neg hk, List.lookup_cons, List.lookup_cons, ih]

theorem get?_set (d : Dict K V) (k k' : K) (v : V) :
    (d.set k v).get? k' = if k' = k then some v else d.get? k' := by
  split_ifs with h
  · rw [h, get?_set_self]
  · exact get?_set_of_ne d v h

theorem length_setItems {k : K} {v : V} {l : List (K × V)} :
    (setItems k v l).length = l.length + if (l.lookup k).isSome then 0 else 1 := by
  induction l with
  | nil => rfl
  | cons item rest ih =>
      unfold setItems
      by_cases hk : item.1 = k
      · rw [if_pos hk, List.lookup_cons, ← hk, beq_self_eq_true]
        rfl
      · rw [if_neg hk, List.lookup_cons, beq_false_of_ne (Ne.symm hk), List.length_cons, ih,
          List.length_cons]
        dsimp only
        omega

/-- Only a new key makes a dictionary longer. -/
theorem size_set (d : Dict K V) (k : K) (v : V) :
    (d.set k v).size = d.size + if d.contains k then 0 else 1 := length_setItems

theorem get?_filter_eq_some (d : Dict K V) {p : K × V → Bool} {k : K} {v : V} :
    (d.filter p).get? k = some v ↔ d.get? k = some v ∧ p (k, v) = true := by
  rw [← mem_items_iff, ← mem_items_iff]
  exact List.mem_filter

theorem get?_filter (d : Dict K V) (p : K × V → Bool) (k : K) :
    (d.filter p).get? k = (d.get? k).filter fun v => p (k, v) := by
  ext v
  rw [get?_filter_eq_some, Option.filter_eq_some_iff]

/-- What is left after an erasure was there before. -/
theorem get?_of_get?_erase (d : Dict K V) {k k' : K} {v : V} (h : (d.erase k).get? k' = some v) :
    k' ≠ k ∧ d.get? k' = some v := by
  have := (get?_filter_eq_some d).mp h
  exact ⟨by simpa using this.2, this.1⟩

theorem get?_erase_self (d : Dict K V) (k : K) : (d.erase k).get? k = none := by
  by_contra hsome
  obtain ⟨v, hv⟩ := Option.ne_none_iff_exists'.mp hsome
  exact (get?_of_get?_erase d hv).1 rfl

theorem get?_erase_of_ne (d : Dict K V) {k k' : K} (h : k' ≠ k) :
    (d.erase k).get? k' = d.get? k' := by
  have herase : (d.erase k).get? k' = (d.get? k').filter fun _ => k' ≠ k := get?_filter d _ k'
  rw [herase]
  cases d.get? k' <;> simp [h]

/-- Every entry of `d'` is an entry of `d`. -/
def Shrinks (d d' : Dict K V) : Prop := ∀ k v, d'.get? k = some v → d.get? k = some v

theorem shrinks_refl (d : Dict K V) : Shrinks d d := fun _ _ h => h

theorem Shrinks.trans {d d' d'' : Dict K V} (h : Shrinks d d') (h' : Shrinks d' d'') :
    Shrinks d d'' := fun k v hv => h k v (h' k v hv)

theorem shrinks_erase (d : Dict K V) (k : K) : Shrinks d (d.erase k) :=
  fun _ _ h => (get?_of_get?_erase d h).2

theorem shrinks_empty (d : Dict K V) : Shrinks d ∅ := fun _ _ h => nomatch h

/-- A value is listed exactly when some key holds it. -/
theorem mem_values_iff (d : Dict K V) {v : V} : v ∈ d.values ↔ ∃ k, d.get? k = some v := by
  constructor
  · intro h
    obtain ⟨item, hitem, rfl⟩ := List.mem_map.mp h
    exact ⟨item.1, (mem_items_iff d).mp hitem⟩
  · rintro ⟨k, h⟩
    exact List.mem_map.mpr ⟨(k, v), (mem_items_iff d).mpr h, rfl⟩

@[simp] theorem get?_mapValues {W : Type} (d : Dict K V) (f : K → V → W) (k : K) :
    (d.mapValues f).get? k = (d.get? k).map (f k) := lookup_mapValues d.items f k

/-! ## Other values for the same keys -/

omit [DecidableEq K] in
/-- A dictionary is its items. -/
theorem eq_of_items {d d' : Dict K V} (h : d.items = d'.items) : d = d' := by
  cases d; cases d'; congr

/-- Writing the value that is there changes nothing. -/
theorem set_of_get? {d : Dict K V} {k : K} {v : V} (h : d.get? k = some v) : d.set k v = d := by
  have hitems : ∀ l : List (K × V), l.lookup k = some v → setItems k v l = l := by
    intro l hl
    induction l with
    | nil => cases hl
    | cons item rest ih =>
        obtain ⟨k₀, v₀⟩ := item
        rw [List.lookup_cons] at hl
        unfold setItems
        by_cases hk : k₀ = k
        · subst hk
          rw [beq_self_eq_true] at hl
          obtain rfl := Option.some.inj hl
          rw [if_pos rfl]
        · rw [beq_false_of_ne (Ne.symm hk)] at hl
          rw [if_neg hk, ih hl]
  exact eq_of_items (hitems d.items h)

theorem mapValues_set {W : Type} (d : Dict K V) (f : K → V → W) (k : K) (v : V) :
    (d.set k v).mapValues f = (d.mapValues f).set k (f k v) := by
  have hitems : ∀ l : List (K × V), (setItems k v l).map (fun (k, v) => (k, f k v))
      = setItems k (f k v) (l.map fun (k, v) => (k, f k v)) := by
    intro l
    induction l with
    | nil => rfl
    | cons item rest ih =>
        obtain ⟨k₀, v₀⟩ := item
        simp only [setItems, List.map_cons]
        split_ifs
        · rfl
        · rw [List.map_cons, ih]
  exact eq_of_items (hitems d.items)

omit [DecidableEq K] in
theorem mapValues_filter {W : Type} (d : Dict K V) (f : K → V → W) {p : K × W → Bool}
    {q : K × V → Bool} (h : ∀ k v, p (k, f k v) = q (k, v)) :
    (d.mapValues f).filter p = (d.filter q).mapValues f := by
  have hitems : (d.items.map fun (k, v) => (k, f k v)).filter p
      = (d.items.filter q).map fun (k, v) => (k, f k v) := by
    rw [List.filter_map]
    congr 1
    exact List.filter_congr fun item _ => h item.1 item.2
  unfold mapValues filter
  congr 1

omit [DecidableEq K] in
theorem mapValues_mapValues {W X : Type} (d : Dict K V) (f : K → V → W) (g : K → W → X) :
    (d.mapValues f).mapValues g = d.mapValues fun k v => g k (f k v) := by
  unfold mapValues
  congr 1
  rw [List.map_map]
  rfl

end Dict

end SmartTraffic.Lib
