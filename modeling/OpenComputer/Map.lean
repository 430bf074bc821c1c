import Mathlib.Data.List.Nodup

/-!
# `std::collections::HashMap`, as the service uses it

The session table and every environment of the service are `HashMap`s. The handlers use
`insert`, `remove`, `get`, `get_mut`, `extend`, `values` and `iter`. Here a map is its list of
entries with no key twice; the order of the entries stands for the map's unspecified
iteration order, so that a statement about an iteration is made for every order.

* `get_insert`, `get_remove`, `get_modify`: the three ways the map changes, read back by `get`;
* `mem_entries_iff`: an entry is in the list exactly when `get` finds it.
-/

namespace OpenComputer

/-- A `HashMap`: its entries, no key twice. -/
structure HashMap (κ ν : Type) where
  entries : List (κ × ν)
  nodup : (entries.map Prod.fst).Nodup
deriving DecidableEq

namespace HashMap

variable {κ ν : Type} [DecidableEq κ]

/-! ### The operations -/

/-- `HashMap::new()`. -/
def empty : HashMap κ ν := ⟨[], List.nodup_nil⟩

/-- `map.get(&k)`. -/
def get (m : HashMap κ ν) (k : κ) : Option ν := m.entries.lookup k

/-- The keys, in iteration order. -/
def keys (m : HashMap κ ν) : List κ := m.entries.map Prod.fst

/-- `map.values()`. -/
def values (m : HashMap κ ν) : List ν := m.entries.map Prod.snd

lemma nodup_filter_ne (m : HashMap κ ν) (k : κ) :
    ((m.entries.filter fun e => e.1 ≠ k).map Prod.fst).Nodup :=
  m.nodup.sublist ((List.filter_sublist _).map _)

/-- `map.insert(k, v)`: a value already under `k` is replaced. -/
def insert (m : HashMap κ ν) (k : κ) (v : ν) : HashMap κ ν :=
  ⟨(k, v) :: m.entries.filter (fun e => e.1 ≠ k),
    List.nodup_cons.2 ⟨by simp, m.nodup_filter_ne k⟩⟩

/-- `map.remove(&k)`: the value that was under `k`, and the map without it. -/
def remove (m : HashMap κ ν) (k : κ) : Option ν × HashMap κ ν :=
  match m.get k with
  | none => (none, m)
  | some v => (some v, ⟨m.entries.filter (fun e => e.1 ≠ k), m.nodup_filter_ne k⟩)

/-- The map after the value under `k` is changed in place by `f`. -/
def modify (m : HashMap κ ν) (k : κ) (f : ν → ν) : HashMap κ ν :=
  ⟨m.entries.map (fun e => if e.1 = k then (e.1, f e.2) else e), by
    have : (m.entries.map (fun e => if e.1 = k then (e.1, f e.2) else e)).map Prod.fst =
        m.entries.map Prod.fst := by
      simp only [List.map_map]
      exact List.map_congr_left fun e _ => by by_cases h : e.1 = k <;> simp [h]
    exact this ▸ m.nodup⟩

/-- `map.get_mut(&k)` followed by the mutation `f` of the value it finds: the value as it was,
and the map after the mutation. -/
def getMut (m : HashMap κ ν) (k : κ) (f : ν → ν) : Option (ν × HashMap κ ν) :=
  (m.get k).map fun v => (v, m.modify k f)

/-- `map.extend(other)`: every entry of `other` is inserted. -/
def extend (m other : HashMap κ ν) : HashMap κ ν :=
  other.entries.foldl (fun acc e => acc.insert e.1 e.2) m

/-! ### Reading the map back -/

lemma lookup_cons_ite (a k : κ) (b : ν) (l : List (κ × ν)) :
    ((a, b) :: l).lookup k = if k = a then some b else l.lookup k := by
  by_cases h : k = a
  · subst h; simp
  · have : (k == a) = false := by simpa using h
    simp [List.lookup_cons, h, this]

lemma lookup_filter_ne (l : List (κ × ν)) (k k' : κ) :
    (l.filter fun e => e.1 ≠ k).lookup k' = if k' = k then none else l.lookup k' := by
  induction l with
  | nil => simp
  | cons e l ih =>
    obtain ⟨a, b⟩ := e
    by_cases hak : a = k
    · subst hak
      simp only [List.filter_cons, ne_eq, not_true_eq_false, decide_False, ih, lookup_cons_ite]
      split <;> simp_all
    · simp only [List.filter_cons, ne_eq, hak, not_false_eq_true, decide_True, ih,
        lookup_cons_ite, if_true]
      by_cases h : k' = a <;> by_cases h' : k' = k <;> simp_all

lemma lookup_map_modify (l : List (κ × ν)) (k k' : κ) (f : ν → ν) :
    (l.map fun e => if e.1 = k then (e.1, f e.2) else e).lookup k' =
      if k' = k then (l.lookup k).map f else l.lookup k' := by
  induction l with
  | nil => simp
  | cons e l ih =>
    obtain ⟨a, b⟩ := e
    by_cases hak : a = k
    · subst hak
      simp only [List.map_cons, if_true, lookup_cons_ite, ih]
      split <;> simp_all
    · simp only [List.map_cons, hak, if_false, lookup_cons_ite, ih]
      by_cases h : k' = a <;> by_cases h' : k' = k <;> simp_all

variable (m : HashMap κ ν) (k k' : κ)

@[simp] lemma get_empty : (empty : HashMap κ ν).get k = none := rfl

@[simp] lemma get_insert (v : ν) :
    (m.insert k v).get k' = if k' = k then some v else m.get k' := by
  simp only [get, insert, lookup_cons_ite, lookup_filter_ne]
  split <;> rfl

@[simp] lemma remove_fst : (m.remove k).1 = m.get k := by
  unfold remove; split <;> simp_all

@[simp] lemma get_remove : (m.remove k).2.get k' = if k' = k then none else m.get k' := by
  unfold remove
  split
  · rename_i h; split <;> simp_all
  · simp only [get, lookup_filter_ne]

@[simp] lemma get_modify (f : ν → ν) :
    (m.modify k f).get k' = if k' = k then (m.get k).map f else m.get k' :=
  lookup_map_modify _ _ _ _

lemma get_modify_of_get {f : ν → ν} {v : ν} (h : m.get k = some v) :
    (m.modify k f).get k' = if k' = k then some (f v) else m.get k' := by
  rw [get_modify, h, Option.map_some']

/-- `remove` returns what `get` finds, and the rest of the map. -/
lemma remove_eq : m.remove k = (m.get k, (m.remove k).2) := Prod.ext (remove_fst m k) rfl

lemma getMut_eq (f : ν → ν) : m.getMut k f = (m.get k).map fun v => (v, m.modify k f) := rfl

lemma getMut_eq_some {f : ν → ν} {v : ν} {m' : HashMap κ ν} :
    m.getMut k f = some (v, m') ↔ m.get k = some v ∧ m' = m.modify k f := by
  simp only [getMut, Option.map_eq_some', Prod.mk.injEq]
  constructor
  · rintro ⟨v, h, rfl, rfl⟩; exact ⟨h, rfl⟩
  · rintro ⟨h, rfl⟩; exact ⟨v, h, rfl, rfl⟩

/-- An entry is in the list exactly when `get` finds it: the keys are distinct. -/
lemma mem_entries_iff {v : ν} : (k, v) ∈ m.entries ↔ m.get k = some v := by
  obtain ⟨l, hl⟩ := m
  simp only [get]
  induction l with
  | nil => simp
  | cons e l ih =>
    obtain ⟨a, b⟩ := e
    simp only [List.map_cons, List.nodup_cons, List.mem_map] at hl
    simp only [List.mem_cons, Prod.mk.injEq, lookup_cons_ite]
    by_cases h : k = a
    · subst h
      have : ∀ v, (k, v) ∉ l := fun v hv => hl.1 ⟨(k, v), hv, rfl⟩
      simp [this, eq_comm]
    · simpa [h] using ih hl.2

lemma remove_entries : (m.remove k).2.entries = m.entries.filter fun e => e.1 ≠ k := by
  unfold remove
  split
  · rename_i h
    refine (List.filter_eq_self.2 fun e he => ?_).symm
    have : m.get e.1 = some e.2 := (mem_entries_iff _ _).1 he
    simp only [ne_eq, decide_eq_true_eq]
    rintro rfl
    simp_all
  · rfl

/-! ### `extend` -/

lemma lookup_eq_none_of_not_mem {l : List (κ × ν)} {a : κ} (h : a ∉ l.map Prod.fst) :
    l.lookup a = none :=
  List.lookup_eq_none_iff.2 fun _ hp => bne_iff_ne.2 fun e => h (e ▸ List.mem_map_of_mem _ hp)

lemma get_foldl_insert (l : List (κ × ν)) (hl : (l.map Prod.fst).Nodup) :
    (l.foldl (fun acc e => acc.insert e.1 e.2) m).get k = (l.lookup k).or (m.get k) := by
  induction l generalizing m with
  | nil => rfl
  | cons e l ih =>
    obtain ⟨a, b⟩ := e
    rw [List.map_cons, List.nodup_cons] at hl
    rw [List.foldl_cons, ih _ hl.2, get_insert, lookup_cons_ite]
    by_cases hk : k = a
    · subst hk
      rw [if_pos rfl, if_pos rfl, lookup_eq_none_of_not_mem hl.1]
      rfl
    · rw [if_neg hk, if_neg hk]

/-- **`extend` is the union in which the new map wins**: the keys of `other` are distinct, so each
of its entries is inserted once, over what `m` had. -/
lemma get_extend (other : HashMap κ ν) : (m.extend other).get k = (other.get k).or (m.get k) :=
  get_foldl_insert m k other.entries other.nodup

end HashMap

end OpenComputer
