/-!
Maps with sorted keys.

A key map is a list of key-value pairs whose keys strictly increase, so each key occurs at
most once; the map carries that order with it. It is the right shape for tables that are shown
in key order: placeholder values, environment variables and thresholds.

* **`sorted_listInsert`**: setting a key in pairs sorted by key keeps them sorted, so
  `insert` builds a key map again.
* **`get?_insert_self`**: after inserting a key, looking it up gives the new value.
-/

namespace LaunchBench

/-- A map from texts to values: its pairs, sorted by key, each key at most once. -/
structure KeyMap (α : Type) where
  /-- The pairs, in key order. -/
  toList : List (String × α)
  /-- The keys strictly increase. -/
  sorted : toList.Pairwise fun a b => a.1 < b.1
  deriving DecidableEq, Repr

namespace KeyMap

variable {α : Type}

/-- Sets the value of a key in pairs sorted by key, replacing an earlier one. -/
def listInsert (l : List (String × α)) (k : String) (v : α) : List (String × α) :=
  match l with
  | [] => [(k, v)]
  | (k', v') :: rest =>
    if k = k' then (k, v) :: rest
    else if k < k' then (k, v) :: (k', v') :: rest
    else (k', v') :: listInsert rest k v

/-- The value of a key among pairs: that of the first pair with the key. -/
def listGet? (l : List (String × α)) (k : String) : Option α :=
  match l with
  | [] => none
  | (k', v) :: rest => if k = k' then some v else listGet? rest k

theorem mem_listInsert {l : List (String × α)} {k : String} {v : α} {p : String × α}
    (hp : p ∈ listInsert l k v) : p = (k, v) ∨ p ∈ l := by
  induction l with
  | nil => simpa [listInsert] using hp
  | cons q rest ih =>
    obtain ⟨k', v'⟩ := q
    unfold listInsert at hp
    split at hp
    · rcases List.mem_cons.1 hp with rfl | hp
      · exact .inl rfl
      · exact .inr (List.mem_cons_of_mem _ hp)
    · split at hp
      · rcases List.mem_cons.1 hp with rfl | hp
        · exact .inl rfl
        · exact .inr hp
      · rcases List.mem_cons.1 hp with rfl | hp
        · exact .inr List.mem_cons_self
        · exact (ih hp).imp id (List.mem_cons_of_mem _)

theorem sorted_listInsert {l : List (String × α)} (k : String) (v : α)
    (h : l.Pairwise fun a b => a.1 < b.1) :
    (listInsert l k v).Pairwise fun a b => a.1 < b.1 := by
  induction l with
  | nil => simp [listInsert]
  | cons q rest ih =>
    obtain ⟨k', v'⟩ := q
    obtain ⟨hhead, hrest⟩ := List.pairwise_cons.1 h
    by_cases heq : k = k'
    · -- the value of `k'` is replaced in place
      subst heq
      simp only [listInsert, if_true]
      exact List.pairwise_cons.2 ⟨hhead, hrest⟩
    · by_cases hlt : k < k'
      · -- the new key goes first: it is below `k'`, hence below every later key
        simp only [listInsert, if_neg heq, if_pos hlt]
        refine List.pairwise_cons.2 ⟨fun p hp => ?_, h⟩
        rcases List.mem_cons.1 hp with rfl | hp
        · exact hlt
        · exact String.lt_trans hlt (hhead p hp)
      · -- the new key goes after `k'`, which is below it
        have hgt : k' < k := Std.lt_of_le_of_ne hlt (Ne.symm heq)
        simp only [listInsert, if_neg heq, if_neg hlt]
        refine List.pairwise_cons.2 ⟨fun p hp => ?_, ih hrest⟩
        rcases mem_listInsert hp with rfl | hp
        · exact hgt
        · exact hhead p hp

/-- The map without keys. -/
def empty : KeyMap α := ⟨[], .nil⟩

/-- Sets the value of a key, replacing an earlier one. -/
def insert (m : KeyMap α) (k : String) (v : α) : KeyMap α :=
  ⟨listInsert m.toList k v, sorted_listInsert k v m.sorted⟩

/-- The value of a key. -/
def get? (m : KeyMap α) (k : String) : Option α := listGet? m.toList k

/-- The keys, in order. -/
def keys (m : KeyMap α) : List String := m.toList.map Prod.fst

/-- Whether the map has no keys. -/
def isEmpty (m : KeyMap α) : Bool := m.toList.isEmpty

@[simp] theorem toList_empty : (empty : KeyMap α).toList = [] := rfl

@[simp] theorem isEmpty_empty : (empty : KeyMap α).isEmpty = true := rfl

@[simp] theorem toList_insert (m : KeyMap α) (k : String) (v : α) :
    (m.insert k v).toList = listInsert m.toList k v := rfl

theorem get?_insert_self (m : KeyMap α) (k : String) (v : α) : (m.insert k v).get? k = some v := by
  show listGet? (listInsert m.toList k v) k = some v
  induction m.toList with
  | nil => simp [listInsert, listGet?]
  | cons p rest ih =>
    obtain ⟨k', v'⟩ := p
    unfold listInsert
    by_cases h : k = k'
    · simp [h, listGet?]
    · by_cases h2 : k < k'
      · simp [h, h2, listGet?]
      · simp [h, h2, listGet?, ih]

end KeyMap

end LaunchBench
