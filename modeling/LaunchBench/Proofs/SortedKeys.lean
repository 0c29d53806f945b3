import LaunchBench.KeyMap
/-!
Lookups in key maps.

The keys of a key map strictly increase, so a map is determined by its lookups. That is how two
tables built in different orders are compared: a budget file read in two parts against the
whole file, or a table whose values were overridden one key at a time.

* **`KeyMap.get?_insert`**: inserting a key changes the lookup of that key only.
* **`KeyMap.eq_of_listGet?`**: two lists of pairs sorted by key with the same lookups are the
  same list; **`KeyMap.ext_get?`** is the same for maps.
* **`KeyMap.get?_union`**: the union in which the right map wins looks a key up on the right
  first.
-/

namespace LaunchBench

namespace KeyMap

variable {α : Type}

/-- The union of two maps in which the right one wins on a key they share. -/
def union (m₁ m₂ : KeyMap α) : KeyMap α := m₂.toList.foldr (fun p acc => acc.insert p.1 p.2) m₁

@[simp] theorem listGet?_nil (k : String) : listGet? ([] : List (String × α)) k = none := rfl

@[simp] theorem get?_empty (k : String) : (empty : KeyMap α).get? k = none := rfl

theorem listGet?_cons (k k' : String) (v : α) (l : List (String × α)) :
    listGet? ((k', v) :: l) k = if k = k' then some v else listGet? l k := rfl

theorem listGet?_listInsert (l : List (String × α)) (k k' : String) (v : α) :
    listGet? (listInsert l k v) k' = if k' = k then some v else listGet? l k' := by
  induction l with
  | nil => simp [listInsert, listGet?_cons]
  | cons p rest ih =>
    obtain ⟨k'', v''⟩ := p
    by_cases h : k = k''
    · subst h
      by_cases hk : k' = k <;> simp [listInsert, listGet?_cons, hk]
    · by_cases hlt : k < k''
      · simp [listInsert, h, hlt, listGet?_cons]
      · by_cases hk : k' = k
        · subst hk
          simp [listInsert, h, hlt, listGet?_cons, ih]
        · simp [listInsert, h, hlt, listGet?_cons, ih, hk]

theorem get?_insert (m : KeyMap α) (k k' : String) (v : α) :
    (m.insert k v).get? k' = if k' = k then some v else m.get? k' :=
  listGet?_listInsert m.toList k k' v

theorem mem_of_listGet? {l : List (String × α)} {k : String} {v : α}
    (h : listGet? l k = some v) : (k, v) ∈ l := by
  induction l with
  | nil => cases h
  | cons q rest ih =>
    obtain ⟨k', v'⟩ := q
    rw [listGet?_cons] at h
    split at h
    · next hk =>
      subst hk
      cases h
      exact List.mem_cons_self
    · exact List.mem_cons_of_mem _ (ih h)

theorem listGet?_eq_none_iff {l : List (String × α)} {k : String} :
    listGet? l k = none ↔ k ∉ l.map Prod.fst := by
  induction l with
  | nil => simp
  | cons q rest ih =>
    obtain ⟨k', v'⟩ := q
    rw [listGet?_cons]
    by_cases hk : k = k'
    · simp [hk]
    · simpa [hk] using ih

theorem get?_eq_none_iff {m : KeyMap α} {k : String} : m.get? k = none ↔ k ∉ m.keys :=
  listGet?_eq_none_iff

theorem mem_keys_of_get? {m : KeyMap α} {k : String} {v : α} (h : m.get? k = some v) :
    k ∈ m.keys := by
  refine Classical.byContradiction fun hk => ?_
  rw [get?_eq_none_iff.2 hk] at h
  cases h

theorem exists_get?_of_mem_keys {m : KeyMap α} {k : String} (h : k ∈ m.keys) :
    ∃ v, m.get? k = some v := by
  cases hk : m.get? k with
  | none => exact absurd h (get?_eq_none_iff.1 hk)
  | some v => exact ⟨v, rfl⟩

/-- The first key of pairs sorted by key occurs nowhere after it. -/
theorem listGet?_tail_head {k : String} {v : α} {l : List (String × α)}
    (h : ((k, v) :: l).Pairwise fun a b => a.1 < b.1) : listGet? l k = none := by
  cases hm : listGet? l k with
  | none => rfl
  | some v' =>
    have hlt := (List.pairwise_cons.1 h).1 _ (mem_of_listGet? hm)
    exact absurd hlt (String.lt_irrefl k)

/-- Two lists of pairs sorted by key with the same lookups are the same list. The induction is
on the first list; its head key is the least key of both. -/
theorem eq_of_listGet? {l₁ l₂ : List (String × α)} (h₁ : l₁.Pairwise fun a b => a.1 < b.1)
    (h₂ : l₂.Pairwise fun a b => a.1 < b.1) (h : ∀ k, listGet? l₁ k = listGet? l₂ k) :
    l₁ = l₂ := by
  induction l₁ generalizing l₂ with
  | nil =>
    cases l₂ with
    | nil => rfl
    | cons q rest =>
      obtain ⟨k', v'⟩ := q
      have := h k'
      simp [listGet?_cons] at this
  | cons p tail ih =>
    obtain ⟨k, v⟩ := p
    cases l₂ with
    | nil =>
      have := h k
      simp [listGet?_cons] at this
    | cons q rest =>
      obtain ⟨k', v'⟩ := q
      -- the head keys agree: each is found in the other list, where every other key is larger
      have hkeys : k = k' := by
        refine Classical.byContradiction fun hne => ?_
        have hin₁ : (k', v') ∈ tail := by
          have := h k'
          rw [listGet?_cons, listGet?_cons, if_neg (Ne.symm hne), if_pos rfl] at this
          exact mem_of_listGet? this
        have hin₂ : (k, v) ∈ rest := by
          have := h k
          rw [listGet?_cons, listGet?_cons, if_pos rfl, if_neg hne] at this
          exact mem_of_listGet? this.symm
        exact String.lt_asymm ((List.pairwise_cons.1 h₁).1 _ hin₁)
          ((List.pairwise_cons.1 h₂).1 _ hin₂)
      subst hkeys
      have hvals : v = v' := by
        have := h k
        rw [listGet?_cons, listGet?_cons, if_pos rfl, if_pos rfl] at this
        exact Option.some.inj this
      subst hvals
      have htails : ∀ k', listGet? tail k' = listGet? rest k' := by
        intro k'
        by_cases hk : k' = k
        · subst hk
          rw [listGet?_tail_head h₁, listGet?_tail_head h₂]
        · have := h k'
          rwa [listGet?_cons, listGet?_cons, if_neg hk, if_neg hk] at this
      rw [ih (List.pairwise_cons.1 h₁).2 (List.pairwise_cons.1 h₂).2 htails]

/-- Two maps with the same lookups are the same map. -/
theorem ext_get? {m₁ m₂ : KeyMap α} (h : ∀ k, m₁.get? k = m₂.get? k) : m₁ = m₂ := by
  obtain ⟨l₁, h₁⟩ := m₁
  obtain ⟨l₂, h₂⟩ := m₂
  obtain rfl : l₁ = l₂ := eq_of_listGet? h₁ h₂ h
  rfl

theorem get?_union (m₁ m₂ : KeyMap α) (k : String) :
    (union m₁ m₂).get? k = (m₂.get? k).or (m₁.get? k) := by
  show (m₂.toList.foldr (fun p acc => acc.insert p.1 p.2) m₁).get? k =
    (listGet? m₂.toList k).or (m₁.get? k)
  -- the pairs of the right map are inserted last to first
  induction m₂.toList with
  | nil => rfl
  | cons p rest ih =>
    obtain ⟨k', v'⟩ := p
    rw [List.foldr_cons, get?_insert, listGet?_cons]
    split
    · rfl
    · exact ih

end KeyMap

end LaunchBench
