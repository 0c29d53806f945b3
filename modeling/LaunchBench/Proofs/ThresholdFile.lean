import LaunchBench.Threshold
import LaunchBench.Proofs.SettingValues
import LaunchBench.Proofs.SortedKeys
import LaunchBench.Proofs.TextLines
/-!
Reading a budget file.

A budget file is read line by line. A line that is blank once trimmed, or whose trimmed text
starts with `#`, says nothing. Every other line must hold a `=`; it sets the budget of the
trimmed text before its first `=` to the value the trimmed text after it spells, a decimal
numeral below `2 ^ 64`. A later line for the same key wins. The first line that breaks these
rules stops the reading: one without `=` is an invalid line, named as written, and one whose
value spells no budget an invalid value, named by its trimmed key and value.

* **`ThresholdSet.addLines_cons_ok`**: what one line read without error can have done.
* **`ThresholdSet.addLines_eq_error_iff`**: lines fail with the error of the first line that
  is not accepted, whatever was read before them.
* **`ThresholdSet.addLines_eq_union`**: reading lines over a table is reading them alone and
  letting them win over the table.
* **`ThresholdSet.parse_spec`**: which texts are read, what the table then holds, which error
  a text fails with, and how a text joined from two at a line feed is read.
-/

namespace LaunchBench

namespace ThresholdSet

/-! ### What a line says -/

/-- The key and the value text a budget line assigns: the trimmed line cut at its first `=`,
both parts trimmed; `none` for a quiet line or one without `=`. -/
def assignment? (line : String) : Option (String × String) :=
  if Text.quietLine line then none
  else (Settings.cutAt '=' (Text.trimChars line.toList)).map fun kv =>
    (String.ofList (Text.trimChars kv.1), String.ofList (Text.trimChars kv.2))

/-- A value text that spells a budget: a decimal numeral below `2 ^ 64`. -/
def IsBudget (v : String) : Prop := ∃ n, Text.Numeral v n ∧ n < 2 ^ 64

/-- A line a budget file may hold: a quiet line, or one that assigns a budget. -/
def Accepted (line : String) : Prop :=
  Text.quietLine line = true ∨ ∃ k v, assignment? line = some (k, v) ∧ IsBudget v

/-- The error with which a line is refused: a line that says something and has no `=` is an
invalid line, named as written; a value that spells no budget is an invalid value, named by
the trimmed key and value. -/
inductive Refuses : String → ThresholdError → Prop
  | noEquals {line : String} : Text.quietLine line = false → '=' ∉ line.toList →
      Refuses line (.invalidLine line)
  | notBudget {line k v : String} : assignment? line = some (k, v) → ¬ IsBudget v →
      Refuses line (.invalidValue k v)

/-- The value text a line assigns to a key. -/
def lineValue? (k line : String) : Option String :=
  (assignment? line).bind fun kv => if kv.1 = k then some kv.2 else none

/-- The value text of the last line that assigns a key. -/
def lastValue? (k : String) (lines : List String) : Option String :=
  (lines.filterMap (lineValue? k)).getLast?

theorem lastValue?_cons (k l : String) (ls : List String) :
    lastValue? k (l :: ls) = (lastValue? k ls).or (lineValue? k l) := by
  cases h : lineValue? k l <;> simp [lastValue?, h, List.getLast?_cons]

theorem lineValue?_of_quiet {k l : String} (h : Text.quietLine l = true) :
    lineValue? k l = none := by
  simp [lineValue?, assignment?, h]

theorem isBudget_iff {v : String} : IsBudget v ↔ (Text.readWord? 64 v).isSome := by
  constructor
  · rintro ⟨n, hn, hlt⟩
    rw [Text.readWord?_eq_some_iff.2 ⟨hn, hlt⟩]
    rfl
  · intro h
    obtain ⟨n, hn⟩ := Option.isSome_iff_exists.1 h
    exact ⟨n, Text.readWord?_eq_some_iff.1 hn⟩

/-- A line that says something assigns nothing exactly when it has no `=`. -/
theorem assignment?_eq_none_iff {l : String} :
    assignment? l = none ↔ Text.quietLine l = true ∨ '=' ∉ l.toList := by
  have heq : '=' ∈ Text.trimChars l.toList ↔ '=' ∈ l.toList :=
    Text.mem_trimChars (by decide) _
  cases hq : Text.quietLine l
  · simp only [assignment?, hq, Bool.false_eq_true, if_false, Option.map_eq_none_iff,
      Settings.cutAt_eq_none_iff, heq, false_or]
  · simp [assignment?, hq]

/-- The parts of a line that assigns a value, as the reader cuts them. -/
theorem assignment?_eq_some {l k v : String} (h : assignment? l = some (k, v)) :
    Text.quietLine l = false ∧ ∃ i, (Text.trimChars l.toList).idxOf? '=' = some i ∧
      k = String.ofList (Text.trimChars ((Text.trimChars l.toList).take i)) ∧
      v = String.ofList (Text.trimChars ((Text.trimChars l.toList).drop (i + 1))) := by
  unfold assignment? at h
  split at h
  · cases h
  · next hq =>
    refine ⟨Bool.eq_false_iff.2 hq, ?_⟩
    unfold Settings.cutAt at h
    split at h
    · next i hi =>
      simp only [Option.map_some, Option.some.injEq, Prod.mk.injEq] at h
      exact ⟨i, hi, h.1.symm, h.2.symm⟩
    · cases h

/-- Every line is accepted or refused, and not both. -/
theorem accepted_or_refuses (l : String) : Accepted l ∨ ∃ e, Refuses l e := by
  cases hq : Text.quietLine l
  · cases ha : assignment? l with
    | none =>
      have hno := (assignment?_eq_none_iff.1 ha).resolve_left (by simp [hq])
      exact .inr ⟨_, .noEquals hq hno⟩
    | some kv =>
      obtain ⟨k, v⟩ := kv
      by_cases hv : IsBudget v
      · exact .inl (.inr ⟨k, v, ha, hv⟩)
      · exact .inr ⟨_, .notBudget ha hv⟩
  · exact .inl (.inl hq)

theorem Refuses.not_accepted {l : String} {e : ThresholdError} (h : Refuses l e) :
    ¬ Accepted l := by
  rintro (hq | ⟨k, v, ha, hv⟩)
  · cases h with
    | noEquals hq' _ => rw [hq] at hq'; cases hq'
    | notBudget ha' _ => simp [assignment?, hq] at ha'
  · cases h with
    | noEquals hq' hno => rw [assignment?_eq_none_iff.2 (.inr hno)] at ha; cases ha
    | notBudget ha' hv' =>
      rw [ha] at ha'
      obtain ⟨rfl, rfl⟩ := Prod.mk.inj (Option.some.inj ha')
      exact hv' hv

/-! ### One line -/

variable {acc t : ThresholdSet} {l : String} {ls : List String}

theorem addLines_quiet (h : Text.quietLine l = true) (acc : ThresholdSet) (ls : List String) :
    addLines acc (l :: ls) = addLines acc ls := by
  simp only [Text.quietLine] at h
  rw [addLines.eq_def acc (l :: ls)]
  simp only [h, if_true]

theorem addLines_noEquals (hq : Text.quietLine l = false) (hno : '=' ∉ l.toList)
    (acc : ThresholdSet) (ls : List String) : addLines acc (l :: ls) = .error (.invalidLine l) := by
  have hidx : (Text.trimChars l.toList).idxOf? '=' = none :=
    List.idxOf?_eq_none_iff.2 fun hm => hno ((Text.mem_trimChars (by decide) _).1 hm)
  simp only [Text.quietLine] at hq
  rw [addLines.eq_def acc (l :: ls)]
  simp only [hq, Bool.false_eq_true, if_false, hidx]

theorem trimBlank_ofList (cs : List Char) :
    Text.trimBlank (String.ofList cs) = String.ofList (Text.trimChars cs) := by
  rw [Text.trimBlank, String.toList_ofList]

/-- A line assigning a budget sets it. -/
theorem addLines_budget {k v : String} {n : Nat} (h : assignment? l = some (k, v))
    (hn : Text.readWord? 64 v = some n) (acc : ThresholdSet) (ls : List String) :
    addLines acc (l :: ls) = addLines (KeyMap.insert acc k n) ls := by
  obtain ⟨hq, i, hi, rfl, rfl⟩ := assignment?_eq_some h
  simp only [Text.quietLine] at hq
  rw [addLines.eq_def acc (l :: ls)]
  simp only [hq, Bool.false_eq_true, if_false, hi, readValue, trimBlank_ofList, hn]

/-- A line assigning a value that reads as no budget stops the reading. -/
theorem addLines_notBudget {k v : String} (h : assignment? l = some (k, v))
    (hn : Text.readWord? 64 v = none) (acc : ThresholdSet) (ls : List String) :
    addLines acc (l :: ls) = .error (.invalidValue k v) := by
  obtain ⟨hq, i, hi, rfl, rfl⟩ := assignment?_eq_some h
  simp only [Text.quietLine] at hq
  rw [addLines.eq_def acc (l :: ls)]
  simp only [hq, Bool.false_eq_true, if_false, hi, readValue, trimBlank_ofList, hn]

theorem addLines_of_refuses {e : ThresholdError} (h : Refuses l e) (acc : ThresholdSet)
    (ls : List String) : addLines acc (l :: ls) = .error e := by
  cases h with
  | noEquals hq hno => exact addLines_noEquals hq hno acc ls
  | notBudget ha hv =>
    -- the value reads as no budget
    exact addLines_notBudget ha (Option.not_isSome_iff_eq_none.1 fun hs => hv (isBudget_iff.2 hs))
      acc ls

/-- What a line does: it says nothing, it is refused, or it sets a budget. -/
theorem line_cases (l : String) :
    Text.quietLine l = true ∨ (∃ e, Refuses l e) ∨
      ∃ k v n, assignment? l = some (k, v) ∧ Text.readWord? 64 v = some n := by
  rcases accepted_or_refuses l with (hq | ⟨k, v, ha, hv⟩) | hr
  · exact .inl hq
  · obtain ⟨n, hn⟩ := Option.isSome_iff_exists.1 (isBudget_iff.1 hv)
    exact .inr (.inr ⟨k, v, n, ha, hn⟩)
  · exact .inr (.inl hr)

/-- What one line read without error can have done: said nothing, or set a budget. -/
theorem addLines_cons_ok (h : addLines acc (l :: ls) = .ok t) :
    (Text.quietLine l = true ∧ addLines acc ls = .ok t) ∨
      ∃ k v n, assignment? l = some (k, v) ∧ Text.readWord? 64 v = some n ∧
        addLines (KeyMap.insert acc k n) ls = .ok t := by
  rcases line_cases l with hq | ⟨e, he⟩ | ⟨k, v, n, ha, hn⟩
  · rw [addLines_quiet hq] at h
    exact .inl ⟨hq, h⟩
  · rw [addLines_of_refuses he] at h
    cases h
  · rw [addLines_budget ha hn] at h
    exact .inr ⟨k, v, n, ha, hn, h⟩

theorem accepted_of_budget {k v : String} {n : Nat} (ha : assignment? l = some (k, v))
    (hn : Text.readWord? 64 v = some n) : Accepted l :=
  .inr ⟨k, v, ha, isBudget_iff.2 (by rw [hn]; rfl)⟩

/-! ### Many lines -/

/-- Reading two runs of lines is reading the first, then the second over what it gave. -/
theorem addLines_append (acc : ThresholdSet) (xs ys : List String) :
    addLines acc (xs ++ ys) = (addLines acc xs).bind (addLines · ys) := by
  induction xs generalizing acc with
  | nil => rfl
  | cons l xs ih =>
    rw [List.cons_append]
    rcases line_cases l with hq | ⟨e, he⟩ | ⟨k, v, n, ha, hn⟩
    · rw [addLines_quiet hq, addLines_quiet hq, ih]
    · rw [addLines_of_refuses he, addLines_of_refuses he]
      rfl
    · rw [addLines_budget ha hn, addLines_budget ha hn, ih]

/-- The error lines stop with does not depend on the budgets read before them. -/
theorem addLines_error {e : ThresholdError} (h : addLines acc ls = .error e)
    (acc' : ThresholdSet) : addLines acc' ls = .error e := by
  induction ls generalizing acc acc' with
  | nil => cases h
  | cons l ls ih =>
    rcases line_cases l with hq | ⟨e', he⟩ | ⟨k, v, n, ha, hn⟩
    · rw [addLines_quiet hq] at h ⊢
      exact ih h acc'
    · rw [addLines_of_refuses he] at h ⊢
      exact h
    · rw [addLines_budget ha hn] at h ⊢
      exact ih h _

theorem addLines_ok_of_accepted (h : ∀ l ∈ ls, Accepted l) (acc : ThresholdSet) :
    ∃ t, addLines acc ls = .ok t := by
  induction ls generalizing acc with
  | nil => exact ⟨acc, rfl⟩
  | cons l ls ih =>
    have hrest := ih fun l' hl' => h l' (List.mem_cons_of_mem l hl')
    rcases line_cases l with hq | ⟨e, he⟩ | ⟨k, v, n, ha, hn⟩
    · rw [addLines_quiet hq]
      exact hrest acc
    · exact absurd (h l List.mem_cons_self) he.not_accepted
    · rw [addLines_budget ha hn]
      exact hrest _

theorem addLines_accepted (h : addLines acc ls = .ok t) : ∀ l ∈ ls, Accepted l := by
  induction ls generalizing acc with
  | nil => simp
  | cons l ls ih =>
    rw [List.forall_mem_cons]
    rcases addLines_cons_ok h with ⟨hq, h'⟩ | ⟨k, v, n, ha, hn, h'⟩
    · exact ⟨.inl hq, ih h'⟩
    · exact ⟨accepted_of_budget ha hn, ih h'⟩

/-- Lines read without error: a key no line assigns keeps its budget, and any other takes the
value its last line spells. The induction is on the lines, over the budgets read so far. -/
theorem addLines_get? (h : addLines acc ls = .ok t) (k : String) :
    (lastValue? k ls = none → KeyMap.get? t k = KeyMap.get? acc k) ∧
      ∀ v, lastValue? k ls = some v → ∃ n, Text.Numeral v n ∧ KeyMap.get? t k = some n := by
  induction ls generalizing acc with
  | nil =>
    obtain rfl : acc = t := Except.ok.inj h
    exact ⟨fun _ => rfl, fun v hv => by simp [lastValue?] at hv⟩
  | cons l ls ih =>
    rcases addLines_cons_ok h with ⟨hq, h'⟩ | ⟨k₀, v₀, n, ha, hn, h'⟩
    · rw [lastValue?_cons, lineValue?_of_quiet hq, Option.or_none]
      exact ih h'
    · obtain ⟨hstay, hset⟩ := ih h'
      rw [lastValue?_cons]
      by_cases hk : k₀ = k
      · -- the line sets `k`; a later line for `k` overrides it
        subst hk
        have hl : lineValue? k₀ l = some v₀ := by simp [lineValue?, ha]
        rw [hl]
        refine ⟨fun hnone => by cases hlast : lastValue? k₀ ls <;> simp [hlast] at hnone, ?_⟩
        intro v hv
        cases hlast : lastValue? k₀ ls with
        | some v' =>
          rw [hlast, Option.some_or, Option.some.injEq] at hv
          subst hv
          exact hset v' hlast
        | none =>
          rw [hlast, Option.none_or, Option.some.injEq] at hv
          subst hv
          refine ⟨n, (Text.readWord?_eq_some_iff.1 hn).1, ?_⟩
          rw [hstay hlast, KeyMap.get?_insert_self]
      · -- another key: this line leaves it
        have hl : lineValue? k l = none := by simp [lineValue?, ha, hk]
        rw [hl, Option.or_none]
        refine ⟨fun hnone => ?_, hset⟩
        rw [hstay hnone, KeyMap.get?_insert, if_neg (Ne.symm hk)]

/-- Lines fail with the error of the first line that is not accepted. -/
theorem addLines_eq_error_iff {e : ThresholdError} :
    addLines acc ls = .error e ↔
      ∃ pre l post, ls = pre ++ l :: post ∧ (∀ l' ∈ pre, Accepted l') ∧ Refuses l e := by
  constructor
  · intro h
    induction ls generalizing acc with
    | nil => cases h
    | cons l ls ih =>
      rcases line_cases l with hq | ⟨e', he⟩ | ⟨k, v, n, ha, hn⟩
      · rw [addLines_quiet hq] at h
        obtain ⟨pre, l', post, rfl, hpre, hl'⟩ := ih h
        exact ⟨l :: pre, l', post, rfl, List.forall_mem_cons.2 ⟨.inl hq, hpre⟩, hl'⟩
      · -- this line is the first refused one
        rw [addLines_of_refuses he, Except.error.injEq] at h
        subst h
        exact ⟨[], l, ls, rfl, by simp, he⟩
      · rw [addLines_budget ha hn] at h
        obtain ⟨pre, l', post, rfl, hpre, hl'⟩ := ih h
        exact ⟨l :: pre, l', post, rfl,
          List.forall_mem_cons.2 ⟨accepted_of_budget ha hn, hpre⟩, hl'⟩
  · rintro ⟨pre, l, post, rfl, hpre, hl⟩
    obtain ⟨t, ht⟩ := addLines_ok_of_accepted hpre acc
    rw [addLines_append, ht]
    exact addLines_of_refuses hl t post

/-- Reading lines over budgets is reading them alone and letting them win. -/
theorem addLines_eq_union (acc : ThresholdSet) (ls : List String) :
    addLines acc ls = (addLines .empty ls).map (KeyMap.union acc) := by
  cases hb : addLines .empty ls with
  | error e =>
    rw [addLines_error hb acc]
    rfl
  | ok tb =>
    obtain ⟨t, ht⟩ := addLines_ok_of_accepted (addLines_accepted hb) acc
    rw [ht]
    -- both tables look every key up alike
    have heq : t = KeyMap.union acc tb := by
      refine KeyMap.ext_get? fun k => ?_
      rw [KeyMap.get?_union]
      obtain ⟨hstay, hset⟩ := addLines_get? ht k
      obtain ⟨hstay', hset'⟩ := addLines_get? hb k
      cases hlast : lastValue? k ls with
      | none => rw [hstay hlast, hstay' hlast, KeyMap.get?_empty, Option.none_or]
      | some v =>
        obtain ⟨n, hn, hget⟩ := hset v hlast
        obtain ⟨n', hn', hget'⟩ := hset' v hlast
        rw [hget, hget', hn.unique hn', Option.some_or]
    rw [heq]
    rfl

/-! ### Budget files -/

/-- A budget file joined from two at a line feed is read as the first, then the second, whose
budgets win; the first file's error comes first, and the second's next. -/
theorem parse_append_lf {a : String} (b : String) (ha : a.toList.getLast? ≠ some '\r') :
    parse (a ++ "\n" ++ b) = (parse a).bind fun ta => (parse b).map (KeyMap.union ta) := by
  -- the empty line the line feed may add between the two says nothing
  have hextra : ∀ t : ThresholdSet,
      addLines t (if a.toList.getLast?.all (· == '\n') then [""] else []) = .ok t := by
    intro t
    split
    · exact addLines_quiet rfl t []
    · rfl
  simp only [parse, Text.lines_append_lf b ha, List.append_assoc, addLines_append]
  cases hA : addLines .empty (Text.lines a) with
  | error e => rfl
  | ok ta =>
    show (addLines ta _).bind _ = _
    rw [hextra]
    exact addLines_eq_union ta _

/-- Reading a budget file. A file is read exactly when each of its lines is blank once trimmed,
a comment, or holds a `=` after which the trimmed text spells a number below `2 ^ 64`. Each
key of the budgets read has the value of the last line that assigns it, its text trimmed
before the first `=`; no other key has one. A file that is not read fails
with the error of its first line that is not accepted: an invalid line, named as written, when
it has no `=`, else an invalid value, named by the trimmed key and value. So a file joined from
two at a line feed, the first not ending in a carriage return, fails with the first's error,
else with the second's, and otherwise gives the budgets of both, the second's winning. -/
theorem parse_spec (c : String) :
    ((∃ t, parse c = .ok t) ↔ ∀ l ∈ Text.lines c, Accepted l) ∧
    (∀ t, parse c = .ok t → ∀ k,
      (lastValue? k (Text.lines c) = none → KeyMap.get? t k = none) ∧
      ∀ v, lastValue? k (Text.lines c) = some v → ∃ n, Text.Numeral v n ∧ KeyMap.get? t k = some n) ∧
    (∀ e, parse c = .error e ↔ ∃ pre l post, Text.lines c = pre ++ l :: post ∧
      (∀ l' ∈ pre, Accepted l') ∧ Refuses l e) ∧
    ∀ a b : String, a.toList.getLast? ≠ some '\r' →
      parse (a ++ "\n" ++ b) = (parse a).bind fun ta => (parse b).map (KeyMap.union ta) := by
  refine ⟨⟨fun ⟨t, ht⟩ => addLines_accepted ht, fun h => addLines_ok_of_accepted h .empty⟩,
    fun t ht k => ?_,
    fun e => addLines_eq_error_iff, fun a b ha => parse_append_lf b ha⟩
  obtain ⟨hstay, hset⟩ := addLines_get? ht k
  exact ⟨fun hk => (hstay hk).trans (KeyMap.get?_empty k), hset⟩

/-- A file of one budget followed by another for the same key. -/
theorem parse_spec_joined :
    "b=1".toList.getLast? ≠ some '\r' ∧
      parse ("b=1" ++ "\n" ++ "b = +2") =
        (parse "b=1").bind fun ta => (parse "b = +2").map (KeyMap.union ta) :=
  ⟨by decide, (parse_spec "").2.2.2 "b=1" "b = +2" (by decide)⟩

example : (parse "a=1\n# note\n a = 2 \nb=3").map KeyMap.toList = .ok [("a", 2), ("b", 3)] := by
  decide

end ThresholdSet

end LaunchBench
