import Mathlib.Data.List.Nodup
import Mathlib.Data.List.Pairwise
import LaunchBench.Host.ProcessTable
import LaunchBench.Proofs.SettingValues
/-!
The descendants of a process, read from a process table.

A process table's rows name a process and its parent; `ChildOf`, `Below` (a chain of rows of a
given length) and `NoFarther` (a comparison of distances below a process) read the table as a
graph. A breadth-first list of the descendants of `root` (`BreadthFirst`) lists each process
other than `root` that one or more rows lead to from `root`, once, each after a process it is a
child of (or `root`), and nearer ones first.

* **`Walked.step`**: one step of the walk keeps the walk's invariant `Walked`: the queue is what
  is left of `root` and the processes found, those taken are closed under children, and the
  found ones are sorted by distance, the queue's head at most one row nearer than any of them.
* **`Walked.walk`**: run from such a state with enough fuel, the walk ends with an empty queue,
  and more fuel gives the same list.
* **`descendants_breadthFirst`**: the walk from `root` alone lists the descendants breadth first,
  and the fuel it is given, one more than the number of rows, is never the reason it stops.
* **`mem_ofText_links`**: the rows of a table's text are its lines whose first two words are
  process ids.
* **`descendantsIn_breadthFirst`**: the two together, for a table's text.
* **`descendantsIn_root_cycle`**: a process that its own table leads back to is still not listed
  among its descendants.
-/

namespace LaunchBench.Host

open Text

namespace ProcessTable

variable (t : ProcessTable)

/-- `c` is a child of `p`: a row of the table names `p` as `c`'s parent. -/
def ChildOf (p c : Nat) : Prop := Link.mk c p ∈ t.links

/-- `q` is `n` rows below `p`: a chain of `n` parent-to-child rows leads from `p` to `q`. -/
inductive Below (p : Nat) : Nat → Nat → Prop
  | refl : Below p 0 p
  | step {n q c : Nat} : Below p n q → t.ChildOf q c → Below p (n + 1) c

/-- `x` is no farther below `root` than `y`: for every chain of rows from `root` to `y`, one no
longer leads to `x`. -/
def NoFarther (root x y : Nat) : Prop :=
  ∀ n, t.Below root n y → ∃ m ≤ n, t.Below root m x

/-- What a breadth-first list of the descendants of `root` is. -/
structure BreadthFirst (root : Nat) (ds : List Nat) : Prop where
  /-- No process is listed twice. -/
  nodup : ds.Nodup
  /-- The listed processes are those other than `root` that one or more rows lead to from it. -/
  mem_iff : ∀ q, q ∈ ds ↔ q ≠ root ∧ ∃ n, t.Below root (n + 1) q
  /-- Each is a child of `root` or of a process listed before it. -/
  parent_first : ∀ q ∈ ds, ∃ pre suf, ds = pre ++ q :: suf ∧
    (t.ChildOf root q ∨ ∃ p ∈ pre, t.ChildOf p q)
  /-- A process listed before another is no farther below `root`. -/
  nearer_first : ds.Pairwise (t.NoFarther root)

variable {t}

theorem BreadthFirst.root_not_mem {root : Nat} {ds : List Nat} (h : t.BreadthFirst root ds) :
    root ∉ ds := fun hr => ((h.mem_iff root).1 hr).1 rfl

theorem mem_childrenOf {p c : Nat} : c ∈ t.childrenOf p ↔ t.ChildOf p c := by
  simp only [childrenOf, List.mem_map, List.mem_filter, beq_iff_eq, ChildOf]
  constructor
  · rintro ⟨⟨c', p'⟩, ⟨hl, rfl⟩, rfl⟩
    exact hl
  · intro h
    exact ⟨⟨c, p⟩, ⟨h, rfl⟩, rfl⟩

/-- A chain to another process ends in a row from the process before it. -/
theorem Below.last {root n c : Nat} (h : t.Below root n c) (hc : c ≠ root) :
    ∃ m q, n = m + 1 ∧ t.Below root m q ∧ t.ChildOf q c := by
  cases h with
  | refl => exact absurd rfl hc
  | step hb hq => exact ⟨_, _, rfl, hb, hq⟩

/-! ### The processes a step finds -/

theorem mem_fresh {root c : Nat} {seen cs : List Nat} :
    c ∈ fresh root seen cs ↔ c ∈ cs ∧ c ≠ root ∧ c ∉ seen := by
  induction cs generalizing seen with
  | nil => simp [fresh]
  | cons x xs ih =>
    unfold fresh
    by_cases hx : x = root ∨ x ∈ seen
    · -- the head is skipped; it was `root` or seen already
      have hskip : (x == root || seen.contains x) = true := by
        rcases hx with hx | hx <;> simp [hx]
      rw [if_pos hskip, ih]
      constructor
      · rintro ⟨hm, hr, hs⟩
        exact ⟨List.mem_cons_of_mem x hm, hr, hs⟩
      · rintro ⟨hm, hr, hs⟩
        rcases List.mem_cons.1 hm with rfl | hm
        · rcases hx with hx | hx
          · exact absurd hx hr
          · exact absurd hx hs
        · exact ⟨hm, hr, hs⟩
    · -- the head is new; later copies of it are seen then
      have hnew : (x == root || seen.contains x) = false := by
        simp only [not_or] at hx
        simp [hx.1, hx.2]
      rw [if_neg (by rw [hnew]; decide), List.mem_cons, ih]
      simp only [List.mem_append, List.mem_cons, List.not_mem_nil, or_false, not_or]
      constructor
      · rintro (rfl | ⟨hm, hr, hs, hne⟩)
        · simp only [not_or] at hx
          exact ⟨.inl rfl, hx.1, hx.2⟩
        · exact ⟨.inr hm, hr, hs⟩
      · rintro ⟨rfl | hm, hr, hs⟩
        · exact .inl rfl
        · by_cases hcx : c = x
          · exact .inl hcx
          · exact .inr ⟨hm, hr, hs, hcx⟩

/-- The processes a step finds are new to `root` and to those found before, and new to each
other. -/
theorem nodup_fresh {root : Nat} {seen : List Nat} (cs : List Nat) (h : (root :: seen).Nodup) :
    (root :: (seen ++ fresh root seen cs)).Nodup := by
  induction cs generalizing seen with
  | nil => simpa [fresh] using h
  | cons x xs ih =>
    unfold fresh
    split
    · exact ih h
    · next hx =>
      have hx' : x ≠ root ∧ x ∉ seen := by simpa using hx
      have h' : (root :: (seen ++ [x])).Nodup := by
        rw [List.nodup_cons] at h ⊢
        refine ⟨by simp [h.1, Ne.symm hx'.1], ?_⟩
        rw [List.nodup_append]
        refine ⟨h.2, by simp, fun a ha b hb hab => hx'.2 ?_⟩
        rw [List.mem_singleton] at hb
        rwa [← hb, ← hab]
      simpa using ih h'

/-! ### The walk's invariant -/

/-- The state of the walk from `root`: the processes `found`, those `done` whose children were
taken, and the `queue` of those still to take. -/
structure Walked (root : Nat) (done queue found : List Nat) : Prop where
  /-- The processes taken, then the queue, are `root` and those found, in order. -/
  split : root :: found = done ++ queue
  nodup : (root :: found).Nodup
  /-- Every child of a process taken is `root` or found. -/
  closed : ∀ p ∈ done, ∀ c, t.ChildOf p c → c ∈ root :: found
  /-- Every process found is one or more rows below `root`. -/
  reached : ∀ q ∈ found, ∃ n, t.Below root (n + 1) q
  /-- Every process found is a child of `root` or of one found before it. -/
  parent_first : ∀ q ∈ found, ∃ pre suf, found = pre ++ q :: suf ∧
    (t.ChildOf root q ∨ ∃ p ∈ pre, t.ChildOf p q)
  /-- The processes are found nearer ones first. -/
  nearer_first : (root :: found).Pairwise (t.NoFarther root)
  /-- No process found is more than one row farther than the head of the queue. -/
  front : ∀ x ∈ queue.head?, ∀ q ∈ root :: found, ∀ n, t.Below root n x →
    ∃ m ≤ n + 1, t.Below root m q

theorem walked_init (root : Nat) : t.Walked root [] [root] [] where
  split := rfl
  nodup := by simp
  closed := by simp
  reached := by simp
  parent_first := by simp
  nearer_first := by simp
  front := by
    intro x hx q hq n hb
    simp only [List.head?_cons, Option.mem_def, Option.some.injEq, List.mem_singleton] at hx hq
    subst hx hq
    exact ⟨n, by omega, hb⟩

section Step

variable {root p : Nat} {done rest found queue : List Nat}

theorem Walked.below_of_mem (hw : t.Walked root done queue found) {q : Nat}
    (hq : q ∈ root :: found) : ∃ n, t.Below root n q := by
  rcases List.mem_cons.1 hq with rfl | hq
  · exact ⟨0, .refl⟩
  · obtain ⟨n, hn⟩ := hw.reached q hq
    exact ⟨n + 1, hn⟩

/-- The head of the queue is no farther than what follows it. -/
theorem Walked.head_noFarther (hw : t.Walked root done (p :: rest) found) :
    ∀ c ∈ rest, t.NoFarther root p c := by
  have h := hw.nearer_first
  rw [hw.split, List.pairwise_append, List.pairwise_cons] at h
  exact h.2.1.1

/-- A process nearer to `root` than the head of the queue has had its children taken. -/
theorem Walked.mem_done_of_nearer (hw : t.Walked root done (p :: rest) found) {n x : Nat}
    (hb : t.Below root n x) (hnear : ∀ m ≤ n, ¬ t.Below root m p) : x ∈ done := by
  induction hb with
  | refl =>
    -- `root` itself is taken first, unless it heads the queue
    cases done with
    | nil =>
      have hp : root = p := (List.cons.inj hw.split).1
      exact absurd (hp ▸ Below.refl) (hnear 0 (Nat.le_refl 0))
    | cons d ds =>
      have hd : root = d := (List.cons.inj hw.split).1
      exact hd ▸ List.mem_cons_self
  | step hb' hc ih =>
    rename_i n' q c
    have hq := ih fun m hm => hnear m (by omega)
    have hmem : c ∈ done ++ p :: rest := hw.split ▸ hw.closed q hq c hc
    rcases List.mem_append.1 hmem with hd | hpr
    · exact hd
    · rcases List.mem_cons.1 hpr with rfl | hr
      · exact absurd (Below.step hb' hc) (hnear _ (Nat.le_refl _))
      · obtain ⟨m, hm, hbm⟩ := hw.head_noFarther c hr _ (Below.step hb' hc)
        exact absurd hbm (hnear m hm)

/-- A process the head of the queue adds is one row past the head, at least. -/
theorem Walked.past_head (hw : t.Walked root done (p :: rest) found) {c : Nat}
    (hc : c ∈ fresh root found (t.childrenOf p)) {n : Nat} (hb : t.Below root n c) :
    ∃ m, m + 1 ≤ n ∧ t.Below root m p := by
  obtain ⟨-, hcr, hcf⟩ := mem_fresh.1 hc
  obtain ⟨n', q, rfl, hbq, hqc⟩ := hb.last hcr
  by_cases hnear : ∃ m ≤ n', t.Below root m p
  · obtain ⟨m, hm, hbm⟩ := hnear
    exact ⟨m, by omega, hbm⟩
  · -- otherwise `q` was taken before, and `c` would have been found then
    have hq := hw.mem_done_of_nearer hbq fun m hm hbm => hnear ⟨m, hm, hbm⟩
    rcases List.mem_cons.1 (hw.closed q hq c hqc) with hroot | hfound
    · exact absurd hroot hcr
    · exact absurd hfound hcf

/-- One step of the walk: the head of the queue hands its new children to the end of the
queue and of the list found. -/
theorem Walked.step (hw : t.Walked root done (p :: rest) found) :
    t.Walked root (done ++ [p]) (rest ++ fresh root found (t.childrenOf p))
      (found ++ fresh root found (t.childrenOf p)) := by
  set new := fresh root found (t.childrenOf p) with hnew_def
  have hp : p ∈ root :: found := by rw [hw.split]; simp
  have hnew : ∀ c ∈ new, t.ChildOf p c ∧ c ≠ root ∧ c ∉ found := fun c hc => by
    obtain ⟨hm, hr, hs⟩ := mem_fresh.1 hc
    exact ⟨mem_childrenOf.1 hm, hr, hs⟩
  -- the head is no farther than anything queued behind it
  have hhead : ∀ x ∈ (rest ++ new).head?, ∀ n, t.Below root n x → ∃ m ≤ n, t.Below root m p := by
    intro x hx n hb
    rcases rest with _ | ⟨r, rest'⟩
    · obtain ⟨m, hm, hbm⟩ := hw.past_head (List.mem_of_mem_head? hx) hb
      exact ⟨m, by omega, hbm⟩
    · obtain rfl : r = x := by simpa using hx
      exact hw.head_noFarther _ List.mem_cons_self n hb
  refine ⟨?split, ?nodup, ?closed, ?reached, ?parent, ?order, ?front⟩
  case split => rw [← List.cons_append, hw.split]; simp
  case nodup => exact nodup_fresh _ hw.nodup
  case closed =>
    intro q hq c hc
    rcases List.mem_append.1 hq with hq | hq
    · rcases List.mem_cons.1 (hw.closed q hq c hc) with h | h <;> simp [h]
    · obtain rfl : q = p := by simpa using hq
      by_cases hcr : c = root
      · simp [hcr]
      by_cases hcf : c ∈ found
      · simp [hcf]
      · have : c ∈ new := mem_fresh.2 ⟨mem_childrenOf.2 hc, hcr, hcf⟩
        simp [this]
  case reached =>
    intro q hq
    rcases List.mem_append.1 hq with hq | hq
    · exact hw.reached q hq
    · obtain ⟨n, hn⟩ := hw.below_of_mem hp
      exact ⟨n, .step hn (hnew q hq).1⟩
  case parent =>
    intro q hq
    rcases List.mem_append.1 hq with hq | hq
    · obtain ⟨pre, suf, hsplit, hpar⟩ := hw.parent_first q hq
      exact ⟨pre, suf ++ new, by simp [hsplit], hpar⟩
    · obtain ⟨a, b, hab⟩ := List.append_of_mem hq
      refine ⟨found ++ a, b, by simp [hab], ?_⟩
      rcases List.mem_cons.1 hp with rfl | hpf
      · exact .inl (hnew q hq).1
      · exact .inr ⟨p, by simp [hpf], (hnew q hq).1⟩
  case order =>
    rw [← List.cons_append, List.pairwise_append]
    refine ⟨hw.nearer_first, ?_, ?_⟩
    · -- new processes are all one row past the head, so none is farther than another
      refine List.pairwise_of_forall_mem_list fun a ha b hb n hbn => ?_
      obtain ⟨m, hm, hbm⟩ := hw.past_head hb hbn
      exact ⟨m + 1, hm, .step hbm (hnew a ha).1⟩
    · intro q hq c hc n hbc
      obtain ⟨m, hm, hbm⟩ := hw.past_head hc hbc
      obtain ⟨m', hm', hbm'⟩ := hw.front p (by simp) q hq m hbm
      exact ⟨m', by omega, hbm'⟩
  case front =>
    intro x hx q hq n hb
    obtain ⟨m, hm, hbm⟩ := hhead x hx n hb
    rcases List.mem_append.1 (by simpa using hq : q ∈ (root :: found) ++ new) with hq | hq
    · obtain ⟨m', hm', hbm'⟩ := hw.front p (by simp) q hq m hbm
      exact ⟨m', by omega, hbm'⟩
    · exact ⟨m + 1, by omega, .step hbm (hnew q hq).1⟩

end Step

/-! ### Running the walk -/

/-- Once the queue is empty, the walk stops, whatever its fuel. -/
theorem walk_nil (root fuel : Nat) (found : List Nat) : t.walk root fuel [] found = found := by
  cases fuel <;> rfl

/-- Every process found is the child in some row, and none is found twice. -/
theorem Walked.length_le {root : Nat} {done queue found : List Nat}
    (hw : t.Walked root done queue found) : found.length ≤ t.links.length := by
  have hsub : found ⊆ t.links.map Link.child := by
    intro q hq
    obtain ⟨n, hn⟩ := hw.reached q hq
    cases hn with
    | step _ hc => exact List.mem_map.2 ⟨_, hc, rfl⟩
  simpa using (List.nodup_cons.1 hw.nodup).2.length_le_of_subset hsub

/-- A walk whose queue is empty has taken `root` and every process found. -/
theorem Walked.done_eq {root : Nat} {done found : List Nat} (hw : t.Walked root done [] found) :
    done = root :: found := by
  simpa using hw.split.symm

/-- Run from a state of the walk with fuel for the queue and for every row not yet found, the
walk ends with an empty queue, and more fuel gives the same list. The fuel bounds the steps
because each step takes one process off the queue and adds only processes not found before. -/
theorem Walked.walk {root : Nat} {done queue found : List Nat}
    (hw : t.Walked root done queue found) (fuel : Nat)
    (hfuel : queue.length + (t.links.length - found.length) ≤ fuel) :
    t.Walked root (root :: t.walk root fuel queue found) [] (t.walk root fuel queue found) ∧
      ∀ fuel', fuel ≤ fuel' → t.walk root fuel' queue found = t.walk root fuel queue found := by
  induction fuel generalizing done queue found with
  | zero =>
    obtain rfl : queue = [] := List.eq_nil_of_length_eq_zero (by omega)
    rw [hw.done_eq] at hw
    exact ⟨by rw [walk_nil]; exact hw, fun fuel' _ => by rw [walk_nil, walk_nil]⟩
  | succ fuel ih =>
    cases queue with
    | nil =>
      rw [hw.done_eq] at hw
      exact ⟨by rw [walk_nil]; exact hw, fun fuel' _ => by rw [walk_nil, walk_nil]⟩
    | cons p rest =>
      have hstep := hw.step
      -- the processes found after the step still fit in the rows
      have hlen := hstep.length_le
      have hfuel' : (rest ++ fresh root found (t.childrenOf p)).length +
          (t.links.length - (found ++ fresh root found (t.childrenOf p)).length) ≤ fuel := by
        simp only [List.length_append, List.length_cons] at hfuel hlen ⊢
        omega
      obtain ⟨hend, hmore⟩ := ih hstep hfuel'
      have hunfold : t.walk root (fuel + 1) (p :: rest) found =
          t.walk root fuel (rest ++ fresh root found (t.childrenOf p))
            (found ++ fresh root found (t.childrenOf p)) := rfl
      refine ⟨hunfold ▸ hend, fun fuel' hle => ?_⟩
      obtain ⟨f, rfl⟩ : ∃ f, fuel' = f + 1 := ⟨fuel' - 1, by omega⟩
      rw [hunfold]
      exact hmore f (by omega)

/-- The walk from `root` alone lists the descendants of `root` breadth first; its fuel, one more
than the number of rows, runs out only after its queue does, so more fuel changes nothing. -/
theorem descendants_breadthFirst (root : Nat) :
    t.BreadthFirst root (t.descendants root) ∧
      ∀ n, t.links.length + 1 ≤ n → t.walk root n [root] [] = t.descendants root := by
  obtain ⟨hw, hmore⟩ := (walked_init (t := t) root).walk (t.links.length + 1) (by simp; omega)
  refine ⟨?_, hmore⟩
  -- what the walk ends with is closed under children, so it holds all that is below `root`
  have hall : ∀ n q, t.Below root n q → q ∈ root :: t.descendants root := by
    intro n q hb
    induction hb with
    | refl => exact List.mem_cons_self
    | step _ hc ih => exact hw.closed _ ih _ hc
  have hnd := List.nodup_cons.1 hw.nodup
  refine ⟨hnd.2, fun q => ⟨fun hq => ⟨fun h => hnd.1 (h ▸ hq), hw.reached q hq⟩, ?_⟩,
    hw.parent_first, (List.pairwise_cons.1 hw.nearer_first).2⟩
  rintro ⟨hqr, n, hb⟩
  exact (List.mem_cons.1 (hall _ _ hb)).resolve_left hqr

end ProcessTable

/-! ### Tables read from text -/

/-- A line of `text` names `c` as a child of `p`: its first two words spell `c` and `p` in
decimal, each below `2 ^ 32`. -/
def TableRow (text : String) (c p : Nat) : Prop :=
  ∃ line ∈ lines text, ∃ w₁ w₂ rest, words line = w₁ :: w₂ :: rest ∧
    Numeral w₁ c ∧ c < 2 ^ 32 ∧ Numeral w₂ p ∧ p < 2 ^ 32

theorem Link.ofLine?_eq_some_iff {line : String} {c p : Nat} :
    Link.ofLine? line = some ⟨c, p⟩ ↔ ∃ w₁ w₂ rest, words line = w₁ :: w₂ :: rest ∧
      readWord? 32 w₁ = some c ∧ readWord? 32 w₂ = some p := by
  unfold Link.ofLine?
  rcases words line with _ | ⟨w₁, _ | ⟨w₂, rest⟩⟩
  · simp
  · simp
  · cases h₁ : readWord? 32 w₁ <;> cases h₂ : readWord? 32 w₂ <;> simp [h₁, h₂]

theorem mem_ofText_links {text : String} {c p : Nat} :
    Link.mk c p ∈ (ProcessTable.ofText text).links ↔ TableRow text c p := by
  simp only [ProcessTable.ofText, List.mem_filterMap, Link.ofLine?_eq_some_iff,
    readWord?_eq_some_iff, TableRow, and_assoc]

/-- The descendants of `root` in a table's text: the rows are the lines whose first two words
are process ids, and the walk lists, breadth first and each once, every process other than
`root` that a chain of rows leads to from `root`; it stops because its queue is empty, never for
want of fuel. -/
theorem descendantsIn_breadthFirst (text : String) (root : Nat) :
    (∀ c p, (ProcessTable.ofText text).ChildOf p c ↔ TableRow text c p) ∧
      (∀ n, (ProcessTable.ofText text).links.length + 1 ≤ n →
        (ProcessTable.ofText text).walk root n [root] [] = descendantsIn text root) ∧
      (ProcessTable.ofText text).BreadthFirst root (descendantsIn text root) :=
  ⟨fun _ _ => mem_ofText_links, (ProcessTable.descendants_breadthFirst root).2,
    (ProcessTable.descendants_breadthFirst root).1⟩

/-- A process that is its own parent is one row below itself, yet it is not among its own
descendants. -/
theorem descendantsIn_root_cycle :
    (ProcessTable.ofText "1 1\n").Below 1 1 1 ∧ 1 ∉ descendantsIn "1 1\n" 1 :=
  ⟨.step .refl (show Link.mk 1 1 ∈ _ by decide +kernel), by decide +kernel⟩

end LaunchBench.Host
