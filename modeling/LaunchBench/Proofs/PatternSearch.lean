import LaunchBench.Pattern.Automaton
/-!
Searching with an automaton finds every match.

An automaton accepts a text from a step at a position when its steps lead, forking,
checking assertions where they hold and reading the text's characters, to an accepting
step (`Accepts`). The search runs all threads at once and marks each step with the
position it was reached at, so that no step is followed twice at one position; it still
finds a match whenever the automaton accepts from its start step at some position.

* **`Automaton.close_closed`**: closing the threads at a position, with the fuel the
  search gives, either finds an accepting step or marks every step reachable from the
  stack, the character steps among them waiting for the next character.
* **`Automaton.search_of_accepts`**: the search succeeds on every text that the automaton
  accepts from its start step at some position.
* **`Automaton.Accepts.star`** and **`Automaton.Accepts.of_advance`**: accepting paths
  through a loop over a class of characters and through a run of character steps.

Design notes: the argument is the worklist invariant of a graph traversal (`ClosedUpTo`):
every step marked at the current position has its successors marked or still on the
stack, so once the stack is empty the marked steps are closed under the moves at that
position. The fuel that the search gives suffices because each round either drops a
marked step from the stack or marks a new one, which pushes at most two.
-/

namespace LaunchBench.Pattern

namespace Threads

/-- Whether closing at mark `gen` passes over step `s`: it is marked `gen`, or lies beyond
the marks. -/
def Done (th : Threads) (gen s : Nat) : Prop := th.marks[s]?.getD gen = gen

/-- The number of steps not yet marked `gen`. -/
def pending (th : Threads) (gen : Nat) : Nat := th.marks.toList.countP (· != gen)

/-- A step just marked is passed over. -/
theorem done_mark_self (th : Threads) (gen s : Nat) (w : List Nat) (f : Bool) :
    (Threads.mk (th.marks.setIfInBounds s gen) w f).Done gen s := by
  unfold Done
  rw [Array.getElem?_setIfInBounds_self]
  split <;> rfl

/-- Marking keeps every step that was passed over so. -/
theorem Done.mark {th : Threads} {gen t : Nat} (h : th.Done gen t) (s : Nat) (w : List Nat)
    (f : Bool) : (Threads.mk (th.marks.setIfInBounds s gen) w f).Done gen t := by
  by_cases hst : s = t
  · subst hst
    exact done_mark_self th gen s w f
  · unfold Done at h ⊢
    rw [Array.getElem?_setIfInBounds_ne hst]
    exact h

/-- A step that is not passed over has a mark, so it lies within the marks. -/
theorem lt_size_of_not_done {th : Threads} {gen s : Nat} (h : ¬th.Done gen s) :
    s < th.marks.size := by
  unfold Done at h
  rcases Nat.lt_or_ge s th.marks.size with hs | hs
  · exact hs
  · rw [Array.getElem?_eq_none hs] at h
    exact absurd rfl h

/-- Marking a step that was not yet marked leaves one step fewer pending. -/
theorem pending_mark {th : Threads} {gen s : Nat} (h : ¬th.Done gen s) (w : List Nat) (f : Bool) :
    (Threads.mk (th.marks.setIfInBounds s gen) w f).pending gen + 1 = th.pending gen := by
  unfold Done at h
  cases hs : th.marks[s]? with
  | none => simp [hs] at h
  | some x =>
    have hx : x ≠ gen := by simpa [hs] using h
    have hlt : s < th.marks.toList.length := by
      simpa using (Array.getElem?_eq_some_iff.1 hs).1
    have hget : th.marks.toList[s] = x := by
      simpa using (Array.getElem?_eq_some_iff.1 hs).2
    have hpos : 0 < th.marks.toList.countP (· != gen) :=
      List.countP_pos_iff.2 ⟨x, by rw [← hget]; exact List.getElem_mem hlt, by simpa using hx⟩
    have hxb : (x != gen) = true := by simpa using hx
    simp only [pending, Array.toList_setIfInBounds, List.countP_set hlt, hget, hxb, if_true,
      bne_self_eq_false, Bool.false_eq_true, if_false]
    omega

end Threads

namespace Automaton

variable (m : Automaton)

/-- What being closed asks of one marked step, given the stack still to close: a character
step waits for the next character, the successors of a fork, or of an assertion that
holds, are passed over or on the stack, and an accepting step has been found. -/
structure Closes (before after : Option Char) (gen : Nat) (stack : List Nat) (th : Threads)
    (s : Nat) : Prop where
  chars : ∀ rs n, m.steps[s]? = some (.chars rs n) → s ∈ th.waiting
  fork : ∀ a b, m.steps[s]? = some (.fork a b) →
    (th.Done gen a ∨ a ∈ stack) ∧ (th.Done gen b ∨ b ∈ stack)
  look : ∀ l n, m.steps[s]? = some (.look l n) → l.holds before after →
    th.Done gen n ∨ n ∈ stack
  accept : m.steps[s]? = some .accept → th.found = true

/-- The threads are closed under the moves at one position, up to what is still on the
stack: every step passed over closes. -/
def ClosedUpTo (before after : Option Char) (gen : Nat) (stack : List Nat) (th : Threads) :
    Prop :=
  ∀ s, th.Done gen s → m.Closes before after gen stack th s

variable {m} {before after : Option Char} {gen : Nat}

/-- A step closes still when more is passed over, more waits, and what left the stack is
passed over. -/
theorem Closes.mono {stack stack' : List Nat} {th th' : Threads} {s : Nat}
    (h : m.Closes before after gen stack th s) (hdone : ∀ t, th.Done gen t → th'.Done gen t)
    (hwait : ∀ t ∈ th.waiting, t ∈ th'.waiting)
    (hstack : ∀ t ∈ stack, th'.Done gen t ∨ t ∈ stack') (hfound : th.found = th'.found) :
    m.Closes before after gen stack' th' s := by
  have lift : ∀ t, th.Done gen t ∨ t ∈ stack → th'.Done gen t ∨ t ∈ stack' := by
    rintro t (ht | ht)
    · exact .inl (hdone t ht)
    · exact hstack t ht
  refine ⟨fun rs n hs => hwait s (h.chars rs n hs), fun a b hs => ?_,
    fun l n hs hl => lift n (h.look l n hs hl), fun hs => hfound ▸ h.accept hs⟩
  obtain ⟨ha, hb⟩ := h.fork a b hs
  exact ⟨lift a ha, lift b hb⟩

/-- Marking the step on top of the stack, whose own duties `hs` holds, keeps the threads
closed up to the new stack. -/
theorem ClosedUpTo.mark {stack stack' : List Nat} {th : Threads} {s : Nat} {w : List Nat}
    (h : m.ClosedUpTo before after gen (s :: stack) th) (hstack : ∀ t ∈ stack, t ∈ stack')
    (hwait : ∀ t ∈ th.waiting, t ∈ w)
    (hs : m.Closes before after gen stack' ⟨th.marks.setIfInBounds s gen, w, th.found⟩ s) :
    m.ClosedUpTo before after gen stack' ⟨th.marks.setIfInBounds s gen, w, th.found⟩ := by
  intro t ht
  by_cases hts : t = s
  · exact hts ▸ hs
  · -- `t` was passed over before: it closed up to a stack whose top is now marked
    have hold : th.Done gen t := by
      unfold Threads.Done at ht ⊢
      rwa [Array.getElem?_setIfInBounds_ne (Ne.symm hts)] at ht
    refine (h t hold).mono (fun u hu => hu.mark s w th.found) hwait ?_ rfl
    intro u hu
    rcases List.mem_cons.1 hu with rfl | hu
    · exact .inl (Threads.done_mark_self th gen u w th.found)
    · exact .inr (hstack u hu)

/-- A step already passed over leaves the stack without changing anything else. -/
theorem ClosedUpTo.pop {stack : List Nat} {th : Threads} {s : Nat}
    (h : m.ClosedUpTo before after gen (s :: stack) th) (hs : th.Done gen s) :
    m.ClosedUpTo before after gen stack th := by
  intro t ht
  refine (h t ht).mono (fun _ hu => hu) (fun _ hu => hu) ?_ rfl
  intro u hu
  rcases List.mem_cons.1 hu with rfl | hu
  · exact .inl hs
  · exact .inr hu

/-- Threads with no step marked `gen` are closed up to any stack. -/
theorem closedUpTo_fresh {stack : List Nat} {th : Threads} (hsize : th.marks.size = m.steps.size)
    (hfresh : ∀ x ∈ th.marks.toList, x < gen) : m.ClosedUpTo before after gen stack th := by
  intro s hs
  have hge : m.steps.size ≤ s := by
    rcases Nat.lt_or_ge s th.marks.size with hlt | hge
    · have hget : th.marks[s]? = some th.marks[s] := Array.getElem?_eq_getElem hlt
      have hmem : th.marks[s] ∈ th.marks.toList := by simp
      unfold Threads.Done at hs
      rw [hget] at hs
      exact absurd hs (Nat.ne_of_lt (hfresh _ hmem))
    · omega
  have hnone : m.steps[s]? = none := Array.getElem?_eq_none hge
  exact ⟨by simp [hnone], by simp [hnone], by simp [hnone], by simp [hnone]⟩

/-- Closing keeps the number of marks. -/
theorem close_size (fuel : Nat) (stack : List Nat) (th : Threads) :
    (m.close before after gen fuel stack th).marks.size = th.marks.size := by
  fun_induction m.close before after gen fuel stack th <;> simp_all +zetaDelta

/-- Closing keeps every step passed over. -/
theorem close_done (fuel : Nat) (stack : List Nat) (th : Threads) {t : Nat} (ht : th.Done gen t) :
    (m.close before after gen fuel stack th).Done gen t := by
  fun_induction m.close before after gen fuel stack th with
  | case1 => exact ht
  | case2 => exact ht
  | case3 _ _ _ _ _ ih => exact ih ht
  | case4 _ _ _ _ _ _ _ _ _ ih => exact ih (ht.mark _ _ _)
  | case5 _ _ _ _ _ _ _ _ _ ih => exact ih (ht.mark _ _ _)
  | case6 _ _ _ _ _ _ _ _ _ ih => exact ih (ht.mark _ _ _)
  | case7 => exact ht.mark _ _ _
  | case8 _ _ _ _ _ _ _ ih => exact ih (ht.mark _ _ _)

/-- Closing marks steps with `gen` only. -/
theorem close_marks_le (fuel : Nat) (stack : List Nat) (th : Threads) {b : Nat} (hb : gen ≤ b)
    (h : ∀ x ∈ th.marks.toList, x ≤ b) :
    ∀ x ∈ (m.close before after gen fuel stack th).marks.toList, x ≤ b := by
  have mark : ∀ (th : Threads) (s : Nat), (∀ x ∈ th.marks.toList, x ≤ b) →
      ∀ x ∈ (th.marks.setIfInBounds s gen).toList, x ≤ b := by
    intro th s h x hx
    rw [Array.toList_setIfInBounds] at hx
    rcases List.mem_or_eq_of_mem_set hx with hx | rfl
    · exact h x hx
    · exact hb
  fun_induction m.close before after gen fuel stack th with
  | case1 => exact h
  | case2 => exact h
  | case3 _ _ _ _ _ ih => exact ih h
  | case4 _ _ _ _ _ _ _ _ _ ih => exact ih (mark _ _ h)
  | case5 _ _ _ _ _ _ _ _ _ ih => exact ih (mark _ _ h)
  | case6 _ _ _ _ _ _ _ _ _ ih => exact ih (mark _ _ h)
  | case7 => exact mark _ _ h
  | case8 _ _ _ _ _ _ _ ih => exact ih (mark _ _ h)

/-- What closing from a stack leaves is what it leaves from a stack holding that one's
steps, once the step on top is passed over. -/
theorem closed_cons {r : Threads} {s : Nat} {stack stack' : List Nat}
    (hr : r.found = true ∨ (m.ClosedUpTo before after gen [] r ∧ ∀ t ∈ stack', r.Done gen t))
    (hs : r.Done gen s) (hsub : ∀ t ∈ stack, t ∈ stack') :
    r.found = true ∨ (m.ClosedUpTo before after gen [] r ∧ ∀ t ∈ s :: stack, r.Done gen t) := by
  rcases hr with hf | ⟨hc, hall⟩
  · exact .inl hf
  · refine .inr ⟨hc, fun t ht => ?_⟩
    rcases List.mem_cons.1 ht with rfl | ht
    · exact hs
    · exact hall t (hsub t ht)

/-- Closing with enough fuel either finds an accepting step, or leaves the threads closed
under the moves at the position, with every step of the stack passed over. The fuel
covers the stack and two pushes for each step still to mark. -/
theorem close_closed (fuel : Nat) (stack : List Nat) (th : Threads)
    (hsize : th.marks.size = m.steps.size) (hinv : m.ClosedUpTo before after gen stack th)
    (hfuel : stack.length + 2 * th.pending gen < fuel) :
    (m.close before after gen fuel stack th).found = true ∨
      (m.ClosedUpTo before after gen [] (m.close before after gen fuel stack th) ∧
        ∀ s ∈ stack, (m.close before after gen fuel stack th).Done gen s) := by
  fun_induction m.close before after gen fuel stack th with
  | case1 => omega
  | case2 => exact .inr ⟨hinv, by simp⟩
  | case3 fuel s stack th hs ih =>
    have hs : th.Done gen s := by simpa [Threads.Done] using hs
    have hfuel' : stack.length + 2 * th.pending gen < fuel := by
      simp only [List.length_cons] at hfuel
      omega
    exact closed_cons (ih hsize (hinv.pop hs) hfuel') (close_done _ _ _ hs) fun _ h => h
  | case4 fuel s stack th hs th' rs n hstep ih =>
    -- a character step is marked and waits for the next character
    have hnd : ¬th.Done gen s := by simpa [Threads.Done] using hs
    have hinv' : m.ClosedUpTo before after gen stack
        ⟨th.marks.setIfInBounds s gen, s :: th.waiting, th.found⟩ :=
      hinv.mark (fun _ h => h) (fun _ h => List.mem_cons_of_mem _ h)
        ⟨fun _ _ _ => List.mem_cons_self, by simp [hstep], by simp [hstep], by simp [hstep]⟩
    have hp := Threads.pending_mark hnd (s :: th.waiting) th.found
    have hfuel' : stack.length +
        2 * (Threads.mk (th.marks.setIfInBounds s gen) (s :: th.waiting) th.found).pending gen <
        fuel := by
      simp only [List.length_cons] at hfuel
      omega
    exact closed_cons (ih (by simp [th', hsize]) hinv' hfuel')
      (close_done _ _ _ (Threads.done_mark_self _ _ _ _ _)) fun _ h => h
  | case5 fuel s stack th hs th' l n hstep ih =>
    -- an assertion is marked, and its next step goes on the stack where it holds
    have hnd : ¬th.Done gen s := by simpa [Threads.Done] using hs
    have hlook : m.Closes before after gen (if l.holds before after then n :: stack else stack)
        ⟨th.marks.setIfInBounds s gen, th.waiting, th.found⟩ s := by
      refine ⟨by simp [hstep], by simp [hstep], ?_, by simp [hstep]⟩
      simp only [hstep, Option.some.injEq, Step.look.injEq]
      rintro l' n' ⟨rfl, rfl⟩ hl
      exact .inr (by simp [hl])
    have hinv' := hinv.mark (fun t ht => by split <;> simp [ht]) (fun _ h => h) hlook
    have hp := Threads.pending_mark hnd th.waiting th.found
    have hlen : (if l.holds before after then n :: stack else stack).length ≤ stack.length + 1 := by
      split <;> simp
    have hfuel' : (if l.holds before after then n :: stack else stack).length +
        2 * (Threads.mk (th.marks.setIfInBounds s gen) th.waiting th.found).pending gen < fuel := by
      simp only [List.length_cons] at hfuel
      omega
    exact closed_cons (ih (by simp [th', hsize]) hinv' hfuel')
      (close_done _ _ _ (Threads.done_mark_self _ _ _ _ _)) fun t ht => by split <;> simp [ht]
  | case6 fuel s stack th hs th' a b hstep ih =>
    -- a fork is marked, and both its branches go on the stack
    have hnd : ¬th.Done gen s := by simpa [Threads.Done] using hs
    have hfork : m.Closes before after gen (a :: b :: stack)
        ⟨th.marks.setIfInBounds s gen, th.waiting, th.found⟩ s := by
      refine ⟨by simp [hstep], ?_, by simp [hstep], by simp [hstep]⟩
      simp only [hstep, Option.some.injEq, Step.fork.injEq]
      rintro a' b' ⟨rfl, rfl⟩
      exact ⟨.inr (by simp), .inr (by simp)⟩
    have hinv' := hinv.mark (fun t ht => by simp [ht]) (fun _ h => h) hfork
    have hp := Threads.pending_mark hnd th.waiting th.found
    have hfuel' : (a :: b :: stack).length +
        2 * (Threads.mk (th.marks.setIfInBounds s gen) th.waiting th.found).pending gen < fuel := by
      simp only [List.length_cons] at hfuel ⊢
      omega
    exact closed_cons (ih (by simp [th', hsize]) hinv' hfuel')
      (close_done _ _ _ (Threads.done_mark_self _ _ _ _ _)) fun t ht => by simp [ht]
  | case7 fuel s stack th hs th' hstep => exact .inl rfl
  | case8 fuel s stack th hs th' hstep ih =>
    -- a step within the marks has a step of the automaton
    have hlt := Threads.lt_size_of_not_done (by simpa [Threads.Done] using hs)
    rw [Array.getElem?_eq_none_iff] at hstep
    omega

/-! ### Searching a text -/

variable (m)

/-- The automaton accepts `text` from step `s` at position `i`: its steps lead from there,
forking, passing assertions that hold and reading the text's characters, to an accepting
step. -/
inductive Accepts (text : Array Char) : Nat → Nat → Prop where
  | accept {i s : Nat} : m.steps[s]? = some .accept → Accepts text i s
  | forkLeft {i s a b : Nat} : m.steps[s]? = some (.fork a b) → Accepts text i a →
      Accepts text i s
  | forkRight {i s a b : Nat} : m.steps[s]? = some (.fork a b) → Accepts text i b →
      Accepts text i s
  | look {i s n : Nat} {l : Look} : m.steps[s]? = some (.look l n) →
      l.holds (if i = 0 then none else text[i - 1]?) text[i]? = true → Accepts text i n →
      Accepts text i s
  | chars {i s n : Nat} {rs : Array (Nat × Nat)} {c : Char} : m.steps[s]? = some (.chars rs n) →
      text[i]? = some c → rangesContain rs c.toNat 0 rs.size = true → Accepts text (i + 1) n →
      Accepts text i s

/-- The threads after closing at position `i` of a text, from the steps that the previous
character led to and the start step. -/
def closeAt (text : Array Char) (i : Nat) (seeds : List Nat) (marks : Array Nat) : Threads :=
  m.close (if i = 0 then none else text[i - 1]?) text[i]? (i + 1)
    (2 * m.steps.size + (seeds ++ [m.start]).length + 1) (seeds ++ [m.start]) ⟨marks, [], false⟩

variable {m} {text : Array Char}

theorem runFrom_found {fuel i : Nat} {seeds : List Nat} {marks : Array Nat}
    (h : (m.closeAt text i seeds marks).found = true) :
    m.runFrom text (fuel + 1) i seeds marks = true := by
  show (if (m.closeAt text i seeds marks).found then true else _) = true
  rw [if_pos h]

theorem runFrom_next {fuel i : Nat} {seeds : List Nat} {marks : Array Nat} {c : Char}
    (h : (m.closeAt text i seeds marks).found = false) (hc : text[i]? = some c) :
    m.runFrom text (fuel + 1) i seeds marks =
      m.runFrom text fuel (i + 1) (m.advance c (m.closeAt text i seeds marks).waiting.reverse)
        (m.closeAt text i seeds marks).marks := by
  simp only [closeAt, hc] at h ⊢
  simp only [runFrom, hc, h, Bool.false_eq_true, if_false]

/-- At a position whose marks are all older, closing either finds an accepting step or
leaves the threads closed with the seeds and the start step passed over. -/
theorem closeAt_closed (text : Array Char) (i : Nat) (seeds : List Nat) {marks : Array Nat}
    (hsize : marks.size = m.steps.size) (hfresh : ∀ x ∈ marks.toList, x ≤ i) :
    (m.closeAt text i seeds marks).found = true ∨
      (m.ClosedUpTo (if i = 0 then none else text[i - 1]?) text[i]? (i + 1) []
          (m.closeAt text i seeds marks) ∧
        ∀ s ∈ seeds ++ [m.start], (m.closeAt text i seeds marks).Done (i + 1) s) := by
  have hpending : (Threads.mk marks [] false).pending (i + 1) ≤ m.steps.size := by
    simp only [Threads.pending, ← hsize]
    exact Nat.le_trans List.countP_le_length (by simp)
  apply close_closed _ _ _ hsize
  · exact closedUpTo_fresh hsize fun x hx => Nat.lt_succ_of_le (hfresh x hx)
  · omega

/-- The marks after closing at position `i` keep their number and are at most `i + 1`. -/
theorem closeAt_marks (text : Array Char) (i : Nat) (seeds : List Nat) {marks : Array Nat}
    (hsize : marks.size = m.steps.size) (hfresh : ∀ x ∈ marks.toList, x ≤ i) :
    (m.closeAt text i seeds marks).marks.size = m.steps.size ∧
      ∀ x ∈ (m.closeAt text i seeds marks).marks.toList, x ≤ i + 1 :=
  ⟨(close_size _ _ _).trans hsize,
    close_marks_le _ _ _ (Nat.le_refl _) fun x hx => Nat.le_succ_of_le (hfresh x hx)⟩

/-- A step that closing at position `i` passes over closes there, unless an accepting step
was found. -/
theorem closeAt_closes {i s : Nat} {seeds : List Nat} {marks : Array Nat}
    (hsize : marks.size = m.steps.size) (hfresh : ∀ x ∈ marks.toList, x ≤ i)
    (hs : (m.closeAt text i seeds marks).found = true ∨ (m.closeAt text i seeds marks).Done (i + 1) s) :
    (m.closeAt text i seeds marks).found = true ∨
      m.Closes (if i = 0 then none else text[i - 1]?) text[i]? (i + 1) [] (m.closeAt text i seeds marks) s := by
  rcases closeAt_closed text i seeds hsize hfresh with hf | ⟨hc, -⟩
  · exact .inl hf
  · exact hs.imp id (hc s)

/-- From a position where the automaton accepts from a step that closing passes over, the
search succeeds. The induction follows the accepting path; a character step hands its
next step to the following position through the waiting steps. -/
theorem runFrom_of_accepts {i s : Nat} (h : m.Accepts text i s) :
    ∀ (fuel : Nat) (seeds : List Nat) (marks : Array Nat), text.size - i < fuel →
      marks.size = m.steps.size → (∀ x ∈ marks.toList, x ≤ i) →
      ((m.closeAt text i seeds marks).found = true ∨ (m.closeAt text i seeds marks).Done (i + 1) s) →
      m.runFrom text fuel i seeds marks = true := by
  induction h with
  | @accept i s hstep =>
    intro fuel seeds marks hfuel hsize hfresh hs
    obtain ⟨fuel, rfl⟩ : ∃ f, fuel = f + 1 := ⟨fuel - 1, by omega⟩
    rcases closeAt_closes hsize hfresh hs with hf | hcl
    · exact runFrom_found hf
    · exact runFrom_found (hcl.accept hstep)
  | @forkLeft i s a b hstep _ ih =>
    intro fuel seeds marks hfuel hsize hfresh hs
    refine ih fuel seeds marks hfuel hsize hfresh ?_
    exact (closeAt_closes hsize hfresh hs).imp id
      fun hcl => (hcl.fork a b hstep).1.resolve_right List.not_mem_nil
  | @forkRight i s a b hstep _ ih =>
    intro fuel seeds marks hfuel hsize hfresh hs
    refine ih fuel seeds marks hfuel hsize hfresh ?_
    exact (closeAt_closes hsize hfresh hs).imp id
      fun hcl => (hcl.fork a b hstep).2.resolve_right List.not_mem_nil
  | @look i s n l hstep hl _ ih =>
    intro fuel seeds marks hfuel hsize hfresh hs
    refine ih fuel seeds marks hfuel hsize hfresh ?_
    exact (closeAt_closes hsize hfresh hs).imp id
      fun hcl => (hcl.look l n hstep hl).resolve_right List.not_mem_nil
  | @chars i s n rs c hstep hc hr _ ih =>
    intro fuel seeds marks hfuel hsize hfresh hs
    obtain ⟨fuel, rfl⟩ : ∃ f, fuel = f + 1 := ⟨fuel - 1, by omega⟩
    cases hf : (m.closeAt text i seeds marks).found with
    | true => exact runFrom_found hf
    | false =>
      have hcl := (closeAt_closes hsize hfresh hs).resolve_left (by simp [hf])
      -- the character step waits, and reading `c` leads it to `n` at the next position
      have hwait : s ∈ (m.closeAt text i seeds marks).waiting := hcl.chars rs n hstep
      have hn : n ∈ m.advance c (m.closeAt text i seeds marks).waiting.reverse :=
        List.mem_filterMap.2 ⟨s, List.mem_reverse.2 hwait, by simp [hstep, hr]⟩
      have hlt : i < text.size := (Array.getElem?_eq_some_iff.1 hc).1
      rw [runFrom_next hf hc]
      obtain ⟨hsize', hfresh'⟩ := closeAt_marks text i seeds hsize hfresh
      refine ih fuel _ _ (by omega) hsize' hfresh' ?_
      rcases closeAt_closed text (i + 1)
          (m.advance c (m.closeAt text i seeds marks).waiting.reverse) hsize' hfresh' with
        hf' | ⟨-, hall⟩
      · exact .inl hf'
      · exact .inr (hall n (List.mem_append_left _ hn))

/-- The search succeeds on every text that the automaton accepts from its start step at
some position. -/
theorem search_of_accepts {i : Nat} (hi : i ≤ text.size) (h : m.Accepts text i m.start) :
    m.search text = true := by
  -- walk the search from position `k` up to `i`, where the start step is closed again
  have walk : ∀ d k (seeds : List Nat) (marks : Array Nat), k + d = i →
      marks.size = m.steps.size → (∀ x ∈ marks.toList, x ≤ k) →
      m.runFrom text (text.size + 1 - k) k seeds marks = true := by
    intro d
    induction d with
    | zero =>
      intro k seeds marks hk hsize hfresh
      subst hk
      refine runFrom_of_accepts h _ seeds marks (by omega) hsize hfresh ?_
      rcases closeAt_closed text k seeds hsize hfresh with hf | ⟨-, hall⟩
      · exact .inl hf
      · exact .inr (hall m.start (by simp))
    | succ d ih =>
      intro k seeds marks hk hsize hfresh
      obtain ⟨c, hc⟩ : ∃ c, text[k]? = some c := ⟨text[k], Array.getElem?_eq_getElem (by omega)⟩
      have hfuel : text.size + 1 - k = (text.size + 1 - (k + 1)) + 1 := by omega
      rw [hfuel]
      cases hf : (m.closeAt text k seeds marks).found with
      | true => exact runFrom_found hf
      | false =>
        rw [runFrom_next hf hc]
        obtain ⟨hsize', hfresh'⟩ := closeAt_marks text k seeds hsize hfresh
        exact ih (k + 1) _ _ (by omega) hsize' hfresh'
  exact walk i 0 [] _ (by simp) (by simp) (by simp)

/-! ### Accepting paths through common shapes -/

theorem foldl_advance_nil (cs : List Char) : cs.foldl (fun ss c => m.advance c ss) [] = [] := by
  induction cs with
  | nil => rfl
  | cons c cs ih => exact ih

/-- Reading a character from one step leads to one step only when that step reads it. -/
theorem advance_single {c : Char} {s n : Nat} (h : m.advance c [s] = [n]) :
    ∃ rs, m.steps[s]? = some (.chars rs n) ∧ rangesContain rs c.toNat 0 rs.size = true := by
  simp only [advance, List.filterMap_cons, List.filterMap_nil] at h
  cases hs : m.steps[s]? with
  | none => simp [hs] at h
  | some st =>
    cases st with
    | chars rs next =>
      by_cases hr : rangesContain rs c.toNat 0 rs.size = true
      · simp only [hs, hr, if_true, List.cons.injEq, and_true] at h
        exact ⟨rs, by rw [h], hr⟩
      · simp [hs, hr] at h
    | look => simp [hs] at h
    | fork => simp [hs] at h
    | accept => simp [hs] at h

theorem advance_single_length (c : Char) (s : Nat) : (m.advance c [s]).length ≤ 1 := by
  simp only [advance, List.filterMap_cons, List.filterMap_nil]
  split <;> simp

/-- A run of character steps, as `advance` follows it from `s` to `t` over `cs`: where the
text reads `cs`, acceptance from `t` after it gives acceptance from `s` before it. -/
theorem Accepts.of_advance {pre cs post : List Char} {s t : Nat}
    (h : cs.foldl (fun ss c => m.advance c ss) [s] = [t])
    (hacc : m.Accepts (pre ++ cs ++ post).toArray (pre.length + cs.length) t) :
    m.Accepts (pre ++ cs ++ post).toArray pre.length s := by
  induction cs generalizing pre s with
  | nil =>
    simp only [List.foldl_nil, List.cons.injEq, and_true] at h
    simpa [h] using hacc
  | cons c cs ih =>
    rw [List.foldl_cons] at h
    -- one character leads from `s` to at most one step, which the rest of the run starts from
    match hn : m.advance c [s] with
    | [] => simp [hn, foldl_advance_nil] at h
    | [n] =>
      obtain ⟨rs, hs, hrs⟩ := advance_single hn
      have hnext := @ih (pre ++ [c]) n (by rwa [hn] at h)
        (by simpa [Nat.add_assoc, Nat.add_comm 1] using hacc)
      exact .chars hs (by simp) hrs (by simpa using hnext)
    | _ :: _ :: _ =>
      have := advance_single_length (m := m) c s
      simp [hn] at this

/-- A loop over a class of characters, a fork whose first branch reads one character of the
class and comes back: where the text reads such characters, acceptance from the second
branch after them gives acceptance from the fork before them. -/
theorem Accepts.star {pre mid post : List Char} {f a b : Nat} {rs : Array (Nat × Nat)}
    (hf : m.steps[f]? = some (.fork a b)) (ha : m.steps[a]? = some (.chars rs f))
    (hmid : ∀ c ∈ mid, rangesContain rs c.toNat 0 rs.size = true)
    (hacc : m.Accepts (pre ++ mid ++ post).toArray (pre.length + mid.length) b) :
    m.Accepts (pre ++ mid ++ post).toArray pre.length f := by
  induction mid generalizing pre with
  | nil => exact .forkRight hf (by simpa using hacc)
  | cons c mid ih =>
    have hnext := @ih (pre ++ [c]) (fun d hd => hmid d (List.mem_cons_of_mem c hd))
      (by simpa [Nat.add_assoc, Nat.add_comm 1] using hacc)
    exact .forkLeft hf (.chars ha (by simp) (hmid c List.mem_cons_self) (by simpa using hnext))

/-- An end-of-text assertion before an accepting step accepts at the end of every text. -/
theorem Accepts.finish {s n : Nat} (hs : m.steps[s]? = some (.look .finish n))
    (hn : m.steps[n]? = some .accept) : m.Accepts text text.size s :=
  .look hs (by simp [Look.holds]) (.accept hn)

end Automaton

end LaunchBench.Pattern
