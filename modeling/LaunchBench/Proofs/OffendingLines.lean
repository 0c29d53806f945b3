import Mathlib.Data.String.Basic
import Mathlib.Data.List.Sort
import Mathlib.Data.List.Forall2
import Mathlib.Data.List.Infix
import LaunchBench.Log.File
import LaunchBench.Proofs.PatternSearch
/-!
The offending lines of a log.

A log's offending lines are the lines with an error or warning signal that no whitelist
pattern covers, sorted and without repeats. On Windows, once one of them shows the
shutdown race, the lines that a shutdown race pattern matches are dropped from them.

* **`mem_offendingLines`**: a line is offending exactly when it is a line of the log,
  classified offending, and not race noise dropped on a Windows host.
* **`offendingLines_pairwise`**: the offending lines are sorted strictly, so they depend
  only on the set of the log's lines.
* **`Whitelist.isShutdownRaceNoise_of_containsText`**: every line that shows the race is
  race noise for a built whitelist, so on Windows no offending line shows it.

Design notes: the last fact is read off the automaton that the first race pattern
compiles to. Evaluating the compiler once gives that automaton (`compile_raceLinePattern`),
and an accepting path through its two loops and the marker between them
(`raceAutomaton_accepts`) gives a match by `Automaton.search_of_accepts`.
-/

namespace LaunchBench

open Pattern

namespace Pattern

deriving instance DecidableEq for Step
deriving instance DecidableEq for Automaton

end Pattern

/-! ### Lines of a text -/

namespace Text

theorem lf_not_mem_lineCharsFrom (cs cur : List Char) (hcur : '\n' ∉ cur) :
    ∀ x ∈ lineCharsFrom cs cur, '\n' ∉ x := by
  fun_induction lineCharsFrom cs cur with
  | case1 cur h => simp
  | case2 cur h => simpa using hcur
  | case3 rest cur ih =>
    intro x hx
    rcases List.mem_cons.1 hx with rfl | hx
    · -- the finished line is the current one, less a final carriage return
      have hsub : (dropReturn cur.reverse).Sublist cur.reverse := by
        unfold dropReturn
        split
        · exact List.dropLast_sublist _
        · exact List.Sublist.refl _
      exact fun h => hcur (List.mem_reverse.1 (hsub.subset h))
    · exact ih (List.not_mem_nil) x hx
  | case4 c rest cur hc ih => exact ih (by simp [hcur, Ne.symm hc])

/-- A line of a text holds no line feed. -/
theorem lf_not_mem_of_mem_lines {content l : String} (hl : l ∈ lines content) :
    '\n' ∉ l.toList := by
  obtain ⟨x, hx, rfl⟩ := List.mem_map.1 hl
  rw [String.toList_ofList]
  exact lf_not_mem_lineCharsFrom _ [] List.not_mem_nil x hx

theorem suffixes_eq_tails {α : Type} (xs : List α) : suffixes xs = xs.tails := by
  induction xs with
  | nil => rfl
  | cons x xs ih => simp [suffixes, ih]

/-- A text contains another when it splits around it. -/
theorem containsText_iff {hay needle : String} :
    containsText hay needle = true ↔ ∃ pre post, hay.toList = pre ++ needle.toList ++ post := by
  simp only [containsText, suffixes_eq_tails, List.any_eq_true, List.mem_tails,
    List.isPrefixOf_iff_prefix]
  constructor
  · rintro ⟨t, ⟨pre, hpre⟩, post, rfl⟩
    exact ⟨pre, post, by simp [← hpre]⟩
  · rintro ⟨pre, post, h⟩
    exact ⟨needle.toList ++ post, ⟨pre, by simp [h]⟩, post, rfl⟩

end Text

/-! ### Sorting without repeats -/

/-- `sortedUnique` sorts strictly and keeps exactly the texts of its input. -/
theorem sortedUnique_spec (xs : List String) :
    (sortedUnique xs).Pairwise (· < ·) ∧ ∀ x, x ∈ sortedUnique xs ↔ x ∈ xs := by
  have hsorted := @List.pairwise_mergeSort String (fun a b => decide (a ≤ b))
    (fun a b c hab hbc => by simp only [decide_eq_true_eq] at *; exact le_trans hab hbc)
    (fun a b => by simpa using le_total a b) xs
  have hmem : ∀ x, x ∈ xs.mergeSort (fun a b => decide (a ≤ b)) ↔ x ∈ xs :=
    fun x => List.mem_mergeSort
  unfold sortedUnique
  generalize xs.mergeSort (fun a b => decide (a ≤ b)) = L at hsorted hmem ⊢
  simp only [← hmem]
  clear hmem
  -- the fold keeps a text unless it equals the head of what the sorted rest gave
  induction L with
  | nil => simp
  | cons x L ih =>
    obtain ⟨hx, hL⟩ := List.pairwise_cons.1 hsorted
    obtain ⟨ihp, ihm⟩ := ih hL
    rw [List.foldr_cons]
    split
    · rename_i y ys hy
      rw [hy] at ihp ihm
      simp only [hy]
      have hyL : y ∈ L := (ihm y).1 List.mem_cons_self
      by_cases hxy : x = y
      · subst hxy
        refine ⟨by rwa [if_pos rfl], fun z => ?_⟩
        rw [if_pos rfl, ihm z, List.mem_cons]
        exact ⟨.inr, fun h => h.elim (fun hz => hz ▸ hyL) id⟩
      · rw [if_neg hxy]
        refine ⟨List.pairwise_cons.2 ⟨fun z hz => ?_, ihp⟩, fun z => ?_⟩
        · have hxz : x ≤ z := by simpa using hx z ((ihm z).1 hz)
          rcases List.mem_cons.1 hz with rfl | hz
          · exact lt_of_le_of_ne hxz hxy
          · have hyz : y < z := List.rel_of_pairwise_cons ihp hz
            exact lt_of_le_of_lt (by simpa using hx y hyL) hyz
        · rw [List.mem_cons, ihm z, List.mem_cons]
    · rename_i hnil
      rw [hnil] at ihm
      refine ⟨List.pairwise_singleton _ _, fun z => ?_⟩
      have hL : ∀ z, z ∉ L := fun z hz => List.not_mem_nil ((ihm z).2 hz)
      simp [hL]

/-! ### Compiled whitelists -/

/-- Compiling patterns succeeds when each compiles, to the list of their compilations. -/
theorem compileAnchored_eq_ok_iff (ps : List String) (cs : List Compiled) :
    compileAnchored ps = .ok cs ↔ List.Forall₂ (fun p c => compile (anchored p) = .ok c) ps cs := by
  induction ps generalizing cs with
  | nil =>
    cases cs with
    | nil => exact ⟨fun _ => .nil, fun _ => rfl⟩
    | cons c cs => exact ⟨fun h => (by cases h), fun h => (by cases h)⟩
  | cons p ps ih =>
    -- the head compiles first; the rest is compiled only after it
    unfold compileAnchored
    cases hp : compile (anchored p) with
    | error e => cases cs <;> simp [hp]
    | ok c' =>
      cases cs with
      | nil => cases compileAnchored ps <;> simp [Except.map]
      | cons c cs =>
        rw [List.forall₂_cons, ← ih, hp]
        cases compileAnchored ps <;> simp [Except.map]

/-- Patterns compile exactly when each of them does. -/
theorem compileAnchored_toBool (ps : List String) :
    (compileAnchored ps).toBool = ps.all fun p => (compile (anchored p)).toBool := by
  induction ps with
  | nil => rfl
  | cons p ps ih =>
    unfold compileAnchored
    rw [List.all_cons, ← ih]
    cases compile (anchored p) <;> cases compileAnchored ps <;> rfl

namespace Whitelist

variable {ps : List String} {os : OsFamily} {w : Whitelist}

/-- A whitelist is built exactly when each of its patterns compiles: the baseline, the
application's own, the host family's and the race patterns. -/
theorem build_toBool (ps : List String) (os : OsFamily) :
    (build ps os).toBool = (baselinePatterns ++ ps ++ osPatterns os ++ shutdownRacePatterns).all
      fun p => (compile (anchored p)).toBool := by
  simp only [List.all_append, ← compileAnchored_toBool]
  unfold build
  generalize compileAnchored baselinePatterns = base
  generalize compileAnchored ps = own
  generalize compileAnchored (osPatterns os) = osSet
  generalize compileAnchored shutdownRacePatterns = race
  cases base <;> cases own <;> cases osSet <;> cases race <;> rfl

/-- A built whitelist is for its host family and holds the compiled race patterns. -/
theorem build_eq_ok (hw : build ps os = .ok w) :
    w.os = os ∧ compileAnchored shutdownRacePatterns = .ok w.shutdownRace := by
  -- the compiled lists stay abstract, so that nothing runs the compiler on the fixed patterns
  unfold build at hw
  generalize compileAnchored baselinePatterns = base at hw
  generalize compileAnchored ps = own at hw
  generalize compileAnchored (osPatterns os) = osSet at hw
  generalize compileAnchored shutdownRacePatterns = race at hw ⊢
  cases base <;> cases own <;> cases osSet <;> cases race <;>
    simp only [bind, Except.bind, pure, Except.pure, reduceCtorEq, Except.ok.injEq] at hw
  subst hw
  exact ⟨rfl, rfl⟩

theorem handlesShutdownRace_iff (hw : build ps os = .ok w) :
    w.handlesShutdownRace = true ↔ os = .windows := by
  rw [handlesShutdownRace, (build_eq_ok hw).1]
  cases os <;> simp [OsFamily.isWindows]

/-- A line is race noise when one of the race patterns matches it. -/
theorem isShutdownRaceNoise_iff (hw : build ps os = .ok w) (l : String) :
    w.isShutdownRaceNoise l = true ↔
      ∃ p ∈ shutdownRacePatterns, ∃ c, compile (anchored p) = .ok c ∧ c.isMatch l = true := by
  have hall := (compileAnchored_eq_ok_iff _ _).1 (build_eq_ok hw).2
  rw [isShutdownRaceNoise, List.any_eq_true]
  generalize shutdownRacePatterns = qs at hall ⊢
  generalize w.shutdownRace = cs at hall ⊢
  induction hall with
  | nil => simp
  | @cons p c qs cs hpc _ ih =>
    simp only [List.mem_cons, exists_eq_or_imp, ih]
    constructor
    · rintro (hc | hc)
      · exact .inl ⟨c, hpc, hc⟩
      · exact .inr hc
    · rintro (⟨c', hc', hm⟩ | hc)
      · rw [hpc, Except.ok.injEq] at hc'
        exact .inl (hc' ▸ hm)
      · exact .inr hc

end Whitelist

/-! ### The automaton of the race line pattern -/

/-- The code points of every character but a line feed. -/
def anyButLineFeed : Array (Nat × Nat) := #[(0, 9), (11, 55295), (57344, 1114111)]

/-- The step that reads one character. -/
def readsChar (c : Char) (next : Nat) : Pattern.Step := .chars #[(c.toNat, c.toNat)] next

/-- The automaton of `^(?:.*Shutdown in progress.*)$`: from the start assertion (26), a
loop over any character (24, 25), the marker read backwards from step 23 to step 4, a second
loop (2, 3), and the end assertion (1) before the accepting step (0). -/
def raceAutomaton : Automaton :=
  ⟨#[.accept, .look .finish 0, .fork 3 1, .chars anyButLineFeed 2,
    readsChar 's' 2, readsChar 's' 4, readsChar 'e' 5, readsChar 'r' 6, readsChar 'g' 7,
    readsChar 'o' 8, readsChar 'r' 9, readsChar 'p' 10, readsChar ' ' 11, readsChar 'n' 12,
    readsChar 'i' 13, readsChar ' ' 14, readsChar 'n' 15, readsChar 'w' 16, readsChar 'o' 17,
    readsChar 'd' 18, readsChar 't' 19, readsChar 'u' 20, readsChar 'h' 21, readsChar 'S' 22,
    .fork 25 23, .chars anyButLineFeed 24, .look .start 24], 26⟩

theorem compile_raceLinePattern :
    (compile (anchored ".*Shutdown in progress.*")).toOption.map (·.automaton) =
      some raceAutomaton := by
  decide +kernel

/-- Every character but a line feed lies in `anyButLineFeed`. -/
theorem rangesContain_anyButLineFeed (c : Char) (hc : c ≠ '\n') :
    rangesContain anyButLineFeed c.toNat 0 anyButLineFeed.size = true := by
  have hn : c.toNat ≠ 10 := fun h => hc (Char.toNat_inj.1 h)
  have hval : c.toNat < 0xd800 ∨ (0xdfff < c.toNat ∧ c.toNat < 0x110000) := by
    have h := c.valid
    simp only [UInt32.isValidChar, Nat.isValidChar] at h
    exact h
  have e0 : anyButLineFeed[0]? = some (0, 9) := rfl
  have e1 : anyButLineFeed[1]? = some (11, 55295) := rfl
  have e2 : anyButLineFeed[2]? = some (57344, 1114111) := rfl
  have hs : anyButLineFeed.size = 3 := rfl
  -- the search probes the middle range, then the first or the last
  rw [hs, rangesContain]
  simp only [Nat.reduceAdd, Nat.reduceDiv, e1, if_pos (show 0 < 3 by decide)]
  split
  · rw [rangesContain]
    simp only [Nat.reduceAdd, Nat.reduceDiv, e0, if_pos (show 0 < 1 by decide), Nat.not_lt_zero,
      if_false]
    rw [if_neg (by omega)]
  · split
    · rw [rangesContain]
      simp only [Nat.reduceAdd, Nat.reduceDiv, e2, if_pos (show 2 < 3 by decide)]
      rw [if_neg (by omega), if_neg (by omega)]
    · rfl

theorem raceAutomaton_reads_marker :
    shutdownRaceMarker.toList.foldl (fun ss c => raceAutomaton.advance c ss) [23] = [2] := by
  decide +kernel

/-- The race automaton accepts every line that shows the marker. -/
theorem raceAutomaton_accepts {pre post : List Char} (hpre : '\n' ∉ pre) (hpost : '\n' ∉ post) :
    raceAutomaton.Accepts (pre ++ shutdownRaceMarker.toList ++ post).toArray 0 26 := by
  have hany : ∀ cs : List Char, '\n' ∉ cs → ∀ c ∈ cs,
      rangesContain anyButLineFeed c.toNat 0 anyButLineFeed.size = true :=
    fun cs hcs c hc => rangesContain_anyButLineFeed c (fun h => hcs (h ▸ hc))
  -- after the marker, the closing loop runs to the end of the line
  have hend : raceAutomaton.Accepts (pre ++ shutdownRaceMarker.toList ++ post).toArray
      (pre ++ shutdownRaceMarker.toList).length 2 := by
    have hfin := @Automaton.Accepts.finish raceAutomaton
      (pre ++ shutdownRaceMarker.toList ++ post).toArray 1 0 rfl rfl
    have h := @Automaton.Accepts.star raceAutomaton (pre ++ shutdownRaceMarker.toList) post []
      2 3 1 anyButLineFeed rfl rfl (hany post hpost) (by simpa [Nat.add_assoc] using hfin)
    simpa using h
  -- the marker is read literally
  have hmark : raceAutomaton.Accepts (pre ++ shutdownRaceMarker.toList ++ post).toArray
      pre.length 23 :=
    Automaton.Accepts.of_advance raceAutomaton_reads_marker (by simpa using hend)
  -- before it, the opening loop runs from the start of the line
  have hstart := @Automaton.Accepts.star raceAutomaton [] pre (shutdownRaceMarker.toList ++ post)
    24 25 23 anyButLineFeed rfl rfl (hany pre hpre) (by simpa using hmark)
  exact .look (s := 26) rfl (by simp [Look.holds]) (by simpa using hstart)

/-- Every line that shows the shutdown race is race noise. -/
theorem Whitelist.isShutdownRaceNoise_of_containsText {ps : List String} {os : OsFamily}
    {w : Whitelist} (hw : Whitelist.build ps os = .ok w) {l : String} (hl : '\n' ∉ l.toList)
    (hm : Text.containsText l shutdownRaceMarker = true) : w.isShutdownRaceNoise l = true := by
  obtain ⟨c, hc, hauto⟩ : ∃ c, compile (anchored ".*Shutdown in progress.*") = .ok c ∧
      c.automaton = raceAutomaton := by
    have h := compile_raceLinePattern
    cases hc : compile (anchored ".*Shutdown in progress.*") with
    | error e => rw [hc] at h; cases h
    | ok c => rw [hc] at h; exact ⟨c, rfl, Option.some.inj h⟩
  obtain ⟨pre, post, hsplit⟩ := Text.containsText_iff.1 hm
  have hpre : '\n' ∉ pre := fun h => hl (by simp [hsplit, h])
  have hpost : '\n' ∉ post := fun h => hl (by simp [hsplit, h])
  refine (isShutdownRaceNoise_iff hw l).2 ⟨_, by simp [shutdownRacePatterns], c, hc, ?_⟩
  rw [Compiled.isMatch, hauto, hsplit]
  exact Automaton.search_of_accepts (Nat.zero_le _) (raceAutomaton_accepts hpre hpost)

/-! ### Offending lines -/

variable {w : Whitelist} {content : String}

/-- A line is offending when it is a line of the log classified offending, unless the
host handles the shutdown race, some offending line shows it, and the line is race noise. -/
theorem mem_offendingLines {l : String} :
    l ∈ offendingLines w content ↔
      (l ∈ Text.lines content ∧ classify w l = .offending) ∧
        ¬(w.handlesShutdownRace = true ∧
          (∃ l' ∈ Text.lines content, classify w l' = .offending ∧
            Text.containsText l' shutdownRaceMarker = true) ∧
          w.isShutdownRaceNoise l = true) := by
  have hfound := (sortedUnique_spec ((Text.lines content).filter fun l => classify w l = .offending)).2
  simp only [List.mem_filter, decide_eq_true_eq] at hfound
  dsimp only [offendingLines]
  split
  · -- the race shows: race noise is dropped
    rename_i hrace
    simp only [Bool.and_eq_true, List.any_eq_true, hfound] at hrace
    obtain ⟨hhandles, l', ⟨hl', ho'⟩, hm'⟩ := hrace
    rw [List.mem_filter, hfound, Bool.not_eq_true']
    constructor
    · rintro ⟨hl, hn⟩
      exact ⟨hl, fun ⟨_, _, h⟩ => by simp [h] at hn⟩
    · rintro ⟨hl, hn⟩
      refine ⟨hl, ?_⟩
      cases h : w.isShutdownRaceNoise l
      · rfl
      · exact absurd ⟨hhandles, ⟨l', hl', ho', hm'⟩, h⟩ hn
  · -- otherwise every offending line stays
    rename_i hrace
    rw [hfound]
    refine ⟨fun hl => ⟨hl, ?_⟩, fun h => h.1⟩
    rintro ⟨hhandles, ⟨l', hl', ho', hm'⟩, -⟩
    simp only [Bool.and_eq_true, List.any_eq_true, hfound, not_and] at hrace
    exact hrace hhandles ⟨l', ⟨hl', ho'⟩, hm'⟩

/-- The offending lines are sorted strictly, so they hold no repeats. -/
theorem offendingLines_pairwise : (offendingLines w content).Pairwise (· < ·) := by
  have hsorted :=
    (sortedUnique_spec ((Text.lines content).filter fun l => classify w l = .offending)).1
  dsimp only [offendingLines]
  split
  · exact hsorted.filter _
  · exact hsorted

/-- The offending lines depend only on the set of the log's lines. -/
theorem offendingLines_congr {content' : String}
    (h : ∀ l, l ∈ Text.lines content ↔ l ∈ Text.lines content') :
    offendingLines w content = offendingLines w content' :=
  offendingLines_pairwise.eq_of_mem_iff offendingLines_pairwise fun l => by
    simp only [mem_offendingLines, h]

/-- Without the race exemption, a log with more lines has more offending lines. -/
theorem offendingLines_mono (hw : w.handlesShutdownRace = false) {content' : String}
    (h : ∀ l ∈ Text.lines content, l ∈ Text.lines content') :
    ∀ l ∈ offendingLines w content, l ∈ offendingLines w content' := by
  intro l hl
  rw [mem_offendingLines] at hl ⊢
  simp only [hw, Bool.false_eq_true, false_and, not_false_eq_true, and_true] at hl ⊢
  exact ⟨h l hl.1, hl.2⟩

/-- With the race exemption, no offending line shows the race. -/
theorem containsText_eq_false_of_mem_offendingLines {ps : List String} {os : OsFamily}
    (hw : Whitelist.build ps os = .ok w) (hrace : w.handlesShutdownRace = true) {l : String}
    (hl : l ∈ offendingLines w content) :
    Text.containsText l shutdownRaceMarker = false := by
  cases hm : Text.containsText l shutdownRaceMarker
  · rfl
  · -- the line itself shows the race and is race noise, so it would have been dropped
    obtain ⟨⟨hlines, ho⟩, hkept⟩ := mem_offendingLines.1 hl
    have hnoise := Whitelist.isShutdownRaceNoise_of_containsText hw
      (Text.lf_not_mem_of_mem_lines hlines) hm
    exact absurd ⟨hrace, ⟨l, hlines, ho, hm⟩, hnoise⟩ hkept

/-! ### Checking a log file -/

open Host

variable {fs : FileTree} {cwd : Location} {path : HostPath}

/-- A log reads as the lossy decoding of the bytes of the file it names, when that file is
there and can be read. -/
theorem readLog_eq_ok_iff {text : String} :
    readLog fs cwd path = .ok text ↔
      ∃ loc bytes, locate cwd path = .ok loc ∧ fs.exists? loc = true ∧ fs.read loc = .ok bytes ∧
        Text.decodeLossy bytes = text := by
  unfold readLog
  cases hl : locate cwd path with
  | error e => simp
  | ok loc =>
    cases he : fs.exists? loc <;> cases hr : fs.read loc <;> simp [he, hr]

theorem checkLog_eq_ok_iff (ls : List String) :
    checkLog w fs cwd path = .ok ls ↔
      ∃ text, readLog fs cwd path = .ok text ∧ offendingLines w text = ls := by
  unfold checkLog
  cases readLog fs cwd path <;> simp [bind, Except.bind]

/-- Reading a log never fails for offending lines. -/
theorem readLog_ne_offending (p : HostPath) (ls : List String) :
    readLog fs cwd path ≠ .error (.offending p ls) := by
  unfold readLog
  cases hl : locate cwd path with
  | error e => simp
  | ok loc => cases he : fs.exists? loc <;> cases hr : fs.read loc <;> simp [he, hr]

/-- A log fails the check with offending lines exactly when it reads and the lines are its
offending lines, of which there is one at least. -/
theorem ensureClean_eq_offending_iff (p : HostPath) (ls : List String) :
    ensureClean w fs cwd path = .error (.offending p ls) ↔
      p = path ∧ ∃ text, readLog fs cwd path = .ok text ∧ offendingLines w text = ls ∧ ls ≠ [] := by
  unfold ensureClean checkLog
  cases h : readLog fs cwd path with
  | error e =>
    simp only [bind, Except.bind, Except.error.injEq, reduceCtorEq, false_and, exists_false,
      and_false, iff_false]
    rintro rfl
    exact readLog_ne_offending p ls h
  | ok text =>
    by_cases hnil : offendingLines w text = []
    · simp [bind, Except.bind, hnil]
    · simp only [bind, Except.bind, List.isEmpty_iff, hnil, if_false, Except.error.injEq,
        LogError.offending.injEq, Except.ok.injEq, exists_eq_left']
      constructor
      · rintro ⟨rfl, rfl⟩
        exact ⟨rfl, rfl, hnil⟩
      · rintro ⟨rfl, rfl, -⟩
        exact ⟨rfl, rfl⟩

theorem ensureClean_eq_ok_iff :
    ensureClean w fs cwd path = .ok () ↔
      ∃ text, readLog fs cwd path = .ok text ∧ offendingLines w text = [] := by
  unfold ensureClean checkLog
  cases h : readLog fs cwd path <;> simp [bind, Except.bind]

/-! ### The offending lines of a log file -/

/-- The offending lines of a log, for a whitelist built for a host family: the lines
classified offending, less, on Windows once one of them shows the shutdown race, the lines
that a race pattern matches. They are sorted without repeats, so they depend only on the set
of lines; off Windows they grow with it, and on Windows none shows the race. A log file is
checked on the lossy decoding of its bytes, and fails with its offending lines exactly when
it has some. -/
theorem offendingLines_spec {ps : List String} {os : OsFamily} {w : Whitelist}
    (hw : Whitelist.build ps os = .ok w) (content : String) :
    (∀ l, l ∈ offendingLines w content ↔
      (l ∈ Text.lines content ∧ classify w l = .offending) ∧
        ¬(os = .windows ∧
          (∃ l' ∈ Text.lines content, classify w l' = .offending ∧
            Text.containsText l' shutdownRaceMarker = true) ∧
          ∃ p ∈ shutdownRacePatterns, ∃ c, compile (anchored p) = .ok c ∧ c.isMatch l = true)) ∧
    (offendingLines w content).Pairwise (· < ·) ∧
    (∀ content', (∀ l, l ∈ Text.lines content ↔ l ∈ Text.lines content') →
      offendingLines w content = offendingLines w content') ∧
    (∀ l ∈ offendingLines w content, l ∈ Text.lines content ∧ classify w l = .offending) ∧
    (os ≠ .windows → ∀ content', (∀ l ∈ Text.lines content, l ∈ Text.lines content') →
      ∀ l ∈ offendingLines w content, l ∈ offendingLines w content') ∧
    (os = .windows → ∀ l ∈ offendingLines w content,
      Text.containsText l shutdownRaceMarker = false) ∧
    (∀ fs cwd path ls, checkLog w fs cwd path = .ok ls ↔
      ∃ loc bytes, locate cwd path = .ok loc ∧ fs.exists? loc = true ∧ fs.read loc = .ok bytes ∧
        offendingLines w (Text.decodeLossy bytes) = ls) ∧
    (∀ fs cwd path p ls, ensureClean w fs cwd path = .error (.offending p ls) ↔
      p = path ∧ ∃ text, readLog fs cwd path = .ok text ∧ offendingLines w text = ls ∧ ls ≠ []) ∧
    (∀ fs cwd path, ensureClean w fs cwd path = .ok () ↔
      ∃ text, readLog fs cwd path = .ok text ∧ offendingLines w text = []) := by
  have hwin := Whitelist.handlesShutdownRace_iff hw
  refine ⟨fun l => ?_, offendingLines_pairwise, fun _ h => offendingLines_congr h,
    fun l hl => (mem_offendingLines.1 hl).1, fun hos _ h => ?_,
    fun hos _ hl => containsText_eq_false_of_mem_offendingLines hw (hwin.2 hos) hl,
    fun fs cwd path ls => ?_, fun _ _ _ p ls => ensureClean_eq_offending_iff p ls,
    fun _ _ _ => ensureClean_eq_ok_iff⟩
  · rw [mem_offendingLines, hwin, Whitelist.isShutdownRaceNoise_iff hw]
  · exact offendingLines_mono (Bool.eq_false_iff.2 fun h => hos (hwin.1 h)) h
  · -- the checked text is the decoding of the bytes read
    rw [checkLog_eq_ok_iff]
    constructor
    · rintro ⟨text, hread, rfl⟩
      obtain ⟨loc, bytes, hloc, hex, hbytes, rfl⟩ := readLog_eq_ok_iff.1 hread
      exact ⟨loc, bytes, hloc, hex, hbytes, rfl⟩
    · rintro ⟨loc, bytes, hloc, hex, hbytes, rfl⟩
      exact ⟨_, readLog_eq_ok_iff.2 ⟨loc, bytes, hloc, hex, hbytes, rfl⟩, rfl⟩

theorem Whitelist.build_nil_windows_toBool : (Whitelist.build [] .windows).toBool = true := by
  rw [Whitelist.build_toBool]
  simp only [baselinePatterns, osPatterns, shutdownRacePatterns, List.append_nil,
    List.cons_append, List.nil_append, List.all_cons, List.all_nil, Bool.and_true,
    Bool.and_eq_true]
  -- each pattern is compiled in a kernel check of its own, so that no check holds them all
  and_intros
  all_goals decide +kernel

/-- The whitelist with no patterns of the application's own builds on Windows. -/
theorem Whitelist.build_nil_windows : ∃ w, Whitelist.build [] .windows = .ok w := by
  have hbuilt := Whitelist.build_nil_windows_toBool
  cases hw : Whitelist.build [] .windows with
  | error e => rw [hw] at hbuilt; cases hbuilt
  | ok w => exact ⟨w, rfl⟩

theorem offendingLines_windows_hides_race :
    ∃ w, Whitelist.build [] .windows = .ok w ∧
      ∀ l ∈ offendingLines w "ERROR: Shutdown in progress",
        Text.containsText l shutdownRaceMarker = false := by
  obtain ⟨w, hw⟩ := Whitelist.build_nil_windows
  exact ⟨w, hw, (offendingLines_spec hw "ERROR: Shutdown in progress").2.2.2.2.2.1 rfl⟩

end LaunchBench
