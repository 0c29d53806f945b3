import LaunchBench.Report
import LaunchBench.Cli.Run
import LaunchBench.Measurement.Log
import LaunchBench.Text.Numeral
import LaunchBench.Proofs.TreeEdits
/-!
Tables of measurements.

A measurement is shown as a header of the columns of its set fields and a row of their
values, as CSV and as a Markdown table. The measurements log is a CSV file that gets the
header of the first measurement logged, then one row per measurement.

* **`Measurement.decodeCsv_lineCsv`**, **`Measurement.decodeMarkdown_lineMarkdown`**: a row
  read under the header of a measurement that sets the same fields gives the measurement
  back, provided the application's name holds no separator or line break.
* **`appendMeasurements_log`**: logging measurements in turn to a new file writes the first
  one's header, then a row for each, making the file's missing directories first.
* **`measurementTable_spec`**: the log and the report's table line up and read back when
  every measurement sets the first one's fields and no name holds a separator;
  **`measurementRows_misread`** shows a row that leaves out a field, or a name with a comma,
  falling out of line with the header.

Reading back is defined here (`Measurement.readRow`): each header cell names the field that
the cell below it sets, numbers read back by `Text.readInt?` and modes by `Mode.parse?`.
-/

namespace LaunchBench

open Host

/-! ### Texts -/

namespace Text

theorem toList_toString_ofNat (n : Nat) : (toString (Int.ofNat n)).toList = Nat.toDigits 10 n :=
  Nat.toList_repr

theorem toList_toString_negSucc (n : Nat) :
    (toString (Int.negSucc n)).toList = '-' :: Nat.toDigits 10 (n + 1) := by
  show ("-" ++ Nat.repr (n + 1)).toList = _
  simp [Nat.toList_repr]

theorem digitsValue?_toDigits (n : Nat) : digitsValue? (Nat.toDigits 10 n) = some n := by
  have hne : (Nat.toDigits 10 n).isEmpty = false := by
    simp [Nat.toDigits_ne_nil]
  have hall : (Nat.toDigits 10 n).all Char.isDigit = true :=
    List.all_eq_true.2 fun c hc => Nat.isDigit_of_mem_toDigits (by decide) (by decide) hc
  simp only [digitsValue?, hne, hall, Bool.not_true, Bool.or_self, Bool.false_eq_true, if_false]
  exact congrArg some Nat.ofDigitChars_ten_toDigits

/-- An integer's decimal text reads back as itself. -/
theorem readInt?_toString (v : Int) : readInt? (toString v) = some v := by
  cases v with
  | ofNat n =>
    -- the text starts with a digit, so it is read as an unsigned numeral
    obtain ⟨c, cs, hcs⟩ : ∃ c cs, Nat.toDigits 10 n = c :: cs :=
      List.exists_cons_of_ne_nil Nat.toDigits_ne_nil
    have hc : c.isDigit = true :=
      Nat.isDigit_of_mem_toDigits (by decide) (by decide) (hcs ▸ List.mem_cons_self)
    unfold readInt?
    rw [toList_toString_ofNat]
    split
    case h_1 rest h | h_2 rest h =>
      -- a sign is no digit
      rw [hcs, List.cons.injEq] at h
      simp [h.1] at hc
    case h_3 =>
      rw [digitsValue?_toDigits]
      rfl
  | negSucc n =>
    unfold readInt?
    rw [toList_toString_negSucc]
    simp only [digitsValue?_toDigits]
    rfl

/-- The fields of a line cut at every separator, empty ones included. -/
def fields (sep : Char) (line : String) : List String :=
  (line.toList.splitOn sep).map String.ofList

/-- The cells of a Markdown table line: its fields between the outer bars. -/
def markdownCells (line : String) : List String :=
  ((fields '|' line).drop 1).dropLast

/-- A text that no separator of a table cuts: no comma, bar, line feed or carriage return. -/
def CellText (s : String) : Prop :=
  ∀ c ∈ s.toList, c ≠ ',' ∧ c ≠ '|' ∧ c ≠ '\n' ∧ c ≠ '\r'

-- decided through `List.all`, whose evaluation stays shallow whatever instances are in scope
instance : DecidablePred CellText := fun s =>
  decidable_of_iff (s.toList.all fun c => c != ',' && c != '|' && c != '\n' && c != '\r') (by
    simp [CellText, and_assoc])

theorem fields_intercalate (sep : Char) {xs : List String} (hne : xs ≠ [])
    (h : ∀ x ∈ xs, sep ∉ x.toList) :
    fields sep ((String.singleton sep).intercalate xs) = xs := by
  have hmap : xs.map String.toList ≠ [] := by simpa using hne
  rw [fields, String.toList_intercalate, String.toList_singleton,
    List.splitOn_intercalate sep (by simpa using h) hmap]
  simp

/-- Cells written between bars read back as the cells. -/
theorem markdownCells_bars {xs : List String} (hne : xs ≠ []) (h : ∀ x ∈ xs, '|' ∉ x.toList) :
    markdownCells ("|" ++ "|".intercalate xs ++ "|") = xs := by
  have hbars : "|" ++ "|".intercalate xs ++ "|" = (String.singleton '|').intercalate ("" :: xs ++ [""]) := by
    rw [List.cons_append, String.intercalate_cons_of_ne_nil (by simp),
      String.intercalate_append_of_ne_nil hne (by simp), String.intercalate_singleton]
    simp [String.append_assoc]
  have hall : ∀ x ∈ "" :: xs ++ [""], '|' ∉ x.toList := by
    intro x hx
    simp only [List.cons_append, List.mem_cons, List.mem_append, List.not_mem_nil, or_false] at hx
    rcases hx with rfl | hx | rfl
    · simp
    · exact h x hx
    · simp
  rw [markdownCells, hbars, fields_intercalate '|' (by simp) hall]
  simp

/-- A property of every character of the separator and of every piece holds of every
character of the joined text. -/
theorem forall_mem_intercalate {p : Char → Prop} {s : String} {xs : List String}
    (hs : ∀ c ∈ s.toList, p c) (hx : ∀ x ∈ xs, ∀ c ∈ x.toList, p c) :
    ∀ c ∈ (s.intercalate xs).toList, p c := by
  rw [String.toList_intercalate]
  induction xs with
  | nil => simp
  | cons x xs ih =>
    cases xs with
    | nil => simpa using hx x List.mem_cons_self
    | cons y ys =>
      intro c hc
      rw [List.map_cons, List.map_cons, List.intercalate_cons_cons] at hc
      simp only [List.mem_append] at hc
      rcases hc with (hc | hc) | hc
      · exact hx x List.mem_cons_self c hc
      · exact hs c hc
      · exact ih (fun z hz => hx z (List.mem_cons_of_mem x hz)) c (by simpa using hc)

theorem cellText_of_isDigit {s : String} (h : ∀ c ∈ s.toList, c = '-' ∨ c.isDigit = true) :
    CellText s := by
  intro c hc
  rcases h c hc with rfl | hd
  · decide
  · refine ⟨?_, ?_, ?_, ?_⟩ <;> rintro rfl <;> simp at hd

/-- The decimal text of an integer is a cell text. -/
theorem cellText_toString (v : Int) : CellText (toString v) := by
  apply cellText_of_isDigit
  intro c hc
  cases v with
  | ofNat n =>
    rw [toList_toString_ofNat] at hc
    exact .inr (Nat.isDigit_of_mem_toDigits (by decide) (by decide) hc)
  | negSucc n =>
    rw [toList_toString_negSucc] at hc
    rcases List.mem_cons.1 hc with rfl | hc
    · exact .inl rfl
    · exact .inr (Nat.isDigit_of_mem_toDigits (by decide) (by decide) hc)

theorem lineCharsFrom_append_lf {a : List Char} (ha : '\n' ∉ a) (rest cur : List Char) :
    lineCharsFrom (a ++ '\n' :: rest) cur = dropReturn (cur.reverse ++ a) :: lineCharsFrom rest [] := by
  induction a generalizing cur with
  | nil => simp [lineCharsFrom]
  | cons c a ih =>
    have hc : c ≠ '\n' := fun h => ha (h ▸ List.mem_cons_self)
    rw [List.cons_append, lineCharsFrom, if_neg hc, ih (fun h => ha (List.mem_cons_of_mem c h))]
    simp

theorem dropReturn_of_not_mem {a : List Char} (ha : '\r' ∉ a) : dropReturn a = a := by
  unfold dropReturn
  split
  · rename_i h
    exact absurd (List.mem_of_getLast? h) ha
  · rfl

/-- Lines each ended by a line feed read back as themselves. -/
theorem lines_join {ls : List String} (h : ∀ l ∈ ls, '\n' ∉ l.toList ∧ '\r' ∉ l.toList) :
    lines (String.join (ls.map (· ++ "\n"))) = ls := by
  induction ls with
  | nil => rfl
  | cons l ls ih =>
    obtain ⟨hlf, hcr⟩ := h l List.mem_cons_self
    have hrest := ih fun l' hl' => h l' (List.mem_cons_of_mem l hl')
    simp only [lines, lineChars, List.map_cons, String.join_cons, String.toList_append] at hrest ⊢
    have hlf' : "\n".toList = ['\n'] := rfl
    rw [hlf', List.append_assoc, List.singleton_append, lineCharsFrom_append_lf hlf, List.map_cons,
      hrest, List.reverse_nil, List.nil_append, dropReturn_of_not_mem hcr, String.ofList_toList]
end Text

/-! ### Reading rows back -/

namespace Measurement

/-- Sets the field a column names from its text: `none` for a column that no field has or
a text that does not read back as a value. -/
def readCell (m : Measurement) (col val : String) : Option Measurement :=
  if col = "App" then some { m with app := some val }
  else if col = "Mode" then (Mode.parse? val).map fun md => { m with mode := some md }
  else (Metric.all.find? (·.column = col)).bind fun k => (Text.readInt? val).map (m.set k)

/-- Reads a row under a header, cell by cell into `m`: `none` when they differ in length. -/
def readRow : Measurement → List String → List String → Option Measurement
  | m, [], [] => some m
  | m, col :: cols, val :: vals => (m.readCell col val).bind fun m' => m'.readRow cols vals
  | _, _, _ => none

theorem readRow_map (m : Measurement) (ps : List (String × String)) :
    m.readRow (ps.map Prod.fst) (ps.map Prod.snd) = ps.foldlM (fun m p => m.readCell p.1 p.2) m := by
  induction ps generalizing m with
  | nil => rfl
  | cons p ps ih =>
    simp only [List.map_cons, readRow, List.foldlM_cons]
    cases m.readCell p.1 p.2 with
    | none => rfl
    | some m' => exact ih m'

theorem Metric.column_ne_app (k : Metric) : k.column ≠ "App" := by
  cases k <;> decide

theorem Metric.column_ne_mode (k : Metric) : k.column ≠ "Mode" := by
  cases k <;> decide

theorem Metric.find?_column (k : Metric) : Metric.all.find? (·.column = k.column) = some k := by
  cases k <;> decide

theorem readCell_app (m : Measurement) (a : String) :
    m.readCell "App" a = some { m with app := some a } := by
  simp [readCell]

theorem readCell_mode (m : Measurement) (md : Mode) :
    m.readCell "Mode" md.name = some { m with mode := some md } := by
  simp [readCell, Mode.parse?_name]

theorem readCell_metric (m : Measurement) (k : Metric) (v : Int) (hv : Text.readInt? (toString v) = some v) :
    m.readCell k.column (toString v) = some (m.set k v) := by
  simp only [readCell, if_neg (Metric.column_ne_app k), if_neg (Metric.column_ne_mode k),
    Metric.find?_column, Option.bind_some, hv, Option.map_some]

theorem get_set_ne (m : Measurement) {k k' : Metric} (v : Int) (h : k' ≠ k) :
    (m.set k v).get k' = m.get k' := by
  -- every pair of metrics; the equal ones contradict `h`
  cases k <;> cases k' <;> simp only [set, get] <;> exact absurd rfl h

@[simp] theorem set_app (m : Measurement) (k : Metric) (v : Int) : (m.set k v).app = m.app := by
  cases k <;> rfl

@[simp] theorem set_mode (m : Measurement) (k : Metric) (v : Int) : (m.set k v).mode = m.mode := by
  cases k <;> rfl

theorem Metric.mem_all (k : Metric) : k ∈ Metric.all := by
  cases k <;> simp [Metric.all]

/-- A measurement is its name, mode and numbers. -/
theorem ext_get {m m' : Measurement} (happ : m.app = m'.app) (hmode : m.mode = m'.mode)
    (h : ∀ k, m.get k = m'.get k) : m = m' := by
  cases m
  cases m'
  simp only at happ hmode
  have h1 := h .buildTime
  have h2 := h .timeToFirstOkRequest
  have h3 := h .timeToReload
  have h4 := h .startedIn
  have h5 := h .stoppedIn
  have h6 := h .rss
  have h7 := h .openFds
  simp only [get] at h1 h2 h3 h4 h5 h6 h7
  subst happ hmode h1 h2 h3 h4 h5 h6 h7
  rfl

/-- Reading the numbers of `m` into `base` sets each metric of `ks` that `m` has, and leaves
the rest of `base` as it is. -/
theorem foldlM_metricCells (m : Measurement) {ks : List Metric} (hks : ks.Nodup) (base : Measurement) :
    ∃ r, (ks.filterMap fun k => (m.get k).map fun v => (k.column, toString v)).foldlM
        (fun acc p => acc.readCell p.1 p.2) base = some r ∧
      r.app = base.app ∧ r.mode = base.mode ∧
      ∀ k, r.get k = if k ∈ ks then (m.get k).or (base.get k) else base.get k := by
  induction ks generalizing base with
  | nil => exact ⟨base, rfl, rfl, rfl, fun k => by simp⟩
  | cons k ks ih =>
    obtain ⟨hk, hks⟩ := List.nodup_cons.1 hks
    cases hv : m.get k with
    | none =>
      obtain ⟨r, hr, happ, hmode, hget⟩ := ih hks base
      refine ⟨r, by simpa [List.filterMap_cons, hv] using hr, happ, hmode, fun k' => ?_⟩
      by_cases hkk : k' = k
      · subst hkk
        simp [hget, hk, hv]
      · simp [hget, hkk]
    | some v =>
      obtain ⟨r, hr, happ, hmode, hget⟩ := ih hks (base.set k v)
      refine ⟨r, ?_, by simp [happ], by simp [hmode], fun k' => ?_⟩
      · simp only [List.filterMap_cons, hv, Option.map_some, List.foldlM_cons]
        rw [readCell_metric base k v (Text.readInt?_toString v)]
        exact hr
      · by_cases hkk : k' = k
        · subst hkk
          simp [hget, hk, hv, get_set_self]
        · simp [hget, hkk, get_set_ne base v hkk]

theorem Metric.nodup_all : Metric.all.Nodup := by
  decide

/-- The cells of a measurement read back under its own header give the measurement. -/
theorem readRow_cells (m : Measurement) :
    readRow {} (m.cells.map Prod.fst) (m.cells.map Prod.snd) = some m := by
  -- the name and mode come first, then the numbers in column order
  have hhead : ((m.app.map fun a => ("App", a)).toList ++
      (m.mode.map fun md => ("Mode", md.name)).toList).foldlM
        (fun (acc : Measurement) p => acc.readCell p.1 p.2) {} =
        some { app := m.app, mode := m.mode } := by
    cases happ : m.app <;> cases hmode : m.mode <;>
      simp [readCell_app, readCell_mode]
  obtain ⟨r, hr, happ, hmode, hget⟩ := foldlM_metricCells m Metric.nodup_all { app := m.app, mode := m.mode }
  have hrm : r = m := ext_get happ hmode fun k => by
    have hnone : ({ app := m.app, mode := m.mode } : Measurement).get k = none := by
      cases k <;> rfl
    rw [hget k, if_pos (Metric.mem_all k), hnone, Option.or_none]
  rw [readRow_map, cells, List.foldlM_append, hhead]
  simpa [hrm] using hr

/-- Two measurements set the same fields. -/
structure SameFields (m m' : Measurement) : Prop where
  app : m.app.isSome = m'.app.isSome
  mode : m.mode.isSome = m'.mode.isSome
  metrics : ∀ k, (m.get k).isSome = (m'.get k).isSome

/-- Measurements that set the same fields have the same columns. -/
theorem SameFields.columns {m m' : Measurement} (h : SameFields m m') :
    m.cells.map Prod.fst = m'.cells.map Prod.fst := by
  obtain ⟨happ, hmode, hmetrics⟩ := h
  simp only [cells, List.map_append, Option.toList_map, List.map_map, List.map_filterMap]
  congr 1
  · -- the name and the mode give a column each when set
    congr 1
    · cases ha : m.app <;> cases ha' : m'.app <;> simp_all
    · cases hm : m.mode <;> cases hm' : m'.mode <;> simp_all
  · -- a number gives its column when set
    congr 1
    funext k
    have hk := hmetrics k
    cases hv : m.get k <;> cases hv' : m'.get k <;> simp_all

theorem SameFields.length_cells {m m' : Measurement} (h : SameFields m m') :
    m.cells.length = m'.cells.length := by
  simpa using congrArg List.length h.columns

/-- The application's name, when set, is a cell text. -/
def PlainApp (m : Measurement) : Prop :=
  ∀ a ∈ m.app, Text.CellText a

theorem Metric.cellText_column (k : Metric) : Text.CellText k.column := by
  cases k <;> decide

theorem cellText_modeName (md : Mode) : Text.CellText md.name := by
  cases md <;> decide

/-- Every column name is a cell text. -/
theorem cells_cellText_fst {m : Measurement} : ∀ p ∈ m.cells, Text.CellText p.1 := by
  intro p hp
  simp only [cells, List.mem_append, Option.mem_toList, Option.map_eq_some_iff,
    List.mem_filterMap] at hp
  rcases hp with (⟨a, _, rfl⟩ | ⟨md, _, rfl⟩) | ⟨k, _, v, _, rfl⟩
  · exact show Text.CellText "App" by decide
  · exact show Text.CellText "Mode" by decide
  · exact Metric.cellText_column k

/-- Every value of a plain measurement is a cell text. -/
theorem cells_cellText_snd {m : Measurement} (h : m.PlainApp) : ∀ p ∈ m.cells, Text.CellText p.2 := by
  intro p hp
  simp only [cells, List.mem_append, Option.mem_toList, Option.map_eq_some_iff,
    List.mem_filterMap] at hp
  rcases hp with (⟨a, ha, rfl⟩ | ⟨md, _, rfl⟩) | ⟨k, _, v, _, rfl⟩
  · exact h a ha
  · exact cellText_modeName md
  · exact Text.cellText_toString v

/-- Reads a CSV row under a CSV header. -/
def decodeCsv (header row : String) : Option Measurement :=
  readRow {} (Text.fields ',' header) (Text.fields ',' row)

/-- Reads a Markdown table row under a Markdown table header. -/
def decodeMarkdown (header row : String) : Option Measurement :=
  readRow {} (Text.markdownCells header) (Text.markdownCells row)

section Rows

variable {m m₁ : Measurement}

theorem cells_ne_nil (hs : m.SameFields m₁) (h₁ : m₁.cells ≠ []) : m.cells ≠ [] := by
  rw [← List.length_pos_iff, hs.length_cells, List.length_pos_iff]
  exact h₁

theorem fields_headerCsv (h : m.cells ≠ []) : Text.fields ',' m.headerCsv = m.cells.map Prod.fst :=
  Text.fields_intercalate ',' (by simpa using h) fun x hx => by
    obtain ⟨p, hp, rfl⟩ := List.mem_map.1 hx
    exact fun hc => ((cells_cellText_fst p hp) ',' hc).1 rfl

theorem fields_lineCsv (h : m.cells ≠ []) (hp : m.PlainApp) :
    Text.fields ',' m.lineCsv = m.cells.map Prod.snd :=
  Text.fields_intercalate ',' (by simpa using h) fun x hx => by
    obtain ⟨p, hp', rfl⟩ := List.mem_map.1 hx
    exact fun hc => ((cells_cellText_snd hp p hp') ',' hc).1 rfl

theorem markdownCells_headerMarkdown (h : m.cells ≠ []) :
    Text.markdownCells m.headerMarkdown = m.cells.map Prod.fst :=
  Text.markdownCells_bars (by simpa using h) fun x hx => by
    obtain ⟨p, hp, rfl⟩ := List.mem_map.1 hx
    exact fun hc => ((cells_cellText_fst p hp) '|' hc).2.1 rfl

theorem markdownCells_dividerMarkdown (h : m.cells ≠ []) :
    Text.markdownCells m.dividerMarkdown = m.cells.map fun _ => "---" :=
  Text.markdownCells_bars (by simpa using h) fun x hx => by
    obtain ⟨p, -, rfl⟩ := List.mem_map.1 hx
    decide

theorem markdownCells_lineMarkdown (h : m.cells ≠ []) (hp : m.PlainApp) :
    Text.markdownCells m.lineMarkdown = m.cells.map Prod.snd :=
  Text.markdownCells_bars (by simpa using h) fun x hx => by
    obtain ⟨p, hp', rfl⟩ := List.mem_map.1 hx
    exact fun hc => ((cells_cellText_snd hp p hp') '|' hc).2.1 rfl

/-- A row of a measurement that sets the header's fields has one field per column, in CSV
and in Markdown, and so has the divider. -/
theorem length_fields_lineCsv (h₁ : m₁.cells ≠ []) (hs : m.SameFields m₁) (hp : m.PlainApp) :
    (Text.fields ',' m.lineCsv).length = (Text.fields ',' m₁.headerCsv).length := by
  rw [fields_lineCsv (cells_ne_nil hs h₁) hp, fields_headerCsv h₁, List.length_map,
    List.length_map, hs.length_cells]

theorem length_markdownCells_lineMarkdown (h₁ : m₁.cells ≠ []) (hs : m.SameFields m₁)
    (hp : m.PlainApp) :
    (Text.markdownCells m.lineMarkdown).length = (Text.markdownCells m₁.headerMarkdown).length := by
  rw [markdownCells_lineMarkdown (cells_ne_nil hs h₁) hp, markdownCells_headerMarkdown h₁,
    List.length_map, List.length_map, hs.length_cells]

theorem length_markdownCells_dividerMarkdown (h₁ : m₁.cells ≠ []) :
    (Text.markdownCells m₁.dividerMarkdown).length =
      (Text.markdownCells m₁.headerMarkdown).length := by
  rw [markdownCells_dividerMarkdown h₁, markdownCells_headerMarkdown h₁, List.length_map,
    List.length_map]

/-- A row of a measurement that sets the fields of the header's measurement reads back as
that measurement. -/
theorem decodeCsv_lineCsv (h₁ : m₁.cells ≠ []) (hs : m.SameFields m₁) (hp : m.PlainApp) :
    decodeCsv m₁.headerCsv m.lineCsv = some m := by
  rw [decodeCsv, fields_headerCsv h₁, fields_lineCsv (cells_ne_nil hs h₁) hp, ← hs.columns]
  exact readRow_cells m

theorem decodeMarkdown_lineMarkdown (h₁ : m₁.cells ≠ []) (hs : m.SameFields m₁) (hp : m.PlainApp) :
    decodeMarkdown m₁.headerMarkdown m.lineMarkdown = some m := by
  rw [decodeMarkdown, markdownCells_headerMarkdown h₁,
    markdownCells_lineMarkdown (cells_ne_nil hs h₁) hp, ← hs.columns]
  exact readRow_cells m

/-- A header or row holds no line break. -/
theorem lineBreakFree {s : String} {xs : List String} (hs : '\n' ∉ s.toList ∧ '\r' ∉ s.toList)
    (hx : ∀ x ∈ xs, Text.CellText x) :
    '\n' ∉ (s.intercalate xs).toList ∧ '\r' ∉ (s.intercalate xs).toList := by
  have h := Text.forall_mem_intercalate (p := fun c => c ≠ '\n' ∧ c ≠ '\r')
    (fun c hc => ⟨fun h => hs.1 (h ▸ hc), fun h => hs.2 (h ▸ hc)⟩)
    fun x hmem c hc => ⟨(hx x hmem c hc).2.2.1, (hx x hmem c hc).2.2.2⟩
  exact ⟨fun hc => (h _ hc).1 rfl, fun hc => (h _ hc).2 rfl⟩

/-- The CSV text of a header and rows reads back as those lines. -/
theorem lines_csvLog (m₁ : Measurement) {ms : List Measurement} (hms : ∀ m ∈ ms, m.PlainApp) :
    Text.lines (m₁.headerCsv ++ "\n" ++ String.join (ms.map fun m => m.lineCsv ++ "\n")) =
      m₁.headerCsv :: ms.map (·.lineCsv) := by
  have hcomma : '\n' ∉ ",".toList ∧ '\r' ∉ ",".toList := by decide
  have h := @Text.lines_join (m₁.headerCsv :: ms.map (·.lineCsv)) (by
    intro l hl
    rcases List.mem_cons.1 hl with rfl | hl
    · exact lineBreakFree hcomma fun x hx => by
        obtain ⟨p, hp, rfl⟩ := List.mem_map.1 hx
        exact cells_cellText_fst p hp
    · obtain ⟨m, hm, rfl⟩ := List.mem_map.1 hl
      exact lineBreakFree hcomma fun x hx => by
        obtain ⟨p, hp, rfl⟩ := List.mem_map.1 hx
        exact cells_cellText_snd (hms m hm) p hp)
  simpa [List.map_map, Function.comp_def, String.append_assoc] using h

end Rows

end Measurement

/-! ### The measurements log -/

/-- Where a log file goes once its directories are there: the path names `name` in the
directory `dir`, its parent path names `dir`, every place from the root down to `dir` is a
directory, and `name` is a name of its own rather than `.` or `..`. -/
structure LogReady (fs : FileTree) (cwd : Location) (path : HostPath) (dir : Location)
    (name : String) : Prop where
  located : locate cwd path = .ok (dir ++ [name])
  parent : ∀ p, HostPath.parent? path = some p → p.isEmpty = false → locate cwd p = .ok dir
  dirs : fs.DirsAlong dir
  own : ¬ DotName name

theorem LogReady.put {fs : FileTree} {cwd : Location} {path : HostPath} {dir : Location}
    {name : String} (hp : LogReady fs cwd path dir name) (e : Entry) :
    LogReady (fs.put (dir ++ [name]) e) cwd path dir name :=
  ⟨hp.located, hp.parent, hp.dirs.put e, hp.own⟩

/-- Where a log file goes: as for `LogReady`, except that when the path names its parent the
directories down to `dir` may be missing, since logging makes them. Then the tree is well
formed, no name down to `dir` is `.` or `..`, and every place on the way holds a directory or
nothing. -/
structure LogPlace (fs : FileTree) (cwd : Location) (path : HostPath) (dir : Location)
    (name : String) : Prop where
  located : locate cwd path = .ok (dir ++ [name])
  parent : ∀ p, HostPath.parent? path = some p → p.isEmpty = false → locate cwd p = .ok dir
  dirs : fs.DirsAlong dir ∨
    (fs.WellFormed ∧ (∃ p, HostPath.parent? path = some p ∧ p.isEmpty = false) ∧
      (∀ c ∈ dir, ¬ DotName c) ∧ ∀ l, l <+: dir → fs.get? l = none ∨ fs.get? l = some .dir)
  own : ¬ DotName name

section Append

variable {fs : FileTree} {cwd : Location} {path : HostPath} {dir : Location} {name : String}

/-- The parent directory is there, so appending writes the text at once. -/
theorem appendMeasurement_eq_write (hp : LogReady fs cwd path dir name) (m : Measurement) :
    appendMeasurement m fs cwd path =
      (fs.write (dir ++ [name]) (Text.utf8Bytes
        ((if !fs.existsAt cwd path then m.headerCsv ++ "\n" else "") ++ m.lineCsv ++ "\n")) true).mapError
        IoError.os := by
  unfold appendMeasurement
  cases hpar : HostPath.parent? path with
  | none => simp [hp.located, bind, Except.bind, pure, Except.pure]
  | some p =>
    by_cases hpe : p.isEmpty = true
    · simp [hp.located, hpe, bind, Except.bind, pure, Except.pure]
    · simp [hp.located, hpe, hp.parent p hpar (by simpa using hpe), FileTree.mkdirAll_of_dirs hp.dirs,
        bind, Except.bind]

/-- The first measurement logged writes the header, then its row. -/
theorem appendMeasurement_new (hp : LogReady fs cwd path dir name)
    (hnew : fs.get? (dir ++ [name]) = none) (m : Measurement) :
    appendMeasurement m fs cwd path = .ok (fs.put (dir ++ [name])
      (.file (Text.utf8Bytes (m.headerCsv ++ "\n" ++ m.lineCsv ++ "\n")) false)) := by
  rw [appendMeasurement_eq_write hp, FileTree.existsAt_new hp.located hp.dirs hnew hp.own,
    FileTree.write_new hp.dirs hnew hp.own]
  rfl

/-- A later measurement adds its row after what the file holds. -/
theorem appendMeasurement_file (hp : LogReady fs cwd path dir name) {d : List UInt8} {x : Bool}
    (hf : fs.get? (dir ++ [name]) = some (.file d x)) (m : Measurement) :
    appendMeasurement m fs cwd path = .ok (fs.put (dir ++ [name])
      (.file (d ++ Text.utf8Bytes (m.lineCsv ++ "\n")) x)) := by
  rw [appendMeasurement_eq_write hp, FileTree.existsAt_file hp.located hp.dirs hf,
    FileTree.write_file hp.dirs hf]
  rfl

/-- Logs measurements in turn to one file. -/
def appendMeasurements (ms : List Measurement) (fs : FileTree) (cwd : Location) (path : HostPath) :
    Except IoError FileTree :=
  ms.foldlM (fun fs m => appendMeasurement m fs cwd path) fs

/-- Logging to a file that is there adds one row per measurement. The induction is on the
measurements, the file growing by a row at each step. -/
theorem appendMeasurements_file (ms : List Measurement) :
    ∀ {fs : FileTree} {d : List UInt8} {x : Bool}, LogReady fs cwd path dir name →
      fs.get? (dir ++ [name]) = some (.file d x) →
      ∃ fs', appendMeasurements ms fs cwd path = .ok fs' ∧ LogReady fs' cwd path dir name ∧
        fs'.get? (dir ++ [name]) =
          some (.file (d ++ Text.utf8Bytes (String.join (ms.map fun m => m.lineCsv ++ "\n"))) x) := by
  induction ms with
  | nil =>
    intro fs d x hp hf
    exact ⟨fs, rfl, hp, by simpa [Text.utf8Bytes] using hf⟩
  | cons m ms ih =>
    intro fs d x hp hf
    have hput := FileTree.get?_put fs (dir ++ [name])
      (.file (d ++ Text.utf8Bytes (m.lineCsv ++ "\n")) x) (by simp)
    obtain ⟨fs', hrun, hp', hf'⟩ := ih (hp.put _) hput
    refine ⟨fs', ?_, hp', ?_⟩
    · simp only [appendMeasurements, List.foldlM_cons, appendMeasurement_file hp hf m] at hrun ⊢
      exact hrun
    · rw [hf', List.map_cons, String.join_cons, Text.utf8Bytes_append (m.lineCsv ++ "\n"),
        List.append_assoc]

/-- A log whose parent path is named has its directories made first, then the text written. -/
theorem appendMeasurement_of_mkdirAll (hl : locate cwd path = .ok (dir ++ [name])) {p : HostPath}
    (hpar : HostPath.parent? path = some p) (hpe : p.isEmpty = false)
    (hloc : locate cwd p = .ok dir) {fs₁ : FileTree} (hmk : fs.mkdirAll dir = .ok fs₁)
    (m : Measurement) :
    appendMeasurement m fs cwd path =
      (fs₁.write (dir ++ [name]) (Text.utf8Bytes
        ((if !fs.existsAt cwd path then m.headerCsv ++ "\n" else "") ++ m.lineCsv ++ "\n")) true).mapError
        IoError.os := by
  simp [appendMeasurement, hl, hpar, hpe, hloc, hmk, bind, Except.bind]

/-- The first measurement logged to a new file makes the directories missing on its way, then
writes the header and its row; the file's place is then ready for the rows that follow. -/
theorem appendMeasurement_first (hp : LogPlace fs cwd path dir name)
    (hnew : fs.get? (dir ++ [name]) = none) (m : Measurement) :
    ∃ fs₁, LogReady fs₁ cwd path dir name ∧ fs₁.get? (dir ++ [name]) = none ∧
      appendMeasurement m fs cwd path = .ok (fs₁.put (dir ++ [name])
        (.file (Text.utf8Bytes (m.headerCsv ++ "\n" ++ m.lineCsv ++ "\n")) false)) := by
  rcases hp.dirs with hd | ⟨hw, ⟨p, hpar, hpe⟩, hnames, hway⟩
  · have hready : LogReady fs cwd path dir name := ⟨hp.located, hp.parent, hd, hp.own⟩
    exact ⟨fs, hready, hnew, appendMeasurement_new hready hnew m⟩
  -- the directories are made; the header is chosen on the tree as it was before
  obtain ⟨fs₁, hmk, hmade⟩ := FileTree.mkdirAll_along hw hnames hway
  have hnew₁ : fs₁.get? (dir ++ [name]) = none := by
    rw [hmade.same _ fun k _ hkl heq => ?_, hnew]
    have hlen := congrArg List.length heq
    simp only [List.length_append, List.length_singleton, List.nil_append, List.length_take] at hlen
    omega
  have hready : LogReady fs₁ cwd path dir name :=
    ⟨hp.located, hp.parent, by simpa using hmade.dirs, hp.own⟩
  refine ⟨fs₁, hready, hnew₁, ?_⟩
  rw [appendMeasurement_of_mkdirAll hp.located hpar hpe (hp.parent p hpar hpe) hmk,
    FileTree.existsAt_of_way hp.located hnames hp.own hway hnew,
    FileTree.write_new hready.dirs hnew₁ hp.own]
  rfl

/-- Logging measurements in turn to a new file writes the header of the first, then one row for
each, making the file's directories first when they are missing. -/
theorem appendMeasurements_log (hp : LogPlace fs cwd path dir name)
    (hnew : fs.get? (dir ++ [name]) = none) (m₁ : Measurement) (rest : List Measurement) :
    ∃ fs', appendMeasurements (m₁ :: rest) fs cwd path = .ok fs' ∧
      fs'.read (dir ++ [name]) = .ok (Text.utf8Bytes
        (m₁.headerCsv ++ "\n" ++ String.join ((m₁ :: rest).map fun m => m.lineCsv ++ "\n"))) := by
  -- the first measurement makes the file; the rest append to it
  obtain ⟨fs₁, hready, hnew₁, hfirst⟩ := appendMeasurement_first hp hnew m₁
  have hput := FileTree.get?_put fs₁ (dir ++ [name])
    (.file (Text.utf8Bytes (m₁.headerCsv ++ "\n" ++ m₁.lineCsv ++ "\n")) false) (by simp)
  obtain ⟨fs', hrun, hp', hf'⟩ := appendMeasurements_file rest (hready.put _) hput
  refine ⟨fs', ?_, ?_⟩
  · simp only [appendMeasurements, List.foldlM_cons, hfirst] at hrun ⊢
    exact hrun
  · rw [FileTree.read_file hp'.dirs hf', ← Text.utf8Bytes_append, List.map_cons, String.join_cons]
    simp only [String.append_assoc]

end Append

/-- The report shows the measurements as a Markdown table: the first one's header and
divider, then a row for each. -/
theorem Report.render_measurements (r : Report) {m₁ : Measurement} {rest : List Measurement}
    (h : r.measurements = m₁ :: rest) :
    ∃ pre post, r.render = pre ++ ("\nMeasurements:\n" ++ m₁.headerMarkdown ++ "\n" ++
      m₁.dividerMarkdown ++ "\n" ++ String.join ((m₁ :: rest).map fun m => m.lineMarkdown ++ "\n")) ++
      post := by
  unfold Report.render
  rw [h]
  exact ⟨_, _, rfl⟩

theorem Cli.summary_measurements (r : Report) {m₁ : Measurement} {rest : List Measurement}
    (h : r.measurements = m₁ :: rest) :
    ∃ pre post, Cli.summary r = pre ++ ("  " ++ m₁.headerMarkdown ++ "\n  " ++ m₁.dividerMarkdown ++
      "\n" ++ String.join ((m₁ :: rest).map fun m => "  " ++ m.lineMarkdown ++ "\n")) ++ post := by
  unfold Cli.summary
  rw [h]
  exact ⟨_, _, rfl⟩

/-- The measurement log and table. Measurements logged in turn to a new file, its missing
directories made on the way, leave the first one's CSV header and then one row per
measurement. When every
measurement sets the same fields as the first, which sets at least one, and no application's
name holds a comma, a bar or a line break, the file splits into exactly those lines, every row
has one field per column, and reading a row under the header gives back its measurement; the
same holds of the Markdown table the report and the summary show. -/
theorem measurementTable_spec (m₁ : Measurement) (rest : List Measurement) :
    (∀ {fs : FileTree} {cwd : Location} {path : HostPath} {dir : Location} {name : String},
      LogPlace fs cwd path dir name → fs.get? (dir ++ [name]) = none →
      ∃ fs', appendMeasurements (m₁ :: rest) fs cwd path = .ok fs' ∧
        fs'.read (dir ++ [name]) = .ok (Text.utf8Bytes
          (m₁.headerCsv ++ "\n" ++ String.join ((m₁ :: rest).map fun m => m.lineCsv ++ "\n")))) ∧
    (m₁.cells ≠ [] → (∀ m ∈ m₁ :: rest, m.SameFields m₁ ∧ m.PlainApp) →
      Text.lines (m₁.headerCsv ++ "\n" ++ String.join ((m₁ :: rest).map fun m => m.lineCsv ++ "\n")) =
          m₁.headerCsv :: (m₁ :: rest).map (·.lineCsv) ∧
      ∀ m ∈ m₁ :: rest,
        (Text.fields ',' m.lineCsv).length = (Text.fields ',' m₁.headerCsv).length ∧
        Measurement.decodeCsv m₁.headerCsv m.lineCsv = some m ∧
        (Text.markdownCells m.lineMarkdown).length = (Text.markdownCells m₁.headerMarkdown).length ∧
        (Text.markdownCells m₁.dividerMarkdown).length =
          (Text.markdownCells m₁.headerMarkdown).length ∧
        Measurement.decodeMarkdown m₁.headerMarkdown m.lineMarkdown = some m) ∧
    (∀ r : Report, r.measurements = m₁ :: rest →
      (∃ pre post, r.render = pre ++ ("\nMeasurements:\n" ++ m₁.headerMarkdown ++ "\n" ++
        m₁.dividerMarkdown ++ "\n" ++
        String.join ((m₁ :: rest).map fun m => m.lineMarkdown ++ "\n")) ++ post) ∧
      ∃ pre post, Cli.summary r = pre ++ ("  " ++ m₁.headerMarkdown ++ "\n  " ++
        m₁.dividerMarkdown ++ "\n" ++
        String.join ((m₁ :: rest).map fun m => "  " ++ m.lineMarkdown ++ "\n")) ++ post) := by
  refine ⟨fun hp hnew => appendMeasurements_log hp hnew m₁ rest, ?_, ?_⟩
  · intro h₁ hall
    refine ⟨Measurement.lines_csvLog m₁ fun m hm => (hall m hm).2, ?_⟩
    intro m hm
    obtain ⟨hs, hplain⟩ := hall m hm
    exact ⟨Measurement.length_fields_lineCsv h₁ hs hplain,
      Measurement.decodeCsv_lineCsv h₁ hs hplain,
      Measurement.length_markdownCells_lineMarkdown h₁ hs hplain,
      Measurement.length_markdownCells_dividerMarkdown h₁,
      Measurement.decodeMarkdown_lineMarkdown h₁ hs hplain⟩
  · intro r hr
    exact ⟨Report.render_measurements r hr, Cli.summary_measurements r hr⟩

/-- Two runs that record a name and a build time, logged to `m.csv` in an empty tree: the file
holds the header and both rows, and the second row reads back under the header. -/
theorem measurementTable_two_runs :
    (∃ fs', appendMeasurements [{ app := some "a", buildTimeMs := some 5 },
        { app := some "b", buildTimeMs := some 7 }] FileTree.empty [] "m.csv" = .ok fs' ∧
      fs'.read ["m.csv"] = .ok (Text.utf8Bytes "App,buildTimeMs\na,5\nb,7\n")) ∧
    Measurement.decodeCsv "App,buildTimeMs" "b,7" =
      some { app := some "b", buildTimeMs := some 7 } := by
  have hspec := measurementTable_spec { app := some "a", buildTimeMs := some 5 }
    [{ app := some "b", buildTimeMs := some 7 }]
  have hplain : PlainName "m.csv" := by decide
  have hshort : "m.csv".utf8ByteSize ≤ 255 := by decide +kernel
  have hlocated : locate [] "m.csv" = .ok ([] ++ ["m.csv"]) := locate_plain [] hplain hshort
  have hplace : LogPlace FileTree.empty [] "m.csv" [] "m.csv" := by
    refine ⟨hlocated, fun p hp hpe => ?_, .inl fun k hk hkl => absurd hkl (by simp; omega),
      hplain.not_dotName⟩
    rw [hplain.parent?, Option.some.injEq] at hp
    subst hp
    exact absurd hpe (by decide)
  have htext : ("App,buildTimeMs" : String) =
        ({ app := some "a", buildTimeMs := some 5 } : Measurement).headerCsv ∧
      ("a,5" : String) = ({ app := some "a", buildTimeMs := some 5 } : Measurement).lineCsv ∧
      ("b,7" : String) = ({ app := some "b", buildTimeMs := some 7 } : Measurement).lineCsv := by
    decide +kernel
  obtain ⟨fs', hrun, hread⟩ := hspec.1 hplace rfl
  refine ⟨⟨fs', hrun, ?_⟩, ?_⟩
  · refine hread.trans ?_
    simp only [List.map_cons, List.map_nil, String.join_cons, String.join_nil]
    rw [← htext.1, ← htext.2.1, ← htext.2.2]
    rfl
  · have hcells : ({ app := some "a", buildTimeMs := some 5 } : Measurement).cells ≠ [] := by
      decide +kernel
    have hrow := (hspec.2.1 hcells (by
      intro m hm
      simp only [List.mem_cons, List.not_mem_nil, or_false] at hm
      rcases hm with rfl | rfl <;>
        exact ⟨⟨rfl, rfl, fun k => by cases k <;> rfl⟩, fun a ha => by cases ha; decide⟩)).2
    rw [htext.1, htext.2.2]
    exact (hrow _ (by simp)).2.1

/-- The header is written once, from the first measurement, so a later measurement that
leaves out a field the first one sets writes a row that is one field short (here the build
time): it no longer reads back, and under a header one column shorter it reads back with
its RSS in the build-time column. An application name with a comma splits its own row. -/
theorem measurementRows_misread :
    Measurement.decodeCsv
        ({ app := some "a", buildTimeMs := some 5, rssKb := some 6 } : Measurement).headerCsv
        ({ app := some "a", rssKb := some 7 } : Measurement).lineCsv = none ∧
    Measurement.decodeCsv ({ app := some "a", buildTimeMs := some 5 } : Measurement).headerCsv
        ({ app := some "a", rssKb := some 7 } : Measurement).lineCsv =
      some { app := some "a", buildTimeMs := some 7 } ∧
    Measurement.decodeCsv ({ app := some "a,b", rssKb := some 1 } : Measurement).headerCsv
        ({ app := some "a,b", rssKb := some 1 } : Measurement).lineCsv = none := by
  decide +kernel

end LaunchBench
