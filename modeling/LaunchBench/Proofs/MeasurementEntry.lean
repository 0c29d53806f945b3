import LaunchBench.Proofs.MeasurementRefusal
import LaunchBench.Proofs.MeasurementTable
/-!
Entering values into a measurement.

A measurement is made by a sequence of calls on a builder for one host family: the application,
the mode, and the seven numbers, each through its own setter. A number setter refuses a value
that is not positive, with an error that names its column and the value, except the stop time on
Windows, which then leaves the builder as it was; a positive value sets the setter's own field
and nothing else. A sequence of calls stops at its first refused call.

The fields a sequence leaves are described without the builder: each holds the last value the
calls gave it (`lastOf`), the numbers counting only positive values, or its earlier value when
the calls gave none (`Measurement.Takes`).

* **`MeasurementBuilder.callAll_eq_error_iff`**: a sequence of calls fails exactly at its first
  refused call, with that call's error.
* **`MeasurementBuilder.callAll_takes`**: a sequence that refuses nothing leaves each field with
  the last value the calls gave it.
* **`measurementEntry_spec`**: the setters' laws on one host family, and what a sequence of
  calls from a new builder gives: the error of its first refused call, or a measurement whose
  numbers are unset or the last positive value given, and whose application and mode are the
  last given.
-/

namespace LaunchBench

/-- A call of one of a measurement builder's setters, with its argument. -/
inductive BuilderCall where
  /-- Sets the application. -/
  | app (name : String)
  /-- Sets the mode. -/
  | mode (m : Mode)
  /-- Gives a number to the setter of a numeric field. -/
  | metric (k : Metric) (v : Int)

namespace BuilderCall

/-- The error with which a builder on a host of family `os` refuses the call: a number that is
not positive, unless it is a stop time on Windows, refused with the field's column and the
value. -/
def refusal (os : OsFamily) : BuilderCall → Option NonPositive
  | .metric k v => if v ≤ 0 ∧ ¬ (k = .stoppedIn ∧ os.isWindows = true) then some ⟨k.column, v⟩
    else none
  | _ => none

/-- The value the call gives the numeric field `k`: a positive number given to its setter. -/
def metricValue (k : Metric) : BuilderCall → Option Int
  | .metric k' v => if k' = k ∧ 0 < v then some v else none
  | _ => none

/-- The application the call gives. -/
def appName : BuilderCall → Option String
  | .app a => some a
  | _ => none

/-- The mode the call gives. -/
def modeValue : BuilderCall → Option Mode
  | .mode m => some m
  | _ => none

end BuilderCall

/-- The last value that `f` reads off the calls. -/
def lastOf {α : Type} (f : BuilderCall → Option α) (cs : List BuilderCall) : Option α :=
  (cs.filterMap f).getLast?

section LastOf

variable {α : Type} (f : BuilderCall → Option α)

@[simp] theorem lastOf_nil : lastOf f [] = none := rfl

@[simp] theorem lastOf_singleton (c : BuilderCall) : lastOf f [c] = f c := by
  cases h : f c <;> simp [lastOf, h]

/-- The later calls' value wins. -/
theorem lastOf_append (cs₁ cs₂ : List BuilderCall) :
    lastOf f (cs₁ ++ cs₂) = (lastOf f cs₂).or (lastOf f cs₁) := by
  simp only [lastOf, List.filterMap_append, List.getLast?_append]

/-- A number the calls give a field is positive. -/
theorem lastOf_metricValue_pos {k : Metric} {cs : List BuilderCall} {v : Int}
    (h : lastOf (·.metricValue k) cs = some v) : 0 < v := by
  obtain ⟨c, -, hc⟩ := List.mem_filterMap.1 (List.mem_of_getLast? h)
  cases c with
  | metric k' x =>
    simp only [BuilderCall.metricValue] at hc
    split at hc
    · cases hc
      omega
    · cases hc
  | app | mode => cases hc

end LastOf

namespace Measurement

variable (m : Measurement) (k k' : Metric) (v : Int)

/-- Setting a numeric field changes that field alone. -/
theorem get_set : (m.set k v).get k' = if k' = k then some v else m.get k' := by
  split
  · rename_i h
    subst h
    exact get_set_self m k' v
  · exact get_set_ne m v ‹_›

@[simp] theorem get_empty : ({} : Measurement).get k = none := by cases k <;> rfl

/-- `m` is `m₀` after the accepted calls `cs`: each field holds the last value the calls gave
it, or its value in `m₀` when they gave it none. -/
structure Takes (m₀ : Measurement) (cs : List BuilderCall) (m : Measurement) : Prop where
  metric : ∀ k, m.get k = (lastOf (·.metricValue k) cs).or (m₀.get k)
  app : m.app = (lastOf BuilderCall.appName cs).or m₀.app
  mode : m.mode = (lastOf BuilderCall.modeValue cs).or m₀.mode

theorem Takes.nil (m : Measurement) : m.Takes [] m :=
  ⟨fun _ => rfl, rfl, rfl⟩

/-- Two stretches of calls, one after the other. -/
theorem Takes.trans {m₀ m₁ m₂ : Measurement} {cs₁ cs₂ : List BuilderCall}
    (h₁ : m₀.Takes cs₁ m₁) (h₂ : m₁.Takes cs₂ m₂) : m₀.Takes (cs₁ ++ cs₂) m₂ where
  metric k := by rw [h₂.metric, h₁.metric, lastOf_append, Option.or_assoc]
  app := by rw [h₂.app, h₁.app, lastOf_append, Option.or_assoc]
  mode := by rw [h₂.mode, h₁.mode, lastOf_append, Option.or_assoc]

end Measurement

namespace MeasurementBuilder

/-- Makes one call on a builder. -/
def call (b : MeasurementBuilder) : BuilderCall → Except NonPositive MeasurementBuilder
  | .app a => .ok (b.app a)
  | .mode m => .ok (b.mode m)
  | .metric k v => b.put k v

/-- Makes calls in order, stopping at the first refused one. -/
def callAll (b : MeasurementBuilder) (cs : List BuilderCall) :
    Except NonPositive MeasurementBuilder :=
  cs.foldlM call b

variable {b b' : MeasurementBuilder} {c : BuilderCall} {e : NonPositive}

@[simp] theorem new_record (os : OsFamily) : (new os).record = {} := rfl

theorem callAll_nil (b : MeasurementBuilder) : b.callAll [] = .ok b := rfl

theorem callAll_cons (b : MeasurementBuilder) (c : BuilderCall) (cs : List BuilderCall) :
    b.callAll (c :: cs) = (b.call c >>= fun b' => b'.callAll cs) := rfl

/-- On Windows a stop time that is not positive leaves the builder as it was. -/
theorem put_stop_windows (hw : b.os.isWindows = true) {v : Int} (hv : v ≤ 0) :
    b.put .stoppedIn v = .ok b := by
  simp [put, hv, hw]

/-- A call fails exactly when it is refused, with its refusal. -/
theorem call_eq_error_iff : b.call c = .error e ↔ c.refusal b.os = some e := by
  cases c with
  | app a => simp [call, BuilderCall.refusal]
  | mode m => simp [call, BuilderCall.refusal]
  | metric k v =>
    rw [call, put_eq_error_iff, BuilderCall.refusal]
    by_cases h : v ≤ 0 ∧ ¬ (k = .stoppedIn ∧ b.os.isWindows = true)
    · rw [if_pos h, Option.some.injEq]
      constructor
      · rintro ⟨-, -, rfl⟩
        rfl
      · rintro rfl
        exact ⟨h.1, h.2, rfl⟩
    · rw [if_neg h]
      simp only [reduceCtorEq, iff_false]
      exact fun ⟨hv, hk, _⟩ => h ⟨hv, hk⟩

theorem refusal_eq_none_of_call (h : b.call c = .ok b') : c.refusal b.os = none := by
  cases hr : c.refusal b.os with
  | none => rfl
  | some e =>
    rw [call_eq_error_iff.2 hr] at h
    cases h

theorem call_os (h : b.call c = .ok b') : b'.os = b.os := by
  cases c with
  | app | mode => cases h; rfl
  | metric k v => exact put_os h

/-- An accepted call gives its field its value and leaves the rest. -/
theorem call_takes (h : c.refusal b.os = none) :
    ∃ b', b.call c = .ok b' ∧ b'.os = b.os ∧ b.record.Takes [c] b'.record := by
  cases c with
  | app a =>
    refine ⟨b.app a, rfl, rfl, ⟨fun k => ?_, ?_, ?_⟩⟩ <;>
      simp [MeasurementBuilder.app, BuilderCall.metricValue, BuilderCall.appName,
        BuilderCall.modeValue, Measurement.get]
  | mode md =>
    refine ⟨b.mode md, rfl, rfl, ⟨fun k => ?_, ?_, ?_⟩⟩ <;>
      simp [MeasurementBuilder.mode, BuilderCall.metricValue, BuilderCall.appName,
        BuilderCall.modeValue, Measurement.get]
  | metric k v =>
    by_cases hv : 0 < v
    · -- a positive value is set in its own field
      refine ⟨_, put_pos b k hv, rfl, ⟨fun k' => ?_, ?_, ?_⟩⟩
      · rw [lastOf_singleton, Measurement.get_set, BuilderCall.metricValue]
        by_cases hk : k' = k
        · simp [hk, hv]
        · simp [hk, Ne.symm hk]
      · simp [BuilderCall.appName]
      · simp [BuilderCall.modeValue]
    · -- not refused, so a stop time on Windows, which changes nothing
      have hw : k = .stoppedIn ∧ b.os.isWindows = true := by
        by_contra hw
        simp [BuilderCall.refusal, Int.not_lt.1 hv, hw] at h
      obtain ⟨rfl, hw⟩ := hw
      refine ⟨b, put_stop_windows hw (Int.not_lt.1 hv), rfl, ⟨fun k' => ?_, ?_, ?_⟩⟩
      · simp [BuilderCall.metricValue, hv]
      · simp [BuilderCall.appName]
      · simp [BuilderCall.modeValue]

/-- A sequence of calls fails exactly at its first refused call, with that call's error. The
induction is on the calls, over the builder, whose host family no accepted call changes. -/
theorem callAll_eq_error_iff (b : MeasurementBuilder) (cs : List BuilderCall) :
    b.callAll cs = .error e ↔ cs.findSome? (·.refusal b.os) = some e := by
  induction cs generalizing b with
  | nil => simp [callAll_nil]
  | cons c cs ih =>
    rw [callAll_cons, List.findSome?_cons]
    cases h : b.call c with
    | error e₁ =>
      rw [call_eq_error_iff.1 h]
      simp only [error_bind, Except.error.injEq, Option.some.injEq]
    | ok b₁ =>
      rw [refusal_eq_none_of_call h, ok_bind, ih b₁, call_os h]

/-- A sequence of calls that refuses nothing leaves each field with the last value the calls
gave it. -/
theorem callAll_takes (b : MeasurementBuilder) (cs : List BuilderCall)
    (h : ∀ c ∈ cs, c.refusal b.os = none) :
    ∃ b', b.callAll cs = .ok b' ∧ b'.os = b.os ∧ b.record.Takes cs b'.record := by
  induction cs generalizing b with
  | nil => exact ⟨b, rfl, rfl, .nil _⟩
  | cons c cs ih =>
    obtain ⟨b₁, h₁, hos₁, ht₁⟩ := call_takes (h c List.mem_cons_self)
    obtain ⟨b₂, h₂, hos₂, ht₂⟩ := ih b₁ fun c' hc' => hos₁ ▸ h c' (List.mem_cons_of_mem c hc')
    refine ⟨b₂, ?_, hos₂.trans hos₁, ht₁.trans ht₂⟩
    rw [callAll_cons, h₁, ok_bind, h₂]

end MeasurementBuilder

/-- What the setters of a measurement builder do on a host of family `os`. -/
structure SetterLaws (os : OsFamily) : Prop where
  /-- A number setter refuses exactly a value that is not positive, unless it is a stop time
  on Windows, with an error naming the field's column and the value. -/
  refuses : ∀ (b : MeasurementBuilder) (k : Metric) (v : Int) (e : NonPositive), b.os = os →
    (b.put k v = .error e ↔
      (v ≤ 0 ∧ ¬ (k = .stoppedIn ∧ os.isWindows = true)) ∧ e = ⟨k.column, v⟩)
  /-- A positive value sets the setter's own field and changes nothing else. -/
  sets : ∀ (b : MeasurementBuilder) (k : Metric) (v : Int), 0 < v →
    ∃ b', b.put k v = .ok b' ∧ b'.os = b.os ∧ b'.record.app = b.record.app ∧
      b'.record.mode = b.record.mode ∧
      ∀ k', b'.record.get k' = if k' = k then some v else b.record.get k'
  /-- On Windows a stop time that is not positive leaves the builder as it was. -/
  keepsStop : ∀ (b : MeasurementBuilder) (v : Int), b.os = os → os.isWindows = true → v ≤ 0 →
    b.put .stoppedIn v = .ok b
  /-- A sequence of calls from a new builder fails exactly at its first refused call, with
  that call's error. -/
  fails : ∀ (cs : List BuilderCall) (e : NonPositive),
    (MeasurementBuilder.new os).callAll cs = .error e ↔ cs.findSome? (·.refusal os) = some e
  /-- A sequence of calls from a new builder that refuses nothing builds a measurement whose
  every number is unset or the last positive value given to it, and whose application and mode
  are the last given. -/
  builds : ∀ cs : List BuilderCall, (∀ c ∈ cs, c.refusal os = none) →
    ∃ b, (MeasurementBuilder.new os).callAll cs = .ok b ∧
      (∀ k, b.record.get k = lastOf (·.metricValue k) cs) ∧
      (∀ k v, b.record.get k = some v → 0 < v) ∧
      b.record.app = lastOf BuilderCall.appName cs ∧
      b.record.mode = lastOf BuilderCall.modeValue cs

/-- The setters of a measurement builder refuse exactly the values that are not positive,
naming the field's column and the value, except a stop time on Windows, which is then left
out; a positive value sets its own field alone. So a sequence of calls from a new builder
fails at its first refused call, and otherwise builds a measurement whose numbers are unset or
the last positive value given, with the last application and mode given. -/
theorem measurementEntry_spec (os : OsFamily) : SetterLaws os where
  refuses b k v e hos := by
    rw [MeasurementBuilder.put_eq_error_iff, hos, and_assoc]
  sets b k v hv :=
    ⟨_, MeasurementBuilder.put_pos b k hv, rfl, by simp, by simp,
      fun k' => Measurement.get_set _ _ _ _⟩
  keepsStop b v hos hw hv := MeasurementBuilder.put_stop_windows (hos ▸ hw) hv
  fails _ _ := MeasurementBuilder.callAll_eq_error_iff _ _
  builds cs h := by
    obtain ⟨b, hrun, -, ht⟩ := MeasurementBuilder.callAll_takes (.new os) cs h
    -- a new builder's fields are all unset, so only what the calls gave is left
    have hget : ∀ k, b.record.get k = lastOf (·.metricValue k) cs := fun k => by
      simpa using ht.metric k
    refine ⟨b, hrun, hget, fun k v hv => lastOf_metricValue_pos ((hget k).symm.trans hv), ?_, ?_⟩
    · simpa using ht.app
    · simpa using ht.mode

end LaunchBench
