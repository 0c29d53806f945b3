import LaunchBench.Pattern.Syntax
/-!
How deeply a pattern nests.

Groups, repetitions, alternatives, sequences of two or more items and
bracketed classes each open a level, and so do, inside a bracket, nested
brackets, unions of two or more items and set operations. A pattern may
nest at most `nestLimit` levels. The construct at fault is the first, in
the order written, whose level lies past the limit.

* **`tooDeep_zero_limit_group`**: with no levels allowed, a group is at
  fault itself.
-/

namespace LaunchBench.Pattern

/-- The deepest nesting a pattern may have. -/
def nestLimit : Nat := 250

mutual
/-- The first construct of class contents at depth `d` or below that lies past `limit`. -/
def classSetTooDeep (limit : Nat) : Nat → ClassSet → Option Span
  | d, .items sp xs =>
    if 2 ≤ xs.length then
      if limit < d + 1 then some sp else classItemsTooDeep limit (d + 1) xs
    else classItemsTooDeep limit d xs
  | d, .op sp _ lhs rhs =>
    if limit < d + 1 then some sp
    else (classSetTooDeep limit (d + 1) lhs).orElse fun _ => classSetTooDeep limit (d + 1) rhs

/-- The first construct among class items at depth `d` that lies past `limit`. -/
def classItemsTooDeep (limit : Nat) : Nat → List ClassItem → Option Span
  | _, [] => none
  | d, .bracketed sp _ s :: xs =>
    (if limit < d + 1 then some sp else classSetTooDeep limit (d + 1) s).orElse
      fun _ => classItemsTooDeep limit d xs
  | d, _ :: xs => classItemsTooDeep limit d xs
end

mutual
/-- The first construct at depth `d` or below that lies past `limit`. -/
def tooDeep (limit : Nat) : Nat → Ast → Option Span
  | d, .bracketed sp _ s => if limit < d + 1 then some sp else classSetTooDeep limit (d + 1) s
  | d, .repetition sp _ _ _ a => if limit < d + 1 then some sp else tooDeep limit (d + 1) a
  | d, .group sp _ a => if limit < d + 1 then some sp else tooDeep limit (d + 1) a
  | d, .alternation sp as => if limit < d + 1 then some sp else tooDeepAll limit (d + 1) as
  | d, .concat sp as => if limit < d + 1 then some sp else tooDeepAll limit (d + 1) as
  | _, _ => none

/-- The first construct among items at depth `d` that lies past `limit`. -/
def tooDeepAll (limit : Nat) : Nat → List Ast → Option Span
  | _, [] => none
  | d, a :: as => (tooDeep limit d a).orElse fun _ => tooDeepAll limit d as
end

theorem tooDeep_zero_limit_group (sp : Span) (k : GroupKind) (a : Ast) :
    tooDeep 0 0 (.group sp k a) = some sp := by
  simp [tooDeep]

/-- The failure of a pattern that nests too deeply, if it does. -/
def Ast.nestingError (a : Ast) : Option Error :=
  (tooDeep nestLimit 0 a).map fun sp => { kind := .nestLimitExceeded nestLimit, span := sp }

end LaunchBench.Pattern
