/-
  ScriptingBindings.Markup.Remarks
  ──────────────────────────────────
  **REMARKS.**

  A document that is not well-formed is refused at once.  Less than that is
  remarked: a fault, such as a prefix without a namespace, or a warning.  A
  document is accepted unless the last remark about it is a fault.  Of each
  kind of remark only so many are kept.
-/

namespace ScriptingBindings.Markup

/-- What was remarked about a document so far. -/
structure Remarks where
  warnings : Nat := 0
  faults : Nat := 0
  /-- The last remark that was kept is a fault. -/
  endsInFault : Bool := false
  deriving Repr, DecidableEq

namespace Remarks

/-- The most remarks of a kind that are kept. -/
def limit : Nat := 100

/-- The remarks with one more warning. -/
def warn (r : Remarks) : Remarks :=
  if r.warnings < limit then { r with warnings := r.warnings + 1, endsInFault := false } else r

/-- The remarks with one more fault. -/
def fault (r : Remarks) : Remarks :=
  if r.faults < limit then { r with faults := r.faults + 1, endsInFault := true } else r

end Remarks

end ScriptingBindings.Markup
