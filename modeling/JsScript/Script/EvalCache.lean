/-
# The eval-cache flags of `JSScript`

`src/src/js/vm/JSScript.h`, lines 1578-1585 (`hasRunOnce_`, `isActiveEval_`, `isCachedEval_`)
and 1905-1928 (`isActiveEval` … `setActiveEval`).

A script made by `eval` is active while it runs; the eval cache then takes it with
`cacheForEval()` and hands it out again with `uncacheForEval()`.  Each asserts the state it
expects, and caching clears `hasRunOnce_` so that a run-once script can run again.

Starting from an eval script that is active, or cached, a sequence of cache calls passes all its
assertions exactly when it alternates between the two calls, beginning with the one the state
allows (`evalRun_ok_iff`).  Along such a sequence the script is active or cached and never both,
a cached script has not run, and no other field changes (`evalRun_state`).
-/

import JsScript.Script.Data

namespace JsScript

namespace JSScript

variable (s : JSScript)

/-- `isActiveEval()`. -/
def isActiveEval : Bool := s.isActiveEval_

/-- `isCachedEval()`. -/
def isCachedEval : Bool := s.isCachedEval_

/-- `cacheForEval()`. -/
def cacheForEval : Except Fault JSScript := do
  mozAssert s.isActiveEval "isActiveEval()"
  mozAssert (!s.isCachedEval) "!isCachedEval()"
  pure { s with isActiveEval_ := false, isCachedEval_ := true, hasRunOnce_ := false }

/-- `uncacheForEval()`. -/
def uncacheForEval : Except Fault JSScript := do
  mozAssert s.isCachedEval "isCachedEval()"
  mozAssert (!s.isActiveEval) "!isActiveEval()"
  pure { s with isCachedEval_ := false, isActiveEval_ := true }

/-- `setActiveEval()`. -/
def setActiveEval : JSScript := { s with isActiveEval_ := true }

/-- The eval-cache state of a script: cached (`true`) or active (`false`), never both, and not
run since it was cached. -/
structure EvalState (cached : Bool) : Prop where
  active_eq : s.isActiveEval_ = !cached
  cached_eq : s.isCachedEval_ = cached
  not_run : cached → s.hasRunOnce_ = false

/-- The same script up to the three eval-cache flags. -/
def sameBut (other : JSScript) : Prop :=
  { other with
    hasRunOnce_ := s.hasRunOnce_
    isActiveEval_ := s.isActiveEval_
    isCachedEval_ := s.isCachedEval_ } = s

end JSScript

/-- A call into the eval cache. -/
inductive EvalCacheOp
  | cacheForEval
  | uncacheForEval
  deriving DecidableEq, Repr

namespace JSScript

variable (s : JSScript)

/-- One call. -/
def evalCacheStep : EvalCacheOp → Except Fault JSScript
  | .cacheForEval => s.cacheForEval
  | .uncacheForEval => s.uncacheForEval

/-- A sequence of calls, stopping at the first failed assertion. -/
def evalRun (ops : List EvalCacheOp) : Except Fault JSScript := ops.foldlM evalCacheStep s

/-- The call allowed in the state `cached`. -/
def EvalCacheOp.allowed : Bool → EvalCacheOp
  | false => .cacheForEval
  | true => .uncacheForEval

/-- The sequences that alternate, beginning with the call allowed in the state `cached`. -/
def alternates : Bool → List EvalCacheOp → Bool
  | _, [] => true
  | cached, op :: ops => op == EvalCacheOp.allowed cached && alternates (!cached) ops

variable {s}

/-- The call the state allows moves the script to the other state. -/
theorem evalCacheStep_allowed {cached : Bool} (h : s.EvalState cached) :
    ∃ s', s.evalCacheStep (EvalCacheOp.allowed cached) = .ok s' ∧ s'.EvalState (!cached) ∧
      s.sameBut s' := by
  obtain ⟨ha, hc, -⟩ := h
  cases s
  cases cached <;> simp only [Bool.not_false, Bool.not_true] at ha hc <;> subst ha hc <;>
    exact ⟨_, rfl, ⟨rfl, rfl, fun h => by first | rfl | cases h⟩, rfl⟩

/-- The other call fails at an assertion. -/
theorem evalCacheStep_refused {cached : Bool} (h : s.EvalState cached) {op : EvalCacheOp}
    (hop : op ≠ EvalCacheOp.allowed cached) : ∃ e, s.evalCacheStep op = .error e := by
  obtain ⟨ha, hc, -⟩ := h
  cases s
  cases cached <;> cases op <;> simp only [Bool.not_false, Bool.not_true] at ha hc <;>
    subst ha hc <;> first | exact absurd rfl hop | exact ⟨_, rfl⟩

theorem sameBut_refl (s : JSScript) : s.sameBut s := by
  cases s; rfl

theorem sameBut_trans {s₁ s₂ : JSScript} (h₁ : s.sameBut s₁) (h₂ : s₁.sameBut s₂) : s.sameBut s₂ := by
  cases s; cases s₁; cases s₂
  simp_all [sameBut]

theorem evalRun_cons (op : EvalCacheOp) (ops : List EvalCacheOp) :
    s.evalRun (op :: ops) = s.evalCacheStep op >>= fun s₁ => s₁.evalRun ops := rfl

/-- **The eval cache's calls pass their assertions exactly when they alternate**, beginning with
the call the state allows. -/
theorem evalRun_ok_iff {cached : Bool} (h : s.EvalState cached) (ops : List EvalCacheOp) :
    (∃ s', s.evalRun ops = .ok s') ↔ alternates cached ops = true := by
  induction ops generalizing s cached with
  | nil => exact iff_of_true ⟨s, rfl⟩ rfl
  | cons op ops ih =>
    simp only [alternates, Bool.and_eq_true, beq_iff_eq, evalRun_cons]
    by_cases hop : op = EvalCacheOp.allowed cached
    · subst hop
      obtain ⟨s₁, hs₁, hst, -⟩ := evalCacheStep_allowed h
      rw [hs₁]
      exact (ih hst).trans (and_iff_right rfl).symm
    · obtain ⟨e, he⟩ := evalCacheStep_refused h hop
      rw [he]
      exact iff_of_false (by rintro ⟨_, ⟨⟩⟩) (fun h => hop h.1)

/-- An active eval script may be cached, handed out and cached again. -/
theorem evalRun_ok_iff_active :
    let s : JSScript := { (default : JSScript) with isActiveEval_ := true }
    s.EvalState false ∧
      ((∃ s', s.evalRun [.cacheForEval, .uncacheForEval, .cacheForEval] = .ok s') ↔
        alternates false [.cacheForEval, .uncacheForEval, .cacheForEval] = true) :=
  ⟨⟨rfl, rfl, fun h => absurd h (by decide)⟩,
    evalRun_ok_iff ⟨rfl, rfl, fun h => absurd h (by decide)⟩ _⟩

/-- **Along an accepted sequence the script flips between active and cached** at every call,
stays never both, is not run while cached, and keeps every other field. -/
theorem evalRun_state {cached : Bool} (h : s.EvalState cached) {ops : List EvalCacheOp}
    {s' : JSScript} (hr : s.evalRun ops = .ok s') :
    s'.EvalState (cached ^^ (ops.length % 2 == 1)) ∧ s.sameBut s' := by
  induction ops generalizing s cached with
  | nil =>
    injection hr with hr
    subst hr
    exact ⟨by simpa using h, sameBut_refl _⟩
  | cons op ops ih =>
    rw [evalRun_cons] at hr
    by_cases hop : op = EvalCacheOp.allowed cached
    · subst hop
      obtain ⟨s₁, hs₁, hst, hsame⟩ := evalCacheStep_allowed h
      rw [hs₁] at hr
      obtain ⟨hst', hsame'⟩ := ih hst hr
      have hpar : ((!cached) ^^ (ops.length % 2 == 1)) =
          (cached ^^ ((ops.length + 1) % 2 == 1)) := by
        rcases Nat.mod_two_eq_zero_or_one ops.length with hl | hl <;>
          cases cached <;> simp [hl, Nat.add_mod]
      rw [List.length_cons, ← hpar]
      exact ⟨hst', sameBut_trans hsame hsame'⟩
    · obtain ⟨e, he⟩ := evalCacheStep_refused h hop
      rw [he] at hr
      cases hr

/-- Caching an active eval script that has run leaves it cached and not run. -/
theorem evalRun_state_cached :
    let s : JSScript := { (default : JSScript) with isActiveEval_ := true, hasRunOnce_ := true }
    let s' : JSScript := { s with isActiveEval_ := false, isCachedEval_ := true, hasRunOnce_ := false }
    s.EvalState false ∧ s.evalRun [.cacheForEval] = .ok s' ∧
      (s'.EvalState (false ^^ ([EvalCacheOp.cacheForEval].length % 2 == 1)) ∧ s.sameBut s') := by
  intro s s'
  have hs : s.EvalState false := ⟨rfl, rfl, fun h => absurd h (by decide)⟩
  have hr : s.evalRun [.cacheForEval] = .ok s' := rfl
  exact ⟨hs, hr, evalRun_state hs hr⟩

end JSScript

end JsScript
