/-
# `LazyScript` spans and `setToStringEnd`

A `LazyScript` (`js/vm/JSScript.h`, lines 2806-2815 and 3052-3078) records where its function
lies in the source: `sourceStart_` and `sourceEnd_`, the span the parser recompiles, and
`toStringStart_` and `toStringEnd_`, the span `Function.prototype.toString` returns.  The
comment above `JSScript::sourceStart_` (lines 1461-1490) draws the second around the first:
generators, async functions and class constructors start their to-string span earlier or end
it later.  `LazyScript.SpanOk` is that nesting.

`setToStringEnd(toStringEnd)` asserts `toStringStart_ <= toStringEnd` and
`toStringEnd_ >= sourceEnd_`, then stores.  The second assertion reads the field
`toStringEnd_`, the end being replaced, and not the argument, so on a nested span it always
passes (`setToStringEnd_eq`).  An argument between `toStringStart_` and `sourceEnd_` then passes
both assertions and leaves a to-string span that stops short of `sourceEnd_`
(`setToStringEnd_breaks_span`); the span stays nested exactly when the argument reaches
`sourceEnd_` (`setToStringEnd_spanOk_iff`).
-/

import JsScript.Basic

namespace JsScript

/-- The fields of `LazyScript` that the modelled members read and write. -/
structure LazyScript where
  /-- The word the `PackedView p_` shares in a union. -/
  packedFields_ : uint64_t
  sourceStart_ : uint32_t
  sourceEnd_ : uint32_t
  toStringStart_ : uint32_t
  toStringEnd_ : uint32_t
  deriving DecidableEq, Repr

namespace LazyScript

variable (l : LazyScript)

/-- `sourceStart()`. -/
def sourceStart : uint32_t := l.sourceStart_

/-- `sourceEnd()`. -/
def sourceEnd : uint32_t := l.sourceEnd_

/-- `sourceLength()`: `sourceEnd_ - sourceStart_`, in `uint32_t`. -/
def sourceLength : uint32_t := l.sourceEnd_ - l.sourceStart_

/-- `toStringStart()`. -/
def toStringStart : uint32_t := l.toStringStart_

/-- `toStringEnd()`. -/
def toStringEnd : uint32_t := l.toStringEnd_

/-- `setToStringEnd(toStringEnd)`. -/
def setToStringEnd (toStringEnd : uint32_t) : Except Fault LazyScript := do
  mozAssert (l.toStringStart_ ≤ toStringEnd) "toStringStart_ <= toStringEnd"
  mozAssert (l.toStringEnd_ ≥ l.sourceEnd_) "toStringEnd_ >= sourceEnd_"
  pure { l with toStringEnd_ := toStringEnd }

/-- The to-string span encloses the source span. -/
def SpanOk : Prop :=
  l.toStringStart ≤ l.sourceStart ∧ l.sourceStart ≤ l.sourceEnd ∧ l.sourceEnd ≤ l.toStringEnd

instance : Decidable l.SpanOk := inferInstanceAs (Decidable (_ ∧ _ ∧ _))

variable {l}

/-- On a nested span `sourceLength()` does not wrap. -/
theorem sourceLength_toNat (h : l.SpanOk) :
    l.sourceLength.toNat = l.sourceEnd.toNat - l.sourceStart.toNat := by
  have := h.2.1
  simp only [sourceLength, sourceEnd, sourceStart, BitVec.le_def] at this ⊢
  bv_omega

/-- **On a nested span only the first assertion can fire**: the second reads the old end,
which already reaches `sourceEnd_`. -/
theorem setToStringEnd_eq (h : l.SpanOk) (t : uint32_t) :
    l.setToStringEnd t =
      if l.toStringStart ≤ t then .ok { l with toStringEnd_ := t }
      else .error (.assertion "toStringStart_ <= toStringEnd") := by
  have h2 : decide (l.toStringEnd_ ≥ l.sourceEnd_) = true := decide_eq_true h.2.2
  by_cases ht : l.toStringStart ≤ t
  · have h1 : decide (l.toStringStart_ ≤ t) = true := decide_eq_true ht
    simp only [setToStringEnd, h1, h2, mozAssert_true, if_pos ht]; rfl
  · have h1 : decide (l.toStringStart_ ≤ t) = false := decide_eq_false ht
    simp only [setToStringEnd, h1, mozAssert_false, if_neg ht]; rfl

/-- **The span stays nested exactly when the new end reaches `sourceEnd_`.** -/
theorem setToStringEnd_spanOk_iff (h : l.SpanOk) {t : uint32_t} {l' : LazyScript}
    (hl : l.setToStringEnd t = .ok l') : l'.SpanOk ↔ l.sourceEnd ≤ t := by
  rw [setToStringEnd_eq h] at hl
  split_ifs at hl
  cases hl
  exact ⟨fun h' => h'.2.2, fun he => ⟨h.1, h.2.1, he⟩⟩

/-- The failing input of `setToStringEnd`: a nested span `[0, 10)` and the end `5`, which both
assertions accept. -/
theorem setToStringEnd_breaks_span :
    let l : LazyScript := ⟨0, 0, 10, 0, 10⟩
    l.SpanOk ∧ l.setToStringEnd 5 = .ok ⟨0, 0, 10, 0, 5⟩ ∧ ¬ (⟨0, 0, 10, 0, 5⟩ : LazyScript).SpanOk :=
  ⟨by decide, rfl, by decide⟩

end LazyScript

end JsScript
