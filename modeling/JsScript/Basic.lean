/-
# Machine words and `MOZ_ASSERT`

`js/vm/JSScript.h` keeps its counts, spans and lengths in `uint32_t`, the flag word of a
`LazyScript` in a `uint64_t`, payload bytes as `uint8_t` and sizes in `size_t`.  Each is a bit
vector of its width here, so `refs++` wraps as the `uint32_t` counter does and `<=` is the
unsigned comparison.  The header is built for 64-bit targets: `size_t` and every pointer are
64 bits wide.

`MOZ_ASSERT(cond)` stops the program, printing the asserted expression, when `cond` is false:
a run that reaches one ends in `Fault.assertion` with that text, and one that reaches
`MOZ_CRASH(reason)` ends in `Fault.crash` with the reason.  A member call or a field access
through a pointer to an object that was freed (or never allocated) ends in `Fault.dangling`.

A sequence of calls is a `List.foldlM` in `Except`, stopping at the first call that fails; `foldlM_inv` and `foldlM_writesOnce` carry what one call does over a whole sequence.
-/

import Mathlib.Tactic.Common
import Mathlib.Algebra.Group.Nat.Basic

namespace JsScript

/-- `uint8_t`. -/
abbrev uint8_t := BitVec 8

/-- `uint16_t`. -/
abbrev uint16_t := BitVec 16

/-- `uint32_t`. -/
abbrev uint32_t := BitVec 32

/-- `uint64_t`. -/
abbrev uint64_t := BitVec 64

/-- `size_t` on the 64-bit targets. -/
abbrev size_t := BitVec 64

/-- A pointer value on the 64-bit targets; `nullptr` is `0`. -/
abbrev uintptr_t := BitVec 64

/-- How a run of the modelled code goes wrong. -/
inductive Fault
  /-- A `MOZ_ASSERT` whose condition is false, named by the asserted expression. -/
  | assertion (expr : String)
  /-- A use of the object at `ptr` after it was freed, or before it was allocated. -/
  | dangling (ptr : Nat)
  /-- A `MOZ_CRASH(reason)`, which stops the program in every build. -/
  | crash (reason : String)
  deriving DecidableEq, Repr

/-- `MOZ_ASSERT(cond)`. -/
def mozAssert (cond : Bool) (expr : String) : Except Fault Unit :=
  if cond then pure () else throw (.assertion expr)

@[simp] theorem mozAssert_true (expr : String) : mozAssert true expr = pure () := rfl

@[simp] theorem mozAssert_false (expr : String) :
    mozAssert false expr = throw (.assertion expr) := rfl

/-- `MOZ_ASSERT_IF(cond, expr)`: asserts `expr` only when `cond` holds. -/
def mozAssertIf (cond expr : Bool) (text : String) : Except Fault Unit :=
  if cond then mozAssert expr text else pure ()

@[simp] theorem mozAssertIf_false (expr : Bool) (text : String) :
    mozAssertIf false expr text = pure () := rfl

@[simp] theorem mozAssertIf_true (expr : Bool) (text : String) :
    mozAssertIf true expr text = mozAssert expr text := rfl

/-- **An assertion passes exactly when its condition holds.** -/
theorem mozAssert_eq_ok {cond : Bool} {expr : String} {u : Unit} :
    mozAssert cond expr = .ok u ↔ cond = true := by
  cases cond
  · simp [mozAssert]
  · exact iff_of_true rfl rfl

@[simp] theorem pure_eq_ok {α : Type} {a b : α} : (pure a : Except Fault α) = .ok b ↔ a = b :=
  ⟨Except.ok.inj, congrArg _⟩

/-- What follows an assertion runs exactly when the assertion passes. -/
@[simp] theorem mozAssert_bind_eq_ok {α : Type} {cond : Bool} {expr : String}
    {f : Unit → Except Fault α} {a : α} :
    (mozAssert cond expr >>= f) = .ok a ↔ cond = true ∧ f () = .ok a := by
  cases cond
  · exact iff_of_false (by rintro ⟨⟩) (by simp)
  · exact (and_iff_right rfl).symm

/-- A sequenced computation succeeds exactly when its first part does and the rest succeeds on
that result. -/
theorem bind_eq_ok {ε α β : Type} {x : Except ε α} {f : α → Except ε β} {b : β} :
    (x >>= f) = .ok b ↔ ∃ a, x = .ok a ∧ f a = .ok b := by
  cases x
  · exact iff_of_false (by rintro ⟨⟩) (by rintro ⟨_, ⟨⟩, _⟩)
  · exact ⟨fun h => ⟨_, rfl, h⟩, by rintro ⟨_, ⟨⟩, h⟩; exact h⟩

/-- `MOZ_ASSERT(has); return v;`, the body of a getter guarded by its presence test, `expr` the
asserted text. -/
def assertedRead {α : Type} (has : Bool) (expr : String) (v : α) : Except Fault α := do
  mozAssert has expr
  pure v

theorem assertedRead_eq_ok {α : Type} {has : Bool} {expr : String} {v a : α} :
    assertedRead has expr v = .ok a ↔ has = true ∧ v = a := by
  simp only [assertedRead, mozAssert_bind_eq_ok, pure_eq_ok]

/-! ### Sequences of calls -/

section Runs

variable {ε σ ι α : Type} {step : σ → ι → Except ε σ}

/-- **What every call keeps, a sequence of calls keeps.** -/
theorem foldlM_inv (P : σ → Prop) (hstep : ∀ s i s', P s → step s i = .ok s' → P s') :
    ∀ (is : List ι) {s s' : σ}, P s → is.foldlM step s = .ok s' → P s'
  | [], _, _, hs, h => by cases h; exact hs
  | i :: is, _, _, hs, h => by
    obtain ⟨s₁, h₁, h'⟩ := bind_eq_ok.1 ((List.foldlM_cons step _ i is).symm.trans h)
    exact foldlM_inv P hstep is (hstep _ _ _ hs h₁) h'

/-- A field `cell` that a call `i` writes with `written i`, only while it is unset; every other
call leaves it. -/
def WritesOnce (step : σ → ι → Except ε σ) (cell : σ → Option α) (written : ι → Option α) :
    Prop :=
  ∀ s i s', step s i = .ok s' →
    (written i = none → cell s' = cell s) ∧ ∀ a, written i = some a → cell s = none ∧ cell s' = some a

/-- **A field written once holds what was written, once.**  Along a sequence of calls that
passes its assertions, the value the field held before, followed by the values the calls wrote,
is the value it holds after: so at most one value is ever written, and none over a set field. -/
theorem foldlM_writesOnce {cell : σ → Option α} {written : ι → Option α}
    (hw : WritesOnce step cell written) :
    ∀ (is : List ι) {s s' : σ}, is.foldlM step s = .ok s' →
      (cell s).toList ++ is.filterMap written = (cell s').toList
  | [], _, _, h => by cases h; exact List.append_nil _
  | i :: is, _, _, h => by
    obtain ⟨s₁, h₁, h'⟩ := bind_eq_ok.1 ((List.foldlM_cons step _ i is).symm.trans h)
    have ih := foldlM_writesOnce hw is h'
    cases hi : written i with
    | none => rw [List.filterMap_cons_none hi, ← (hw _ _ _ h₁).1 hi, ih]
    | some a =>
      obtain ⟨h0, h1⟩ := (hw _ _ _ h₁).2 a hi
      rw [List.filterMap_cons_some hi, h0, ← ih, h1]
      rfl

end Runs

end JsScript
