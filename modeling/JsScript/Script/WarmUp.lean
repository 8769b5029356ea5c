/-
# `JSScript` warm-up counters

`src/src/js/vm/JSScript.h`, lines 1498-1510 (`warmUpCount`, `warmUpResetCount`) and 2331-2339
(their accessors).

`warmUpCount` counts the calls of a script and the loop back edges taken in it, for the
heuristics of the JITs; `resetWarmUpCounter()` clears it when the script's JIT code is discarded,
and counts that in `warmUpResetCount`.  Both are machine counters: `+=` wraps at `2^32` for the
`uint32_t` and at `2^16` for the `uint16_t`.  Each accessor updates one field in place, so what a
counter holds after many calls is not written anywhere in the code.  `run_counts` says it, over
the whole history of calls on a new script: `warmUpCount` is the sum of the amounts given to
`incWarmUpCounter` since the last `resetWarmUpCounter()`, and `warmUpResetCount` the number of
`resetWarmUpCounter()` calls plus the amounts given to `incWarmUpResetCounter` since the last
`resetWarmUpResetCounter()`, each modulo its width.
-/

import Mathlib
import JsScript.Basic

namespace JsScript

/-- The warm-up fields of `JSScript`. -/
structure WarmUpCounters where
  /-- `mozilla::Atomic<uint32_t, mozilla::Relaxed> warmUpCount`; each access is one atomic
  operation. -/
  warmUpCount : uint32_t
  warmUpResetCount : uint16_t
  deriving DecidableEq, Repr

/-- The accessors of the warm-up counters that change them. -/
inductive WarmUpOp
  /-- `incWarmUpCounter(amount)`; `amount` defaults to `1`. -/
  | incWarmUpCounter (amount : uint32_t)
  | resetWarmUpCounter
  /-- `incWarmUpResetCounter(amount)`; `amount` defaults to `1`. -/
  | incWarmUpResetCounter (amount : uint16_t)
  | resetWarmUpResetCounter
  deriving DecidableEq, Repr

namespace WarmUpCounters

variable (c : WarmUpCounters)

/-- `warmUpCount = {}` and `warmUpResetCount = 0`. -/
def create : WarmUpCounters := ⟨0, 0⟩

/-- `getWarmUpCount()`. -/
def getWarmUpCount : uint32_t := c.warmUpCount

/-- `incWarmUpCounter(amount)`: `return warmUpCount += amount;`. -/
def incWarmUpCounter (amount : uint32_t) : uint32_t × WarmUpCounters :=
  (c.warmUpCount + amount, { c with warmUpCount := c.warmUpCount + amount })

/-- `getWarmUpResetCount()`. -/
def getWarmUpResetCount : uint16_t := c.warmUpResetCount

/-- `incWarmUpResetCounter(amount)`: `return warmUpResetCount += amount;`. -/
def incWarmUpResetCounter (amount : uint16_t) : uint16_t × WarmUpCounters :=
  (c.warmUpResetCount + amount, { c with warmUpResetCount := c.warmUpResetCount + amount })

/-- `resetWarmUpCounter()`: `incWarmUpResetCounter(); warmUpCount = 0;`. -/
def resetWarmUpCounter : WarmUpCounters := { (c.incWarmUpResetCounter 1).2 with warmUpCount := 0 }

/-- `resetWarmUpResetCounter()`. -/
def resetWarmUpResetCounter : WarmUpCounters := { c with warmUpResetCount := 0 }

/-- One call. -/
def step : WarmUpOp → WarmUpCounters
  | .incWarmUpCounter amount => (c.incWarmUpCounter amount).2
  | .resetWarmUpCounter => c.resetWarmUpCounter
  | .incWarmUpResetCounter amount => (c.incWarmUpResetCounter amount).2
  | .resetWarmUpResetCounter => c.resetWarmUpResetCounter

/-- A sequence of calls. -/
def run (ops : List WarmUpOp) : WarmUpCounters := ops.foldl step c

end WarmUpCounters

namespace WarmUpOp

/-- What a call adds to `warmUpCount`. -/
def warmUp : WarmUpOp → Nat
  | .incWarmUpCounter amount => amount.toNat
  | _ => 0

/-- What a call adds to `warmUpResetCount`: `resetWarmUpCounter()` counts itself once. -/
def resets : WarmUpOp → Nat
  | .resetWarmUpCounter => 1
  | .incWarmUpResetCounter amount => amount.toNat
  | _ => 0

/-- The calls of `ops` after the last one that `clears`, in order. -/
def since (clears : WarmUpOp → Bool) (ops : List WarmUpOp) : List WarmUpOp :=
  (ops.reverse.takeWhile (!clears ·)).reverse

theorem since_append_singleton (clears : WarmUpOp → Bool) (ops : List WarmUpOp) (op : WarmUpOp) :
    since clears (ops ++ [op]) = if clears op then [] else since clears ops ++ [op] := by
  cases h : clears op <;> simp [since, List.takeWhile_cons, h]

theorem sum_since_append_singleton (clears : WarmUpOp → Bool) (gain : WarmUpOp → Nat)
    (ops : List WarmUpOp) (op : WarmUpOp) :
    ((since clears (ops ++ [op])).map gain).sum =
      if clears op then 0 else ((since clears ops).map gain).sum + gain op := by
  rw [since_append_singleton]
  split <;> simp

end WarmUpOp

namespace WarmUpCounters

/-- `x += amount` on a `w`-bit counter that holds `n` modulo `2^w`. -/
theorem toNat_add_mod {w n : Nat} {x amount : BitVec w} (h : x.toNat = n % 2 ^ w) :
    (x + amount).toNat = (n + amount.toNat) % 2 ^ w := by
  rw [BitVec.toNat_add, h, Nat.mod_add_mod]

/-- One call adds to each counter what it adds, or clears it. -/
theorem step_counts {c : WarmUpCounters} {nw nr : Nat} (hw : c.warmUpCount.toNat = nw % 2 ^ 32)
    (hr : c.warmUpResetCount.toNat = nr % 2 ^ 16) (op : WarmUpOp) :
    (c.step op).warmUpCount.toNat =
        (if op == .resetWarmUpCounter then 0 else nw + op.warmUp) % 2 ^ 32 ∧
      (c.step op).warmUpResetCount.toNat =
        (if op == .resetWarmUpResetCounter then 0 else nr + op.resets) % 2 ^ 16 := by
  cases op with
  | incWarmUpCounter amount => exact ⟨toNat_add_mod hw, by simpa [WarmUpOp.resets] using hr⟩
  | resetWarmUpCounter => exact ⟨rfl, toNat_add_mod hr⟩
  | incWarmUpResetCounter amount => exact ⟨by simpa [WarmUpOp.warmUp] using hw, toNat_add_mod hr⟩
  | resetWarmUpResetCounter => exact ⟨by simpa [WarmUpOp.warmUp] using hw, rfl⟩

/-- **What the warm-up counters count.**  After any sequence of the accessors on a new script,
`warmUpCount` is the sum of the amounts given to `incWarmUpCounter` since the last
`resetWarmUpCounter()`, modulo `2^32`, and `warmUpResetCount` is the number of
`resetWarmUpCounter()` calls plus the amounts given to `incWarmUpResetCounter` since the last
`resetWarmUpResetCounter()`, modulo `2^16`. -/
theorem run_counts (ops : List WarmUpOp) :
    (create.run ops).getWarmUpCount.toNat =
        ((WarmUpOp.since (· == .resetWarmUpCounter) ops).map WarmUpOp.warmUp).sum % 2 ^ 32 ∧
      (create.run ops).getWarmUpResetCount.toNat =
        ((WarmUpOp.since (· == .resetWarmUpResetCounter) ops).map WarmUpOp.resets).sum % 2 ^ 16 := by
  induction ops using List.reverseRecOn with
  | nil => exact ⟨rfl, rfl⟩
  | append_singleton ops op ih =>
    rw [WarmUpOp.sum_since_append_singleton, WarmUpOp.sum_since_append_singleton, run,
      List.foldl_concat]
    exact step_counts ih.1 ih.2 op

/-- The count wraps: `2^32 - 1` calls and one more leave `warmUpCount` at `0`. -/
example : (create.run [.incWarmUpCounter 0xFFFFFFFF, .incWarmUpCounter 1]).getWarmUpCount = 0 := by
  decide

end WarmUpCounters

end JsScript
