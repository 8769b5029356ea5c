/-
# The JIT tier slots of `JSScript`

`src/src/js/vm/JSScript.h`, lines 55-59 (the reserved pointers), 1424-1432 (the `ion` and
`baseline` members), 1887, 1956-1957 and 2096-2135 (`hasIonScript` … `baselineScript`) and
2157-2163 (`isRelazifiable`).

Each tier slot of a script is a raw pointer.  Besides a real `IonScript*`, the `ion` slot may
hold one of three reserved addresses, `ION_DISABLED_SCRIPT`, `ION_COMPILING_SCRIPT` and
`ION_PENDING_SCRIPT`; the `baseline` slot may hold `BASELINE_DISABLED_SCRIPT`.  The predicates
compare the pointer with these addresses, and two of them check the order of the tiers:
`hasIonScript` asserts that a script with Ion code has a baseline pointer, and
`hasBaselineScript` asserts that a script without baseline code has its `ion` slot null or
disabled.

The slots decode into the tagged states of the design (`IonState`, `BaselineState`); decoding
loses nothing (`IonState.toPtr_ofPtr`), and each predicate is a test of the decoded state.  The
order both assertions check is `TierOk`: while the Ion slot is in use (compiling, waiting to be
linked or attached), baseline code is attached.  It is exactly the condition under which
`hasBaselineScript` returns (`hasBaselineScript_eq`), under it `hasIonScript` returns too, and
`isRelazifiable` computes the eligibility the design describes (`isRelazifiable_eq`).

`setIonScript` and `setBaselineScript` are defined in `JSScript.cpp`, outside this header, so the
transitions of the design (`markCompiling`, `markPendingLink`, `linkPending`, `attach`,
`disable`, `detachOptimizing`) are modelled from the specification, twice: on the decoded states
(`Tiers.step`) and as stores of the matching pointer into the slots (`JSScript.tierStep`).  The
stores implement the abstract steps over every run (`tierRun_tiers`).  The specification guards
only `attach` of the optimizing tier, with an ordering error, and that is weaker than the order
the header's assertions check: from an ordered script a transition keeps the order exactly
unless it marks an optimizing compilation without baseline code, or disables baseline code while
the optimizing tier is in use (`tierStep_tierOk_iff`), and on the script either one reaches,
`hasBaselineScript()` stops at its assertion.
-/

import JsScript.Script.Data

namespace JsScript

/-- `ION_DISABLED_SCRIPT`. -/
def ION_DISABLED_SCRIPT : uintptr_t := 0x1

/-- `ION_COMPILING_SCRIPT`. -/
def ION_COMPILING_SCRIPT : uintptr_t := 0x2

/-- `ION_PENDING_SCRIPT`: compiled off thread, not yet linked. -/
def ION_PENDING_SCRIPT : uintptr_t := 0x3

/-- `BASELINE_DISABLED_SCRIPT`. -/
def BASELINE_DISABLED_SCRIPT : uintptr_t := 0x1

/-! ### The decoded slots -/

/-- The states of the `ion` slot. -/
inductive IonState
  | absent
  | disabled
  | compilingOffThread
  | pendingLink
  | attached (script : uintptr_t)
  deriving DecidableEq, Repr

/-- The states of the `baseline` slot.  Baseline code is compiled on the owning thread, so the
slot has no compiling state. -/
inductive BaselineState
  | absent
  | disabled
  | attached (script : uintptr_t)
  deriving DecidableEq, Repr

namespace IonState

/-- The state the `ion` pointer encodes. -/
def ofPtr (ion : uintptr_t) : IonState :=
  if ion = 0 then .absent
  else if ion = ION_DISABLED_SCRIPT then .disabled
  else if ion = ION_COMPILING_SCRIPT then .compilingOffThread
  else if ion = ION_PENDING_SCRIPT then .pendingLink
  else .attached ion

/-- The pointer that encodes a state. -/
def toPtr : IonState → uintptr_t
  | .absent => 0
  | .disabled => ION_DISABLED_SCRIPT
  | .compilingOffThread => ION_COMPILING_SCRIPT
  | .pendingLink => ION_PENDING_SCRIPT
  | .attached script => script

/-- Ion code is attached. -/
def isAttached : IonState → Bool
  | .attached _ => true
  | _ => false

/-- The slot is in use: a compilation runs, waits to be linked, or its code is attached. -/
def inUse : IonState → Bool
  | .absent | .disabled => false
  | _ => true

/-- **Decoding loses nothing**: every pointer is the encoding of its state. -/
theorem toPtr_ofPtr (ion : uintptr_t) : (ofPtr ion).toPtr = ion := by
  unfold ofPtr
  split_ifs <;> simp_all [toPtr]

@[simp] theorem ofPtr_eq_absent_iff {ion : uintptr_t} : ofPtr ion = .absent ↔ ion = 0 :=
  ⟨fun e => by rw [← toPtr_ofPtr ion, e]; rfl, fun e => e ▸ rfl⟩

@[simp] theorem ofPtr_eq_disabled_iff {ion : uintptr_t} : ofPtr ion = .disabled ↔ ion = ION_DISABLED_SCRIPT :=
  ⟨fun e => by rw [← toPtr_ofPtr ion, e]; rfl, fun e => e ▸ rfl⟩

@[simp] theorem ofPtr_eq_compiling_iff {ion : uintptr_t} :
    ofPtr ion = .compilingOffThread ↔ ion = ION_COMPILING_SCRIPT :=
  ⟨fun e => by rw [← toPtr_ofPtr ion, e]; rfl, fun e => e ▸ rfl⟩

@[simp] theorem ofPtr_eq_pending_iff {ion : uintptr_t} :
    ofPtr ion = .pendingLink ↔ ion = ION_PENDING_SCRIPT :=
  ⟨fun e => by rw [← toPtr_ofPtr ion, e]; rfl, fun e => e ▸ rfl⟩

end IonState

namespace BaselineState

/-- The state the `baseline` pointer encodes. -/
def ofPtr (baseline : uintptr_t) : BaselineState :=
  if baseline = 0 then .absent
  else if baseline = BASELINE_DISABLED_SCRIPT then .disabled
  else .attached baseline

/-- The pointer that encodes a state. -/
def toPtr : BaselineState → uintptr_t
  | .absent => 0
  | .disabled => BASELINE_DISABLED_SCRIPT
  | .attached script => script

/-- Baseline code is attached. -/
def isAttached : BaselineState → Bool
  | .attached _ => true
  | _ => false

/-- **Decoding loses nothing**: every pointer is the encoding of its state. -/
theorem toPtr_ofPtr (baseline : uintptr_t) : (ofPtr baseline).toPtr = baseline := by
  unfold ofPtr
  split_ifs <;> simp_all [toPtr]

@[simp] theorem ofPtr_eq_disabled_iff {baseline : uintptr_t} :
    ofPtr baseline = .disabled ↔ baseline = BASELINE_DISABLED_SCRIPT :=
  ⟨fun e => by rw [← toPtr_ofPtr baseline, e]; rfl, fun e => e ▸ rfl⟩

end BaselineState

/-- The address of compiled code that a compiler hands over: never one of the reserved
addresses. -/
structure CodeHandle where
  ptr : uintptr_t
  reserved_lt : 3 < ptr.toNat

theorem CodeHandle.ptr_ne (h : CodeHandle) {p : uintptr_t} (hp : p.toNat ≤ 3) : h.ptr ≠ p := by
  intro e
  have := h.reserved_lt
  rw [e] at this
  omega

@[simp] theorem IonState.ofPtr_handle (h : CodeHandle) : ofPtr h.ptr = .attached h.ptr := by
  rw [ofPtr, if_neg (h.ptr_ne (p := 0) (by decide)),
    if_neg (h.ptr_ne (p := ION_DISABLED_SCRIPT) (by decide)),
    if_neg (h.ptr_ne (p := ION_COMPILING_SCRIPT) (by decide)),
    if_neg (h.ptr_ne (p := ION_PENDING_SCRIPT) (by decide))]

@[simp] theorem BaselineState.ofPtr_handle (h : CodeHandle) : ofPtr h.ptr = .attached h.ptr := by
  rw [ofPtr, if_neg (h.ptr_ne (p := 0) (by decide)),
    if_neg (h.ptr_ne (p := BASELINE_DISABLED_SCRIPT) (by decide))]

/-! ### The predicates of `JSScript` -/

namespace JSScript

variable (s : JSScript)

/-- `selfHosted()`. -/
def selfHosted : Bool := s.selfHosted_

/-- `isDefaultClassConstructor()`. -/
def isDefaultClassConstructor : Bool := s.isDefaultClassConstructor_

/-- `hasIonScript()`, with its `MOZ_ASSERT_IF(res, baseline)`. -/
def hasIonScript : Except Fault Bool := do
  let res := s.ion != 0 && s.ion != ION_DISABLED_SCRIPT && s.ion != ION_COMPILING_SCRIPT &&
    s.ion != ION_PENDING_SCRIPT
  mozAssertIf res (s.baseline != 0) "baseline"
  pure res

/-- `hasAnyIonScript()`. -/
def hasAnyIonScript : Except Fault Bool := s.hasIonScript

/-- `canIonCompile()`. -/
def canIonCompile : Bool := s.ion != ION_DISABLED_SCRIPT

/-- `isIonCompilingOffThread()`. -/
def isIonCompilingOffThread : Bool := s.ion == ION_COMPILING_SCRIPT

/-- `ionScript()`. -/
def ionScript : Except Fault uintptr_t := do
  mozAssert (← s.hasIonScript) "hasIonScript()"
  pure s.ion

/-- `hasBaselineScript()`, with its `MOZ_ASSERT_IF(!res, !ion || ion == ION_DISABLED_SCRIPT)`, whose
text is printed with the macro expanded. -/
def hasBaselineScript : Except Fault Bool := do
  let res := s.baseline != 0 && s.baseline != BASELINE_DISABLED_SCRIPT
  mozAssertIf (!res) (s.ion == 0 || s.ion == ION_DISABLED_SCRIPT)
    "!ion || ion == ((js::jit::IonScript*)0x1)"
  pure res

/-- `canBaselineCompile()`. -/
def canBaselineCompile : Bool := s.baseline != BASELINE_DISABLED_SCRIPT

/-- `baselineScript()`. -/
def baselineScript : Except Fault uintptr_t := do
  mozAssert (← s.hasBaselineScript) "hasBaselineScript()"
  pure s.baseline

/-- `isRelazifiable()`.  The `&&` chain stops at the first false operand, so the two tier
predicates, and their assertions, run only when every flag before them allows relazification. -/
def isRelazifiable : Except Fault Bool := do
  if !((s.selfHosted || s.lazyScript != 0) && !s.hasInnerFunctions_ && s.types_ == 0 &&
      !s.isGenerator && !s.isAsync && !s.isDefaultClassConstructor) then
    return false
  if (← s.hasBaselineScript) then return false
  if (← s.hasAnyIonScript) then return false
  return !s.doNotRelazify_

/-- The decoded slots. -/
structure Tiers where
  ion : IonState
  baseline : BaselineState
  deriving DecidableEq, Repr

/-- The states of the script's two slots. -/
def tiers : Tiers := ⟨IonState.ofPtr s.ion, BaselineState.ofPtr s.baseline⟩

/-- The order of the tiers that both slot assertions check: while the Ion slot is in use,
baseline code is attached. -/
def TierOk : Prop := (IonState.ofPtr s.ion).inUse → (BaselineState.ofPtr s.baseline).isAttached

instance : Decidable s.TierOk := inferInstanceAs (Decidable (_ → _))

/-- Modelled from the spec: `isEligibleForRelazification()`, true iff the script is self-hosted
or was lazily parsed, records no inner functions, has no type data, is neither a generator nor
async nor a default class constructor, has no tier attached, and relazification is not
suppressed. -/
def isEligibleForRelazification : Bool :=
  (s.selfHosted_ || s.lazyScript != 0) && !s.hasInnerFunctions_ && s.types_ == 0 &&
    !s.isGenerator_ && !s.isAsync_ && !s.isDefaultClassConstructor_ &&
    !(BaselineState.ofPtr s.baseline).isAttached && !(IonState.ofPtr s.ion).isAttached &&
    !s.doNotRelazify_

/-! ### Each predicate tests the decoded state -/

theorem ion_res_eq : (s.ion != 0 && s.ion != ION_DISABLED_SCRIPT && s.ion != ION_COMPILING_SCRIPT &&
    s.ion != ION_PENDING_SCRIPT) = (IonState.ofPtr s.ion).isAttached := by
  unfold IonState.ofPtr
  split_ifs <;> simp_all [IonState.isAttached]

theorem baseline_res_eq : (s.baseline != 0 && s.baseline != BASELINE_DISABLED_SCRIPT) =
    (BaselineState.ofPtr s.baseline).isAttached := by
  unfold BaselineState.ofPtr
  split_ifs <;> simp_all [BaselineState.isAttached]

theorem ion_idle_iff : (s.ion == 0 || s.ion == ION_DISABLED_SCRIPT) = !(IonState.ofPtr s.ion).inUse := by
  unfold IonState.ofPtr
  split_ifs <;> simp_all [IonState.inUse, ION_DISABLED_SCRIPT, ION_COMPILING_SCRIPT]

theorem canIonCompile_eq : s.canIonCompile = (IonState.ofPtr s.ion != .disabled) := by
  rw [Bool.eq_iff_iff]
  simp [canIonCompile]

theorem isIonCompilingOffThread_eq :
    s.isIonCompilingOffThread = (IonState.ofPtr s.ion == .compilingOffThread) := by
  rw [Bool.eq_iff_iff]
  simp [isIonCompilingOffThread]

theorem canBaselineCompile_eq : s.canBaselineCompile = (BaselineState.ofPtr s.baseline != .disabled) := by
  rw [Bool.eq_iff_iff]
  simp [canBaselineCompile]

/-- **`hasBaselineScript()` returns exactly on the ordered scripts**, and then reports whether
baseline code is attached. -/
theorem hasBaselineScript_eq_ok_iff {b : Bool} :
    s.hasBaselineScript = .ok b ↔ s.TierOk ∧ b = (BaselineState.ofPtr s.baseline).isAttached := by
  simp only [hasBaselineScript, baseline_res_eq, ion_idle_iff, TierOk]
  cases (BaselineState.ofPtr s.baseline).isAttached <;> cases (IonState.ofPtr s.ion).inUse <;>
    cases b <;> simp <;> first | rfl | rintro ⟨⟩

theorem hasBaselineScript_of_tierOk (h : s.TierOk) :
    s.hasBaselineScript = .ok (BaselineState.ofPtr s.baseline).isAttached :=
  s.hasBaselineScript_eq_ok_iff.2 ⟨h, rfl⟩

/-- On a script out of order, `hasBaselineScript()` stops at its assertion. -/
theorem hasBaselineScript_of_not_tierOk (h : ¬ s.TierOk) :
    s.hasBaselineScript = .error (.assertion "!ion || ion == ((js::jit::IonScript*)0x1)") := by
  have hu : (IonState.ofPtr s.ion).inUse = true := by
    by_contra hu
    exact h (fun h' => absurd h' hu)
  have hb : (BaselineState.ofPtr s.baseline).isAttached = false := by
    by_contra hb
    exact h (fun _ => by simpa using hb)
  simp only [hasBaselineScript, baseline_res_eq, ion_idle_iff, hu, hb]
  rfl

/-- `hasIonScript()` fails only on Ion code without a baseline pointer. -/
theorem hasIonScript_eq :
    s.hasIonScript = if (IonState.ofPtr s.ion).isAttached ∧ s.baseline = 0 then
      .error (.assertion "baseline") else .ok (IonState.ofPtr s.ion).isAttached := by
  simp only [hasIonScript, ion_res_eq]
  cases (IonState.ofPtr s.ion).isAttached
  · rfl
  · by_cases hb : s.baseline = 0
    · rw [if_pos ⟨rfl, hb⟩, hb]
      rfl
    · have : (s.baseline != 0) = true := by simpa using hb
      rw [if_neg (fun h => hb h.2), mozAssertIf_true, this]
      rfl

theorem inUse_of_isAttached {st : IonState} (h : st.isAttached) : st.inUse := by
  cases st <;> simp_all [IonState.isAttached, IonState.inUse]

theorem baseline_ne_zero_of_isAttached {b : uintptr_t} (h : (BaselineState.ofPtr b).isAttached) :
    b ≠ 0 := by
  rintro rfl
  simp [BaselineState.ofPtr, BaselineState.isAttached] at h

theorem hasIonScript_of_tierOk (h : s.TierOk) :
    s.hasIonScript = .ok (IonState.ofPtr s.ion).isAttached := by
  rw [hasIonScript_eq, if_neg]
  rintro ⟨hion, hb⟩
  exact baseline_ne_zero_of_isAttached (h (inUse_of_isAttached hion)) hb

/-- **On an ordered script `isRelazifiable()` returns the eligibility of the design.** -/
theorem isRelazifiable_eq (h : s.TierOk) : s.isRelazifiable = .ok s.isEligibleForRelazification := by
  have hb := s.hasBaselineScript_of_tierOk h
  have hi := s.hasIonScript_of_tierOk h
  simp only [isRelazifiable, isEligibleForRelazification, hasAnyIonScript, hb, hi, selfHosted,
    isGenerator, isAsync, isDefaultClassConstructor]
  cases (s.selfHosted_ || s.lazyScript != 0) && !s.hasInnerFunctions_ && s.types_ == 0 &&
    !s.isGenerator_ && !s.isAsync_ && !s.isDefaultClassConstructor_ <;>
    cases (BaselineState.ofPtr s.baseline).isAttached <;>
    cases (IonState.ofPtr s.ion).isAttached <;> rfl

/-- A script that `isRelazifiable()` accepts, its assertions having passed, has no Ion compilation
in flight: its `ion` slot is null or disabled.  On an unordered script the call stops at the
assertion of `hasBaselineScript()` and never returns. -/
theorem ion_idle_of_isRelazifiable (h : s.isRelazifiable = .ok true) :
    (IonState.ofPtr s.ion).inUse = false := by
  by_cases ho : s.TierOk
  · have hrel : s.isEligibleForRelazification = true :=
      Except.ok.inj ((s.isRelazifiable_eq ho).symm.trans h)
    have hb : (BaselineState.ofPtr s.baseline).isAttached = false := by
      simp only [isEligibleForRelazification, Bool.and_eq_true, Bool.not_eq_true'] at hrel
      exact hrel.1.1.2
    cases hu : (IonState.ofPtr s.ion).inUse
    · rfl
    · exact absurd (ho hu) (by simp [hb])
  · revert h
    simp only [isRelazifiable, s.hasBaselineScript_of_not_tierOk ho]
    split <;> rintro ⟨⟩

end JSScript

/-! ### The transitions of the design -/

/-- Modelled from the spec: the tier-state transitions, `markCompiling`, `attach` and `disable`
for each tier, `markPendingLink` and `linkPending` for the optimizing tier, and
`detachOptimizing`. -/
inductive TierOp
  | markCompiling
  | markPendingLink
  | linkPending (script : CodeHandle)
  | attachIon (script : CodeHandle)
  | attachBaseline (script : CodeHandle)
  | disableIon
  | disableBaseline
  | detachOptimizing

/-- Modelled from the spec: why a transition is refused. -/
inductive TierError
  /-- The optimizing tier would be attached before baseline code. -/
  | ordering
  /-- `markPendingLink` without a compilation in flight. -/
  | notCompiling
  /-- `linkPending` without a compiled result waiting. -/
  | notPending
  deriving DecidableEq, Repr

namespace JSScript.Tiers

/-- The order of the tiers on the decoded slots. -/
def Ordered (t : Tiers) : Prop := t.ion.inUse → t.baseline.isAttached

/-- Modelled from the spec: one transition on the decoded slots.  Attaching the optimizing tier
needs baseline code, an ordering error otherwise; a pending link follows a compilation, and a link
follows a pending one. -/
def step (t : Tiers) : TierOp → Except TierError Tiers
  | .markCompiling => .ok { t with ion := .compilingOffThread }
  | .markPendingLink =>
    if t.ion = .compilingOffThread then .ok { t with ion := .pendingLink } else .error .notCompiling
  | .linkPending h =>
    if t.ion = .pendingLink then .ok { t with ion := .attached h.ptr } else .error .notPending
  | .attachIon h =>
    if t.baseline.isAttached then .ok { t with ion := .attached h.ptr } else .error .ordering
  | .attachBaseline h => .ok { t with baseline := .attached h.ptr }
  | .disableIon => .ok { t with ion := .disabled }
  | .disableBaseline => .ok { t with baseline := .disabled }
  | .detachOptimizing => .ok { t with ion := .absent }

/-- **What keeps the tiers ordered.**  From ordered slots, a transition leaves them ordered
unless it marks an optimizing compilation without baseline code, or disables baseline code while
the optimizing tier is in use: the ordering error guards `attach` alone. -/
theorem step_ordered_iff {t t' : Tiers} {op : TierOp} (ht : t.Ordered) (h : t.step op = .ok t') :
    t'.Ordered ↔ (op = .markCompiling → t.baseline.isAttached) ∧
      (op = .disableBaseline → t.ion.inUse = false) := by
  cases op <;> simp only [step] at h <;> (try split at h) <;> cases h
  case markCompiling => simp [Ordered, IonState.inUse]
  case disableBaseline => simp [Ordered, BaselineState.isAttached]
  case markPendingLink.isTrue hi | linkPending.isTrue hi =>
    exact iff_of_true (fun _ => ht (by rw [hi]; rfl)) ⟨nofun, nofun⟩
  case attachIon.isTrue hb => exact iff_of_true (fun _ => hb) ⟨nofun, nofun⟩
  case attachBaseline => exact iff_of_true (fun _ => rfl) ⟨nofun, nofun⟩
  case disableIon | detachOptimizing =>
    exact iff_of_true (fun h => absurd h Bool.false_ne_true) ⟨nofun, nofun⟩

end JSScript.Tiers

namespace JSScript

variable (s : JSScript)

/-- Modelled from the spec: one transition as the store of its pointer into the slot.  The
guards read the slots as `hasBaselineScript()` and `isIonCompilingOffThread()` do. -/
def tierStep : TierOp → Except TierError JSScript
  | .markCompiling => .ok { s with ion := ION_COMPILING_SCRIPT }
  | .markPendingLink =>
    if s.ion == ION_COMPILING_SCRIPT then .ok { s with ion := ION_PENDING_SCRIPT }
    else .error .notCompiling
  | .linkPending h =>
    if s.ion == ION_PENDING_SCRIPT then .ok { s with ion := h.ptr } else .error .notPending
  | .attachIon h =>
    if s.baseline != 0 && s.baseline != BASELINE_DISABLED_SCRIPT then .ok { s with ion := h.ptr }
    else .error .ordering
  | .attachBaseline h => .ok { s with baseline := h.ptr }
  | .disableIon => .ok { s with ion := ION_DISABLED_SCRIPT }
  | .disableBaseline => .ok { s with baseline := BASELINE_DISABLED_SCRIPT }
  | .detachOptimizing => .ok { s with ion := 0 }

/-- A run of transitions, stopping at the first refused one. -/
def tierRun (ops : List TierOp) : Except TierError JSScript := ops.foldlM tierStep s

/-- **The pointer stores implement the transitions of the design.** -/
theorem tierStep_tiers (op : TierOp) : (s.tierStep op).map tiers = s.tiers.step op := by
  cases op <;>
    simp only [tierStep, Tiers.step, tiers, baseline_res_eq, ion_idle_iff, beq_iff_eq,
      IonState.ofPtr_eq_compiling_iff, IonState.ofPtr_eq_pending_iff] <;>
    (try split) <;> simp_all [tiers, Except.map]

theorem tierOk_iff : s.TierOk ↔ s.tiers.Ordered := Iff.rfl

/-- **The pointer stores implement the design's runs**: decoding the slots after a run of
stores gives the run of the design's transitions on the decoded slots, refusals included. -/
theorem tierRun_tiers (ops : List TierOp) :
    (s.tierRun ops).map tiers = ops.foldlM Tiers.step s.tiers := by
  induction ops generalizing s with
  | nil => rfl
  | cons op ops ih =>
    have hstep := s.tierStep_tiers op
    simp only [tierRun, List.foldlM_cons] at ih ⊢
    cases h : s.tierStep op <;> rw [h] at hstep <;> rw [← hstep]
    · rfl
    · exact ih _

/-- **What keeps a script's tiers ordered.**  A transition out of an ordered script leaves it
ordered, so that `hasIonScript()` and `hasBaselineScript()` return and `isRelazifiable()` gives
the eligibility of the design, unless it marks an optimizing compilation without baseline code or
disables baseline code while the optimizing tier is in use. -/
theorem tierStep_tierOk_iff {s' : JSScript} {op : TierOp} (hs : s.TierOk)
    (h : s.tierStep op = .ok s') :
    s'.TierOk ↔ (op = .markCompiling → (BaselineState.ofPtr s.baseline).isAttached) ∧
      (op = .disableBaseline → (IonState.ofPtr s.ion).inUse = false) := by
  have hstep : s.tiers.step op = .ok s'.tiers := by rw [← s.tierStep_tiers op, h]; rfl
  exact Tiers.step_ordered_iff ((s.tierOk_iff).1 hs) hstep

/-- Marking an optimizing compilation on a fresh script, as the design allows, leaves a script on
which `hasBaselineScript()` stops at its assertion. -/
example : (default : JSScript).tierStep .markCompiling = .ok { (default : JSScript) with ion := 2 } ∧
    ({ (default : JSScript) with ion := 2 } : JSScript).hasBaselineScript =
      .error (.assertion "!ion || ion == ((js::jit::IonScript*)0x1)") :=
  ⟨rfl, rfl⟩

end JSScript

end JsScript
