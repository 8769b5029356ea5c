/-
# `ScriptSource` metadata: where the text came from

`src/src/js/vm/JSScript.h`, lines 598-660 (the fields), 685-701 (the constructor), 971-973
(`isFunctionBody`) and 1073-1152 (the accessors and the setters defined in the header).

A source records where its text came from: a file name, optional display and source-map URLs,
and for `eval` and `new Function` the offset in the caller, the kind of introduction and the
outermost file name.  The getters of the optional fields share one body, `assertedRead`: each
asserts its `has…()` test, then reads.  Two setters of the header write a field once:
`setIntroductionOffset` asserts `!hasIntroductionOffset()` and that the offset fits an
`int32_t`, and `recordParseEnded` asserts that the time stamp is still null.  Along every
sequence of these setters that passes its assertions, each of the two fields is written at most
once, never over a value already there, and `introductionOffset()` returns the offset written,
which fits an `int32_t`; the flags `containsAsmJS_` and `sourceRetrievable_` only ever turn on
(`run_metadata`).
-/

import JsScript.Basic

namespace JsScript

/-- `INT32_MAX`, cast to `uint32_t` as `setIntroductionOffset` compares it. -/
def INT32_MAX : uint32_t := 0x7FFFFFFF

/-- The fields of `ScriptSource` that describe where its text came from.  Pointers are their
addresses, `0` for `nullptr`. -/
structure ScriptSourceInfo where
  filename_ : uintptr_t
  displayURL_ : uintptr_t
  sourceMapURL_ : uintptr_t
  mutedErrors_ : Bool
  introductionOffset_ : uint32_t
  /-- The position of `)` after the parameter list of a `Function` constructor, `0` otherwise. -/
  parameterListEnd_ : uint32_t
  introducerFilename_ : uintptr_t
  introductionType_ : uintptr_t
  xdrEncoder_ : uintptr_t
  /-- `mozilla::TimeStamp parseEnded_`; `0` is the null time stamp. -/
  parseEnded_ : uint64_t
  sourceRetrievable_ : Bool
  hasIntroductionOffset_ : Bool
  containsAsmJS_ : Bool
  deriving DecidableEq, Repr

namespace ScriptSourceInfo

variable (s : ScriptSourceInfo)

/-- `ScriptSource()`: every pointer `nullptr`, every number `0`, every flag `false`, and
`parseEnded_` the null time stamp. -/
def create : ScriptSourceInfo := ⟨0, 0, 0, false, 0, 0, 0, 0, 0, 0, false, false, false⟩

/-- `filename()`. -/
def filename : uintptr_t := s.filename_

/-- `introducerFilename()`: the outermost file name, or the source's own. -/
def introducerFilename : uintptr_t := if s.introducerFilename_ != 0 then s.introducerFilename_ else s.filename_

/-- `hasIntroductionType()`. -/
def hasIntroductionType : Bool := s.introductionType_ != 0

/-- `introductionType()`. -/
def introductionType : Except Fault uintptr_t :=
  assertedRead s.hasIntroductionType "hasIntroductionType()" s.introductionType_

/-- `hasDisplayURL()`. -/
def hasDisplayURL : Bool := s.displayURL_ != 0

/-- `displayURL()`. -/
def displayURL : Except Fault uintptr_t := assertedRead s.hasDisplayURL "hasDisplayURL()" s.displayURL_

/-- `hasSourceMapURL()`. -/
def hasSourceMapURL : Bool := s.sourceMapURL_ != 0

/-- `sourceMapURL()`. -/
def sourceMapURL : Except Fault uintptr_t :=
  assertedRead s.hasSourceMapURL "hasSourceMapURL()" s.sourceMapURL_

/-- `mutedErrors()`. -/
def mutedErrors : Bool := s.mutedErrors_

/-- `hasIntroductionOffset()`. -/
def hasIntroductionOffset : Bool := s.hasIntroductionOffset_

/-- `introductionOffset()`. -/
def introductionOffset : Except Fault uint32_t :=
  assertedRead s.hasIntroductionOffset "hasIntroductionOffset()" s.introductionOffset_

/-- `setIntroductionOffset(offset)`.  The second assertion prints its text with `INT32_MAX`
expanded. -/
def setIntroductionOffset (offset : uint32_t) : Except Fault ScriptSourceInfo := do
  mozAssert (!s.hasIntroductionOffset) "!hasIntroductionOffset()"
  mozAssert (offset ≤ INT32_MAX) "offset <= (uint32_t)(2147483647)"
  pure { s with introductionOffset_ := offset, hasIntroductionOffset_ := true }

/-- `containsAsmJS()`. -/
def containsAsmJS : Bool := s.containsAsmJS_

/-- `setContainsAsmJS()`. -/
def setContainsAsmJS : ScriptSourceInfo := { s with containsAsmJS_ := true }

/-- `sourceRetrievable()`. -/
def sourceRetrievable : Bool := s.sourceRetrievable_

/-- `setSourceRetrievable()`. -/
def setSourceRetrievable : ScriptSourceInfo := { s with sourceRetrievable_ := true }

/-- `hasEncoder()`. -/
def hasEncoder : Bool := s.xdrEncoder_ != 0

/-- `parseEnded()`. -/
def parseEnded : uint64_t := s.parseEnded_

/-- `recordParseEnded()`, with `now` the time stamp `ReallyNow()` returns. -/
def recordParseEnded (now : uint64_t) : Except Fault ScriptSourceInfo := do
  mozAssert (s.parseEnded_ == 0) "parseEnded_.IsNull()"
  pure { s with parseEnded_ := now }

/-- `isFunctionBody()`. -/
def isFunctionBody : Bool := s.parameterListEnd_ != 0

/-- The introduction offset, once set. -/
def offsetCell : Option uint32_t := if s.hasIntroductionOffset_ then some s.introductionOffset_ else none

/-- The time stamp of the end of the first parse, once recorded. -/
def parseEndedCell : Option uint64_t := if s.parseEnded_ = 0 then none else some s.parseEnded_

/-- An introduction offset, once set, fits an `int32_t`. -/
def Inv : Prop := ∀ o, s.offsetCell = some o → o ≤ INT32_MAX

end ScriptSourceInfo

/-- The setters of the header that change a source's metadata. -/
inductive InfoOp
  | setIntroductionOffset (offset : uint32_t)
  | setContainsAsmJS
  | setSourceRetrievable
  | recordParseEnded (now : uint64_t)
  deriving DecidableEq, Repr

/-- The introduction offset a call writes. -/
def InfoOp.offsetWritten : InfoOp → Option uint32_t
  | .setIntroductionOffset offset => some offset
  | _ => none

/-- The time stamp a call writes; a null one writes nothing. -/
def InfoOp.parseEndedWritten : InfoOp → Option uint64_t
  | .recordParseEnded now => if now = 0 then none else some now
  | _ => none

namespace ScriptSourceInfo

variable (s : ScriptSourceInfo)

/-- One call. -/
def step : InfoOp → Except Fault ScriptSourceInfo
  | .setIntroductionOffset offset => s.setIntroductionOffset offset
  | .setContainsAsmJS => pure s.setContainsAsmJS
  | .setSourceRetrievable => pure s.setSourceRetrievable
  | .recordParseEnded now => s.recordParseEnded now

/-- A sequence of calls, stopping at the first failed assertion. -/
def run (ops : List InfoOp) : Except Fault ScriptSourceInfo := ops.foldlM step s

variable {s}

/-! ### The accessors -/

/-- **A new source has none of the optional metadata**: each getter guarded by a `has…()` test
stops at its assertion, `filename()` and `introducerFilename()` are `nullptr`, it is no function
body, and both fields written once are unset. -/
theorem create_metadata :
    create.introductionType = .error (.assertion "hasIntroductionType()") ∧
    create.displayURL = .error (.assertion "hasDisplayURL()") ∧
    create.sourceMapURL = .error (.assertion "hasSourceMapURL()") ∧
    create.introductionOffset = .error (.assertion "hasIntroductionOffset()") ∧
    create.filename = 0 ∧ create.introducerFilename = 0 ∧ create.isFunctionBody = false ∧
    create.offsetCell = none ∧ create.parseEndedCell = none :=
  ⟨rfl, rfl, rfl, rfl, rfl, rfl, rfl, rfl, rfl⟩

theorem create_inv : create.Inv := fun _ h => by cases h

theorem introductionOffset_eq_ok_iff {o : uint32_t} :
    s.introductionOffset = .ok o ↔ s.offsetCell = some o := by
  unfold introductionOffset offsetCell hasIntroductionOffset
  cases s.hasIntroductionOffset_ <;> simp [assertedRead_eq_ok]

theorem offsetCell_eq_none : s.offsetCell = none ↔ s.hasIntroductionOffset_ = false := by
  unfold offsetCell
  cases s.hasIntroductionOffset_ <;> simp

theorem setIntroductionOffset_eq_ok {offset : uint32_t} {s' : ScriptSourceInfo} :
    s.setIntroductionOffset offset = .ok s' ↔ s.offsetCell = none ∧ offset ≤ INT32_MAX ∧
      s' = { s with introductionOffset_ := offset, hasIntroductionOffset_ := true } := by
  simp only [setIntroductionOffset, mozAssert_bind_eq_ok, pure_eq_ok, Bool.not_eq_true',
    decide_eq_true_eq, hasIntroductionOffset, offsetCell_eq_none, eq_comm (b := s')]

theorem recordParseEnded_eq_ok {now : uint64_t} {s' : ScriptSourceInfo} :
    s.recordParseEnded now = .ok s' ↔ s.parseEnded_ = 0 ∧ s' = { s with parseEnded_ := now } := by
  simp only [recordParseEnded, mozAssert_bind_eq_ok, pure_eq_ok, beq_iff_eq, eq_comm (b := s')]

/-! ### Sequences of calls -/

theorem step_writesOffset : WritesOnce step offsetCell InfoOp.offsetWritten := by
  intro s op s' h
  cases op with
  | setIntroductionOffset offset =>
    obtain ⟨h0, -, rfl⟩ := setIntroductionOffset_eq_ok.1 h
    exact ⟨nofun, fun a ha => ⟨h0, by cases ha; rfl⟩⟩
  | recordParseEnded now =>
    obtain ⟨-, rfl⟩ := recordParseEnded_eq_ok.1 h
    exact ⟨fun _ => rfl, nofun⟩
  | _ => cases h; exact ⟨fun _ => rfl, nofun⟩

theorem step_writesParseEnded : WritesOnce step parseEndedCell InfoOp.parseEndedWritten := by
  intro s op s' h
  cases op with
  | setIntroductionOffset offset =>
    obtain ⟨-, -, rfl⟩ := setIntroductionOffset_eq_ok.1 h
    exact ⟨fun _ => rfl, nofun⟩
  | recordParseEnded now =>
    obtain ⟨h0, rfl⟩ := recordParseEnded_eq_ok.1 h
    have hc : s.parseEndedCell = none := by simp [parseEndedCell, h0]
    by_cases hn : now = 0
    · subst hn
      exact ⟨fun _ => by rw [hc]; simp [parseEndedCell], nofun⟩
    · simp only [InfoOp.parseEndedWritten, hn, if_false, Option.some.injEq]
      have hn' : now ≠ 0#64 := by simpa using hn
      exact ⟨nofun, fun a ha => ⟨hc, by subst ha; simp [parseEndedCell, hn']⟩⟩
  | _ => cases h; exact ⟨fun _ => rfl, nofun⟩

theorem step_inv {op : InfoOp} {s' : ScriptSourceInfo} (hi : s.Inv) (h : s.step op = .ok s') :
    s'.Inv := by
  intro o ho
  cases hw : op.offsetWritten with
  | none => exact hi o ((step_writesOffset s op s' h).1 hw ▸ ho)
  | some a =>
    cases op <;> simp only [InfoOp.offsetWritten, reduceCtorEq, Option.some.injEq] at hw
    subst hw
    obtain ⟨-, hle, rfl⟩ := setIntroductionOffset_eq_ok.1 h
    cases ho
    exact hle

theorem step_flags {op : InfoOp} {s' : ScriptSourceInfo} (h : s.step op = .ok s') :
    (s.containsAsmJS → s'.containsAsmJS) ∧ (s.sourceRetrievable → s'.sourceRetrievable) := by
  cases op with
  | setIntroductionOffset offset =>
    obtain ⟨-, -, rfl⟩ := setIntroductionOffset_eq_ok.1 h
    exact ⟨id, id⟩
  | recordParseEnded now =>
    obtain ⟨-, rfl⟩ := recordParseEnded_eq_ok.1 h
    exact ⟨id, id⟩
  | setContainsAsmJS => cases h; exact ⟨fun _ => rfl, id⟩
  | setSourceRetrievable => cases h; exact ⟨id, fun _ => rfl⟩

/-- **Set-once metadata.**  Along every sequence of the header's setters that passes its
assertions, the introduction offsets written, after the one already set if any, are the offset
the source ends with, so at most one is ever written and `introductionOffset()` returns it, and
it fits an `int32_t`; the time stamps `recordParseEnded()` writes likewise; and `containsAsmJS()`
and `sourceRetrievable()` never turn off. -/
theorem run_metadata {ops : List InfoOp} {s' : ScriptSourceInfo} (hi : s.Inv)
    (h : s.run ops = .ok s') :
    s.offsetCell.toList ++ ops.filterMap InfoOp.offsetWritten = s'.offsetCell.toList ∧
    (∀ o, s'.introductionOffset = .ok o → o ≤ INT32_MAX) ∧
    s.parseEndedCell.toList ++ ops.filterMap InfoOp.parseEndedWritten = s'.parseEndedCell.toList ∧
    (s.containsAsmJS → s'.containsAsmJS) ∧ (s.sourceRetrievable → s'.sourceRetrievable) := by
  have hi' := foldlM_inv Inv (fun _ _ _ hs h => step_inv hs h) ops hi h
  have hflags := foldlM_inv (fun u => (s.containsAsmJS → u.containsAsmJS) ∧
      (s.sourceRetrievable → u.sourceRetrievable))
    (fun _ _ _ hs h => ⟨(step_flags h).1 ∘ hs.1, (step_flags h).2 ∘ hs.2⟩) ops ⟨id, id⟩ h
  exact ⟨foldlM_writesOnce step_writesOffset ops h,
    fun o ho => hi' o (introductionOffset_eq_ok_iff.1 ho),
    foldlM_writesOnce step_writesParseEnded ops h, hflags⟩

/-- An `eval` source: its offset in the caller is set, it is found to contain asm.js, and its
first parse ends. -/
theorem run_metadata_eval :
    let s' : ScriptSourceInfo := ⟨0, 0, 0, false, 12, 0, 0, 0, 0, 7, false, true, true⟩
    let ops : List InfoOp := [.setIntroductionOffset 12, .setContainsAsmJS, .recordParseEnded 7]
    create.Inv ∧ create.run ops = .ok s' ∧
    (create.offsetCell.toList ++ ops.filterMap InfoOp.offsetWritten = s'.offsetCell.toList ∧
      (∀ o, s'.introductionOffset = .ok o → o ≤ INT32_MAX) ∧
      create.parseEndedCell.toList ++ ops.filterMap InfoOp.parseEndedWritten =
        s'.parseEndedCell.toList ∧
      (create.containsAsmJS → s'.containsAsmJS) ∧ (create.sourceRetrievable → s'.sourceRetrievable)) :=
  have h : create.run [.setIntroductionOffset 12, .setContainsAsmJS, .recordParseEnded 7] =
      .ok ⟨0, 0, 0, false, 12, 0, 0, 0, 0, 7, false, true, true⟩ := rfl
  ⟨create_inv, h, run_metadata create_inv h⟩

end ScriptSourceInfo

end JsScript
