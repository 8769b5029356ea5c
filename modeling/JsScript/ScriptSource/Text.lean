/-
# The text of a `ScriptSource`

`src/src/js/vm/JSScript.h`, lines 543-596 (the alternatives of `ScriptSource::data`) and
720-1052 (the matchers over it and `SetCompressedSourceFromTask`).

`ScriptSource::data` is a `mozilla::Variant` of six alternatives: compressed or uncompressed
text in UTF-8 or UTF-16 units, `Missing`, and `BinAST`.  Every accessor of the text is a
matcher, with one case per alternative, and several cases end in `MOZ_CRASH`.  The model keeps
a `SharedImmutableString` as its characters and its length, which is all the matchers read.

The accessors that describe the text (`length`, `sourceCharSize`, `hasSourceType`,
`compressedLengthOrZero`) answer exactly on the two text alternatives, the state that
`hasSourceText()` reports (`describe_eq_ok_iff`).  Only `length` asserts it, and its assertion
excludes exactly the case its matcher crashes on (`length_eq_error`); the three others reach
`MOZ_CRASH` on `Missing` and `BinAST` with no assertion in front (`describe_crash`).
`SetCompressedSourceFromTask` replaces uncompressed text by compressed text of the same unit and
length, so the describing accessors answer the same afterwards
(`setCompressedSourceFromTask_preserves`).
-/

import JsScript.Basic

namespace JsScript

/-- The unit of source text: `mozilla::Utf8Unit` or `char16_t`. -/
inductive SourceUnit
  | Utf8Unit
  | char16_t
  deriving DecidableEq, Repr

/-- `sizeof(Unit)`. -/
def SourceUnit.sizeof : SourceUnit → uint8_t
  | .Utf8Unit => 1
  | .char16_t => 2

/-- A `SharedImmutableString`: its characters and its length. -/
structure SharedImmutableString where
  chars : uintptr_t
  length : size_t
  deriving DecidableEq, Repr

/-- `ScriptSource::SourceType`, the variant held in `ScriptSource::data`.  The two `Compressed`
and the two `Uncompressed` alternatives differ in their `Unit` parameter. -/
inductive SourceType
  /-- `Compressed<Unit>`: single-byte compressed text, whatever the unit of the original. -/
  | Compressed (unit : SourceUnit) (raw : SharedImmutableString) (uncompressedLength : size_t)
  /-- `Uncompressed<Unit>`. -/
  | Uncompressed (unit : SourceUnit) (string_ : SharedImmutableString)
  | Missing
  | BinAST (string : SharedImmutableString)
  deriving DecidableEq, Repr

namespace SourceType

variable (data : SourceType)

/-- `uncompressedData<Unit>()`, by `UncompressedDataMatcher`.  The `static_cast` to `const Unit*`
does not look at the alternative's unit. -/
def uncompressedData : Except Fault uintptr_t :=
  match data with
  | .Uncompressed _ string_ => pure string_.chars
  | _ => throw (.crash "attempting to access uncompressed data in a ScriptSource not containing it")

/-- `compressedData<Unit>()`, by `CompressedDataMatcher`. -/
def compressedData : Except Fault uintptr_t :=
  match data with
  | .Compressed _ raw _ => pure raw.chars
  | _ => throw (.crash "attempting to access compressed data in a ScriptSource not containing it")

/-- `binASTData()`, by `BinASTDataMatcher`. -/
def binASTData : Except Fault uintptr_t :=
  match data with
  | .BinAST string => pure string.chars
  | _ => throw (.crash "ScriptSource isn\x27t backed by BinAST data")

/-- `hasUncompressedSource()`, by `HasUncompressedSource`. -/
def hasUncompressedSource : Bool :=
  match data with
  | .Uncompressed .. => true
  | _ => false

/-- `hasCompressedSource()`, by `HasCompressedSource`. -/
def hasCompressedSource : Bool :=
  match data with
  | .Compressed .. => true
  | _ => false

/-- `hasSourceText()`. -/
def hasSourceText : Bool := data.hasUncompressedSource || data.hasCompressedSource

/-- `hasBinASTSource()`: `data.is<BinAST>()`. -/
def hasBinASTSource : Bool :=
  match data with
  | .BinAST _ => true
  | _ => false

/-- `data.is<Uncompressed<Unit>>()`. -/
def isUncompressed (unit : SourceUnit) : Bool :=
  match data with
  | .Uncompressed u _ => u == unit
  | _ => false

/-- `data.is<Compressed<Unit>>()`. -/
def isCompressed (unit : SourceUnit) : Bool :=
  match data with
  | .Compressed u _ _ => u == unit
  | _ => false

/-- `uncompressedSourceIs<Unit>()`. -/
def uncompressedSourceIs (unit : SourceUnit) : Except Fault Bool := do
  mozAssert data.hasUncompressedSource "hasUncompressedSource()"
  pure (data.isUncompressed unit)

/-- `compressedSourceIs<Unit>()`. -/
def compressedSourceIs (unit : SourceUnit) : Except Fault Bool := do
  mozAssert data.hasCompressedSource "hasCompressedSource()"
  pure (data.isCompressed unit)

/-- `hasSourceType<Unit>()`, by `SourceTypeMatcher<Unit>`. -/
def hasSourceType (unit : SourceUnit) : Except Fault Bool :=
  match data with
  | .Compressed u _ _ | .Uncompressed u _ => pure (u == unit)
  | .BinAST _ => throw (.crash "doesn\x27t make sense to ask source type of BinAST data")
  | .Missing => throw (.crash "doesn\x27t make sense to ask source type when missing")

/-- `sourceCharSize()`, by `SourceCharSizeMatcher`. -/
def sourceCharSize : Except Fault uint8_t :=
  match data with
  | .Compressed u _ _ | .Uncompressed u _ => pure u.sizeof
  | .BinAST _ => throw (.crash "BinAST source has no source-char size")
  | .Missing => throw (.crash "missing source has no source-char size")

/-- `length()`: asserts `hasSourceText() || hasBinASTSource()`, then `UncompressedLengthMatcher`. -/
def length : Except Fault size_t := do
  mozAssert (data.hasSourceText || data.hasBinASTSource) "hasSourceText() || hasBinASTSource()"
  match data with
  | .Uncompressed _ string_ => pure string_.length
  | .Compressed _ _ uncompressedLength => pure uncompressedLength
  | .BinAST string => pure string.length
  | .Missing => throw (.crash "ScriptSource::length on a missing source")

/-- `compressedLengthOrZero()`, by `CompressedLengthOrZeroMatcher`. -/
def compressedLengthOrZero : Except Fault size_t :=
  match data with
  | .Uncompressed .. => pure 0
  | .Compressed _ raw _ => pure raw.length
  | .BinAST _ => throw (.crash "trying to get compressed length for BinAST data")
  | .Missing => throw (.crash "missing source data")

/-- `SetCompressedSourceFromTask`, the matcher of `setCompressedSourceFromTask(compressed)`: on
uncompressed text it passes the compressed string and the text's `length()` to
`setCompressedSource<Unit>` (defined in `JSScript.cpp`, so a parameter here); every other
alternative crashes. -/
def setCompressedSourceFromTask {α : Type} (setCompressedSource : SourceUnit → SharedImmutableString → size_t → α)
    (compressed : SharedImmutableString) : Except Fault α :=
  match data with
  | .Uncompressed unit _ => do pure (setCompressedSource unit compressed (← data.length))
  | .Compressed .. => throw (.crash ("can\x27t set compressed source when source is already " ++
      "compressed -- ScriptSource::tryCompressOffThread shouldn\x27t have queued up this task?"))
  | .BinAST _ => throw (.crash "doesn\x27t make sense to set compressed source for BinAST data")
  | .Missing => throw (.crash ("doesn\x27t make sense to set compressed source for missing " ++
      "source -- ScriptSource::tryCompressOffThread shouldn\x27t have queued up this task?"))

/-! ### Which alternatives the accessors answer -/

/-- The unit of the text alternatives. -/
def unit? : Option SourceUnit :=
  match data with
  | .Compressed u _ _ | .Uncompressed u _ => some u
  | _ => none

/-- What `length()` reports, on every alternative but `Missing`. -/
def textLength? : Option size_t :=
  match data with
  | .Uncompressed _ string_ => some string_.length
  | .Compressed _ _ uncompressedLength => some uncompressedLength
  | .BinAST string => some string.length
  | .Missing => none

theorem hasSourceText_iff : data.hasSourceText ↔ data.unit?.isSome := by
  cases data <;> simp [hasSourceText, hasUncompressedSource, hasCompressedSource, unit?]

/-- **`length()` returns what the text records, and fails only at its own assertion**: the
`MOZ_CRASH` of its matcher is unreachable. -/
theorem length_eq : data.length = match data.textLength? with
    | some n => .ok n
    | none => .error (.assertion "hasSourceText() || hasBinASTSource()") := by
  cases data <;> rfl

theorem length_eq_error {e : Fault} (h : data.length = .error e) :
    e = .assertion "hasSourceText() || hasBinASTSource()" := by
  cases data
  case Missing => exact (Except.error.inj h).symm
  all_goals cases h

/-- Off the text alternatives, the three describing accessors reach the `MOZ_CRASH` of their
matchers, a fault in every build, with no assertion in front. -/
theorem describe_crash (h : data.hasSourceText = false) :
    (∃ reason, data.sourceCharSize = .error (.crash reason)) ∧
    (∀ unit, ∃ reason, data.hasSourceType unit = .error (.crash reason)) ∧
    ∃ reason, data.compressedLengthOrZero = .error (.crash reason) := by
  cases data
  case Missing | BinAST => exact ⟨⟨_, rfl⟩, fun _ => ⟨_, rfl⟩, _, rfl⟩
  all_goals cases h

/-- **The accessors that describe the text answer exactly on the text alternatives**, the
state `hasSourceText()` reports: `sourceCharSize()`, `hasSourceType<Unit>()` and
`compressedLengthOrZero()` reach `MOZ_CRASH` on `Missing` and `BinAST`, and `length()` asserts
them away. -/
theorem describe_eq_ok_iff :
    (∀ n, data.sourceCharSize = .ok n ↔ ∃ u, data.unit? = some u ∧ n = u.sizeof) ∧
    (∀ unit b, data.hasSourceType unit = .ok b ↔ ∃ u, data.unit? = some u ∧ b = (u == unit)) ∧
    ((∃ n, data.compressedLengthOrZero = .ok n) ↔ data.hasSourceText) ∧
    (data.hasSourceText = false →
      (∃ reason, data.sourceCharSize = .error (.crash reason)) ∧
      (∀ unit, ∃ reason, data.hasSourceType unit = .error (.crash reason)) ∧
      ∃ reason, data.compressedLengthOrZero = .error (.crash reason)) := by
  refine ⟨fun n => ?_, fun unit b => ?_, ?_, describe_crash data⟩ <;> cases data <;>
    simp [sourceCharSize, hasSourceType, compressedLengthOrZero, unit?, hasSourceText,
      hasUncompressedSource, hasCompressedSource, throw, throwThe, MonadExceptOf.throw, pure,
      Except.pure, eq_comm]

/-! ### Compression -/

/-- **Compression is transparent**: when `SetCompressedSourceFromTask` replaces text by
compressed text (what `setCompressedSource<Unit>` does with no pin outstanding), `length()`,
`sourceCharSize()` and `hasSourceType<Unit>()` answer as before, and it returns exactly on
uncompressed text. -/
theorem setCompressedSourceFromTask_preserves (compressed : SharedImmutableString) :
    ((∃ d, data.setCompressedSourceFromTask Compressed compressed = .ok d) ↔
      data.hasUncompressedSource) ∧
    ∀ d, data.setCompressedSourceFromTask Compressed compressed = .ok d →
      d.hasCompressedSource ∧ d.length = data.length ∧ d.sourceCharSize = data.sourceCharSize ∧
        (∀ unit, d.hasSourceType unit = data.hasSourceType unit) ∧
        d.compressedLengthOrZero = .ok compressed.length := by
  cases data with
  | Uncompressed u string_ =>
    refine ⟨iff_of_true ⟨_, rfl⟩ rfl, ?_⟩
    rintro d ⟨⟩
    exact ⟨rfl, rfl, rfl, fun _ => rfl, rfl⟩
  | _ => exact ⟨iff_of_false (by rintro ⟨_, ⟨⟩⟩) (by rintro ⟨⟩), by rintro _ ⟨⟩⟩

end SourceType

end JsScript
