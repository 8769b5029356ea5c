/-
# `LazyScript::PackedView`: flags and counts in one word

`LazyScript` (`js/vm/JSScript.h`, lines 2768-2804 and 2916-3047) keeps sixteen one-bit flags
and two 20-bit counts as `uint32_t` bit-fields of `PackedView p_`, in a union with the
`uint64_t packedFields_` that `packedFields()` returns and that `CreateForXDR` and
`initRuntimeFields` take back from persisted data.  `Field.offset` places the fields by the
layout rule of `allocate`: four flags at bits 0 to 3, `numClosedOverBindings` at 4 to 23,
`numInnerFunctions` past the 32-bit boundary at 32 to 51, and twelve flags at 52 to 63
(`allocate_fields`).

`PackedView.toWord` stores a view into a word, over whatever bits the word held;
`PackedView.ofWord` reads it back through the union.  Each flag setter stores one bit
(`LazyScript.setFlag`).  `packedView_layout` says the fields are disjoint and inside the word,
that a view read back from its word is the view, and that every setter changes its own bit
and nothing else.  `Setter.run_flags` carries this over every sequence of setters: read through
`LazyScript.flag`, the word is a record of independent `bool`s that each setter updates in one
entry (`Setter.store`), the counts never move, and `setGeneratorKind`'s assertion keeps
`isGenerator` from turning off.
-/

import JsScript.LazyScript.BitField
import JsScript.LazyScript.Span

namespace JsScript

/-- `NumClosedOverBindingsBits`. -/
def NumClosedOverBindingsBits : Nat := 20

/-- `NumInnerFunctionsBits`. -/
def NumInnerFunctionsBits : Nat := 20

/-- The one-bit fields of `PackedView`. -/
inductive Flag
  | shouldDeclareArguments | hasThisBinding | isAsync | isBinAST
  | isGenerator | strict | bindingsAccessedDynamically | hasDebuggerStatement | hasDirectEval
  | isLikelyConstructorWrapper | hasBeenCloned | treatAsRunOnce | isDerivedClassConstructor
  | needsHomeObject | hasRest | parseGoal
  deriving DecidableEq, Repr

/-- The fields of `PackedView`. -/
inductive Field
  | flag (k : Flag)
  | numClosedOverBindings
  | numInnerFunctions
  deriving DecidableEq, Repr

namespace Field

/-- The width a field is declared with. -/
def width : Field → Nat
  | flag _ => 1
  | numClosedOverBindings => NumClosedOverBindingsBits
  | numInnerFunctions => NumInnerFunctionsBits

/-- The fields in declaration order. -/
def all : List Field :=
  [flag .shouldDeclareArguments, flag .hasThisBinding, flag .isAsync, flag .isBinAST,
    numClosedOverBindings, numInnerFunctions,
    flag .isGenerator, flag .strict, flag .bindingsAccessedDynamically,
    flag .hasDebuggerStatement, flag .hasDirectEval, flag .isLikelyConstructorWrapper,
    flag .hasBeenCloned, flag .treatAsRunOnce, flag .isDerivedClassConstructor,
    flag .needsHomeObject, flag .hasRest, flag .parseGoal]

/-- The position of a field in the declaration. -/
def index : Field → Nat
  | flag .shouldDeclareArguments => 0
  | flag .hasThisBinding => 1
  | flag .isAsync => 2
  | flag .isBinAST => 3
  | numClosedOverBindings => 4
  | numInnerFunctions => 5
  | flag .isGenerator => 6
  | flag .strict => 7
  | flag .bindingsAccessedDynamically => 8
  | flag .hasDebuggerStatement => 9
  | flag .hasDirectEval => 10
  | flag .isLikelyConstructorWrapper => 11
  | flag .hasBeenCloned => 12
  | flag .treatAsRunOnce => 13
  | flag .isDerivedClassConstructor => 14
  | flag .needsHomeObject => 15
  | flag .hasRest => 16
  | flag .parseGoal => 17

/-- The bit offset of a field in `packedFields_`. -/
def offset (f : Field) : Nat := (allocate 0 (all.map width)).getD f.index 0

/-- **The layout.** -/
theorem allocate_fields :
    allocate 0 (all.map width) = [0, 1, 2, 3, 4, 32, 52, 53, 54, 55, 56, 57, 58, 59, 60, 61, 62, 63] :=
  rfl

theorem getElem?_all_index (f : Field) : all[f.index]? = some f := by
  rcases f with ⟨k⟩ | _ | _ <;> try cases k
  all_goals rfl

theorem index_lt (f : Field) : f.index < all.length :=
  (List.getElem?_eq_some_iff.1 (getElem?_all_index f)).1

theorem index_injective {f g : Field} (h : f.index = g.index) : f = g := by
  have := getElem?_all_index f
  rw [h, getElem?_all_index g] at this
  exact (Option.some.inj this).symm

theorem width_eq (f : Field) : (all.map width).getD f.index 0 = f.width := by
  rw [List.getD_eq_getElem?_getD, List.getElem?_map, getElem?_all_index]
  rfl

/-- **Fields do not overlap.** -/
theorem disjoint {f g : Field} (h : f ≠ g) :
    f.offset + f.width ≤ g.offset ∨ g.offset + g.width ≤ f.offset := by
  have hne : f.index ≠ g.index := fun he => h (index_injective he)
  rcases Nat.lt_or_gt_of_ne hne with hlt | hlt
  · left
    rw [offset, offset, ← width_eq]
    exact allocate_le_of_lt hlt (by simpa using index_lt g)
  · right
    rw [offset, offset, ← width_eq]
    exact allocate_le_of_lt hlt (by simpa using index_lt f)

/-- **Fields lie inside the 64-bit word.** -/
theorem offset_add_width_le (f : Field) : f.offset + f.width ≤ 64 := by
  rcases f with ⟨k⟩ | _ | _ <;> try cases k
  all_goals decide

theorem nodup_all : all.Nodup := by decide

theorem mem_all (f : Field) : f ∈ all := List.mem_iff_getElem?.2 ⟨_, getElem?_all_index f⟩

end Field

/-- `PackedView`: each field holds the bits it is declared with. -/
structure PackedView where
  shouldDeclareArguments : BitVec 1
  hasThisBinding : BitVec 1
  isAsync : BitVec 1
  isBinAST : BitVec 1
  numClosedOverBindings : BitVec NumClosedOverBindingsBits
  numInnerFunctions : BitVec NumInnerFunctionsBits
  isGenerator : BitVec 1
  strict : BitVec 1
  bindingsAccessedDynamically : BitVec 1
  hasDebuggerStatement : BitVec 1
  hasDirectEval : BitVec 1
  isLikelyConstructorWrapper : BitVec 1
  hasBeenCloned : BitVec 1
  treatAsRunOnce : BitVec 1
  isDerivedClassConstructor : BitVec 1
  needsHomeObject : BitVec 1
  hasRest : BitVec 1
  parseGoal : BitVec 1
  deriving DecidableEq, Repr

namespace PackedView

/-- The value of a field. -/
def get (v : PackedView) : (f : Field) → BitVec f.width
  | .flag .shouldDeclareArguments => v.shouldDeclareArguments
  | .flag .hasThisBinding => v.hasThisBinding
  | .flag .isAsync => v.isAsync
  | .flag .isBinAST => v.isBinAST
  | .numClosedOverBindings => v.numClosedOverBindings
  | .numInnerFunctions => v.numInnerFunctions
  | .flag .isGenerator => v.isGenerator
  | .flag .strict => v.strict
  | .flag .bindingsAccessedDynamically => v.bindingsAccessedDynamically
  | .flag .hasDebuggerStatement => v.hasDebuggerStatement
  | .flag .hasDirectEval => v.hasDirectEval
  | .flag .isLikelyConstructorWrapper => v.isLikelyConstructorWrapper
  | .flag .hasBeenCloned => v.hasBeenCloned
  | .flag .treatAsRunOnce => v.treatAsRunOnce
  | .flag .isDerivedClassConstructor => v.isDerivedClassConstructor
  | .flag .needsHomeObject => v.needsHomeObject
  | .flag .hasRest => v.hasRest
  | .flag .parseGoal => v.parseGoal

/-- The view whose fields have the values `g`. -/
def ofFn (g : (f : Field) → BitVec f.width) : PackedView where
  shouldDeclareArguments := g (.flag .shouldDeclareArguments)
  hasThisBinding := g (.flag .hasThisBinding)
  isAsync := g (.flag .isAsync)
  isBinAST := g (.flag .isBinAST)
  numClosedOverBindings := g .numClosedOverBindings
  numInnerFunctions := g .numInnerFunctions
  isGenerator := g (.flag .isGenerator)
  strict := g (.flag .strict)
  bindingsAccessedDynamically := g (.flag .bindingsAccessedDynamically)
  hasDebuggerStatement := g (.flag .hasDebuggerStatement)
  hasDirectEval := g (.flag .hasDirectEval)
  isLikelyConstructorWrapper := g (.flag .isLikelyConstructorWrapper)
  hasBeenCloned := g (.flag .hasBeenCloned)
  treatAsRunOnce := g (.flag .treatAsRunOnce)
  isDerivedClassConstructor := g (.flag .isDerivedClassConstructor)
  needsHomeObject := g (.flag .needsHomeObject)
  hasRest := g (.flag .hasRest)
  parseGoal := g (.flag .parseGoal)

@[simp] theorem ofFn_get (v : PackedView) : ofFn v.get = v := rfl

@[simp] theorem get_ofFn (g : (f : Field) → BitVec f.width) (f : Field) : (ofFn g).get f = g f := by
  rcases f with ⟨k⟩ | _ | _ <;> try cases k
  all_goals rfl

/-- Fields agree exactly when the views do. -/
theorem ext_get {v v' : PackedView} (h : ∀ f, v.get f = v'.get f) : v = v' := by
  rw [← ofFn_get v, ← ofFn_get v']
  exact congrArg ofFn (funext h)

/-- The word holding `v`: its fields stored in declaration order over the bits of `pad`, which
the padding keeps. -/
def toWord (v : PackedView) (pad : uint64_t) : uint64_t :=
  Field.all.foldl (fun x f => storeField f.offset (v.get f) x) pad

/-- `p_` as the union reads it from the word `x`. -/
def ofWord (x : uint64_t) : PackedView := ofFn fun f => loadField f.offset f.width x

/-- A field read after stores of distinct fields sees the last store to it, if any. -/
theorem loadField_foldl (v : PackedView) (f : Field) :
    ∀ (fs : List Field), fs.Nodup → ∀ x : uint64_t,
      loadField f.offset f.width (fs.foldl (fun x g => storeField g.offset (v.get g) x) x) =
        if f ∈ fs then v.get f else loadField f.offset f.width x := by
  intro fs
  induction fs with
  | nil => intro _ x; simp
  | cons g gs ih =>
    intro hnd x
    rw [List.nodup_cons] at hnd
    rw [List.foldl_cons, ih hnd.2]
    by_cases hf : f ∈ gs
    · simp [hf]
    · by_cases hfg : f = g
      · subst hfg
        simp [loadField_storeField_self _ _ (Field.offset_add_width_le f)]
      · simp [hf, hfg, loadField_storeField_of_disjoint _ _ (Field.offset_add_width_le g)
          (Field.disjoint hfg)]

/-- **A view read back from its word is the view.** -/
theorem ofWord_toWord (v : PackedView) (pad : uint64_t) : ofWord (v.toWord pad) = v := by
  apply ext_get
  intro f
  rw [ofWord, get_ofFn, toWord, loadField_foldl v f _ Field.nodup_all, if_pos (Field.mem_all f)]

end PackedView

/-- `GeneratorKind`. -/
inductive GeneratorKind
  | notGenerator | generator
  deriving DecidableEq, Repr

/-- `FunctionAsyncKind`. -/
inductive FunctionAsyncKind
  | syncFunction | asyncFunction
  deriving DecidableEq, Repr

namespace LazyScript

variable (l : LazyScript)

/-- `p_`: the view the union reads from `packedFields_`. -/
def p_ : PackedView := PackedView.ofWord l.packedFields_

/-- `packedFields()`. -/
def packedFields : uint64_t := l.packedFields_

/-- A one-bit field of `p_`, read as `bool`. -/
def flag (k : Flag) : Bool := l.p_.get (.flag k) != 0

/-- `p_.k = b`. -/
def setFlag (k : Flag) (b : Bool) : LazyScript :=
  { l with packedFields_ := storeField (Field.flag k).offset (BitVec.ofBool b) l.packedFields_ }

/-- `NumClosedOverBindingsLimit`. -/
def NumClosedOverBindingsLimit : uint32_t := 1 <<< NumClosedOverBindingsBits

/-- `NumInnerFunctionsLimit`. -/
def NumInnerFunctionsLimit : uint32_t := 1 <<< NumInnerFunctionsBits

/-- `numClosedOverBindings()`. -/
def numClosedOverBindings : uint32_t := l.p_.numClosedOverBindings.setWidth 32

/-- `numInnerFunctions()`. -/
def numInnerFunctions : uint32_t := l.p_.numInnerFunctions.setWidth 32

/-- `generatorKind()`. -/
def generatorKind : GeneratorKind := if l.flag .isGenerator then .generator else .notGenerator

/-- `isGenerator()`. -/
def isGenerator : Bool := l.generatorKind == .generator

/-- `setGeneratorKind(kind)`: only from `NotGenerator`. -/
def setGeneratorKind (kind : GeneratorKind) : Except Fault LazyScript := do
  mozAssert (!l.isGenerator) "!isGenerator()"
  pure (l.setFlag .isGenerator (kind == .generator))

/-- `asyncKind()`. -/
def asyncKind : FunctionAsyncKind := if l.flag .isAsync then .asyncFunction else .syncFunction

/-- `isAsync()`. -/
def isAsync : Bool := l.flag .isAsync

/-- `setAsyncKind(kind)`. -/
def setAsyncKind (kind : FunctionAsyncKind) : LazyScript :=
  l.setFlag .isAsync (kind == .asyncFunction)

/-- `hasRest()`. -/
def hasRest : Bool := l.flag .hasRest
/-- `setHasRest()`. -/
def setHasRest : LazyScript := l.setFlag .hasRest true
/-- `parseGoal()`: the bit `frontend::ParseGoal` is made from. -/
def parseGoal : Bool := l.flag .parseGoal
/-- `isBinAST()`. -/
def isBinAST : Bool := l.flag .isBinAST
/-- `setIsBinAST()`. -/
def setIsBinAST : LazyScript := l.setFlag .isBinAST true
/-- `strict()`. -/
def strict : Bool := l.flag .strict
/-- `setStrict()`. -/
def setStrict : LazyScript := l.setFlag .strict true
/-- `bindingsAccessedDynamically()`. -/
def bindingsAccessedDynamically : Bool := l.flag .bindingsAccessedDynamically
/-- `setBindingsAccessedDynamically()`. -/
def setBindingsAccessedDynamically : LazyScript := l.setFlag .bindingsAccessedDynamically true
/-- `hasDebuggerStatement()`. -/
def hasDebuggerStatement : Bool := l.flag .hasDebuggerStatement
/-- `setHasDebuggerStatement()`. -/
def setHasDebuggerStatement : LazyScript := l.setFlag .hasDebuggerStatement true
/-- `hasDirectEval()`. -/
def hasDirectEval : Bool := l.flag .hasDirectEval
/-- `setHasDirectEval()`. -/
def setHasDirectEval : LazyScript := l.setFlag .hasDirectEval true
/-- `isLikelyConstructorWrapper()`. -/
def isLikelyConstructorWrapper : Bool := l.flag .isLikelyConstructorWrapper
/-- `setLikelyConstructorWrapper()`. -/
def setLikelyConstructorWrapper : LazyScript := l.setFlag .isLikelyConstructorWrapper true
/-- `hasBeenCloned()`. -/
def hasBeenCloned : Bool := l.flag .hasBeenCloned
/-- `setHasBeenCloned()`. -/
def setHasBeenCloned : LazyScript := l.setFlag .hasBeenCloned true
/-- `treatAsRunOnce()`. -/
def treatAsRunOnce : Bool := l.flag .treatAsRunOnce
/-- `setTreatAsRunOnce()`. -/
def setTreatAsRunOnce : LazyScript := l.setFlag .treatAsRunOnce true
/-- `isDerivedClassConstructor()`. -/
def isDerivedClassConstructor : Bool := l.flag .isDerivedClassConstructor
/-- `setIsDerivedClassConstructor()`. -/
def setIsDerivedClassConstructor : LazyScript := l.setFlag .isDerivedClassConstructor true
/-- `needsHomeObject()`. -/
def needsHomeObject : Bool := l.flag .needsHomeObject
/-- `setNeedsHomeObject()`. -/
def setNeedsHomeObject : LazyScript := l.setFlag .needsHomeObject true
/-- `shouldDeclareArguments()`. -/
def shouldDeclareArguments : Bool := l.flag .shouldDeclareArguments
/-- `setShouldDeclareArguments()`. -/
def setShouldDeclareArguments : LazyScript := l.setFlag .shouldDeclareArguments true
/-- `hasThisBinding()`. -/
def hasThisBinding : Bool := l.flag .hasThisBinding
/-- `setHasThisBinding()`. -/
def setHasThisBinding : LazyScript := l.setFlag .hasThisBinding true

variable {l}

/-- Both counts are below their limits, whatever the word. -/
theorem numClosedOverBindings_lt_limit :
    l.numClosedOverBindings.toNat < NumClosedOverBindingsLimit.toNat := by
  have := l.p_.numClosedOverBindings.isLt
  simp only [numClosedOverBindings, NumClosedOverBindingsLimit, NumClosedOverBindingsBits] at this ⊢
  simp; omega

theorem numInnerFunctions_lt_limit :
    l.numInnerFunctions.toNat < NumInnerFunctionsLimit.toNat := by
  have := l.p_.numInnerFunctions.isLt
  simp only [numInnerFunctions, NumInnerFunctionsLimit, NumInnerFunctionsBits] at this ⊢
  simp; omega

/-- A field of `p_` is the bits of `packedFields_` at its offset. -/
theorem p_get (f : Field) : l.p_.get f = loadField f.offset f.width l.packedFields_ := by
  simp [p_, PackedView.ofWord]

/-- **A flag store writes its one bit.**  It leaves every other bit of `packedFields()`, every
other field of `p_` (both counts among them) and the spans as they were, and the flag then
reads as the value stored. -/
theorem setFlag_spec (k : Flag) (b : Bool) :
    (∀ i, i ≠ (Field.flag k).offset → (l.setFlag k b).packedFields.getLsbD i = l.packedFields.getLsbD i) ∧
    (∀ g, g ≠ .flag k → (l.setFlag k b).p_.get g = l.p_.get g) ∧
    (l.setFlag k b).flag k = b ∧
    { l.setFlag k b with packedFields_ := l.packedFields_ } = l := by
  have hk := Field.offset_add_width_le (.flag k)
  refine ⟨fun i hi => ?_, fun g hg => ?_, ?_, rfl⟩
  · simp only [packedFields, setFlag]
    rw [getLsbD_storeField _ _ hk, if_neg (by simp [Field.width]; omega)]
  · simp only [p_get, setFlag]
    exact loadField_storeField_of_disjoint _ _ hk (Field.disjoint hg)
  · simp only [flag, p_get, setFlag]
    rw [loadField_storeField_self _ _ hk]
    cases b <;> rfl

/-- Read as a record of `bool`s, a flag store is an update of one entry. -/
theorem flag_setFlag (k : Flag) (b : Bool) : (l.setFlag k b).flag = Function.update l.flag k b := by
  funext k'
  by_cases hk : k' = k
  · subst hk
    rw [Function.update_same]
    exact (setFlag_spec k' b).2.2.1
  · rw [Function.update_noteq hk]
    simp only [flag]
    rw [(setFlag_spec k b).2.1 (.flag k') (by simpa using hk)]

theorem numClosedOverBindings_setFlag (k : Flag) (b : Bool) :
    (l.setFlag k b).numClosedOverBindings = l.numClosedOverBindings :=
  congrArg (BitVec.setWidth 32) ((setFlag_spec k b).2.1 .numClosedOverBindings nofun)

theorem numInnerFunctions_setFlag (k : Flag) (b : Bool) :
    (l.setFlag k b).numInnerFunctions = l.numInnerFunctions :=
  congrArg (BitVec.setWidth 32) ((setFlag_spec k b).2.1 .numInnerFunctions nofun)

end LazyScript

/-- The flag setters of `LazyScript`, with their arguments. -/
inductive Setter
  | setGeneratorKind (kind : GeneratorKind)
  | setAsyncKind (kind : FunctionAsyncKind)
  | setHasRest | setIsBinAST | setStrict | setBindingsAccessedDynamically
  | setHasDebuggerStatement | setHasDirectEval | setLikelyConstructorWrapper | setHasBeenCloned
  | setTreatAsRunOnce | setIsDerivedClassConstructor | setNeedsHomeObject
  | setShouldDeclareArguments | setHasThisBinding
  deriving DecidableEq, Repr

namespace Setter

/-- The setter called on a script. -/
def call : Setter → LazyScript → Except Fault LazyScript
  | setGeneratorKind kind, l => l.setGeneratorKind kind
  | setAsyncKind kind, l => pure (l.setAsyncKind kind)
  | setHasRest, l => pure l.setHasRest
  | setIsBinAST, l => pure l.setIsBinAST
  | setStrict, l => pure l.setStrict
  | setBindingsAccessedDynamically, l => pure l.setBindingsAccessedDynamically
  | setHasDebuggerStatement, l => pure l.setHasDebuggerStatement
  | setHasDirectEval, l => pure l.setHasDirectEval
  | setLikelyConstructorWrapper, l => pure l.setLikelyConstructorWrapper
  | setHasBeenCloned, l => pure l.setHasBeenCloned
  | setTreatAsRunOnce, l => pure l.setTreatAsRunOnce
  | setIsDerivedClassConstructor, l => pure l.setIsDerivedClassConstructor
  | setNeedsHomeObject, l => pure l.setNeedsHomeObject
  | setShouldDeclareArguments, l => pure l.setShouldDeclareArguments
  | setHasThisBinding, l => pure l.setHasThisBinding

/-- The flag a setter writes. -/
def flag : Setter → Flag
  | setGeneratorKind _ => .isGenerator
  | setAsyncKind _ => .isAsync
  | setHasRest => .hasRest
  | setIsBinAST => .isBinAST
  | setStrict => .strict
  | setBindingsAccessedDynamically => .bindingsAccessedDynamically
  | setHasDebuggerStatement => .hasDebuggerStatement
  | setHasDirectEval => .hasDirectEval
  | setLikelyConstructorWrapper => .isLikelyConstructorWrapper
  | setHasBeenCloned => .hasBeenCloned
  | setTreatAsRunOnce => .treatAsRunOnce
  | setIsDerivedClassConstructor => .isDerivedClassConstructor
  | setNeedsHomeObject => .needsHomeObject
  | setShouldDeclareArguments => .shouldDeclareArguments
  | setHasThisBinding => .hasThisBinding

/-- Every setter that returns is a store of its own flag. -/
theorem call_eq_setFlag {s : Setter} {l l' : LazyScript} (h : s.call l = .ok l') :
    ∃ b, l' = l.setFlag s.flag b := by
  cases s with
  | setGeneratorKind kind =>
    simp only [call, LazyScript.setGeneratorKind] at h
    cases hg : !l.isGenerator
    · rw [hg] at h; cases h
    · rw [hg] at h; cases h; exact ⟨_, rfl⟩
  | _ => cases h; exact ⟨_, rfl⟩

/-- The value a setter stores into its flag. -/
def value : Setter → Bool
  | setGeneratorKind kind => kind == .generator
  | setAsyncKind kind => kind == .asyncFunction
  | _ => true

/-- A setter returns exactly when its assertion holds, which only `setGeneratorKind` has: the
script is not yet a generator.  It then stores its value into its flag. -/
theorem call_eq_ok {s : Setter} {l l' : LazyScript} :
    s.call l = .ok l' ↔ (s.flag = .isGenerator → l.flag .isGenerator = false) ∧
      l' = l.setFlag s.flag s.value := by
  cases s with
  | setGeneratorKind kind =>
    have hg : l.isGenerator = l.flag .isGenerator := by
      unfold LazyScript.isGenerator LazyScript.generatorKind
      cases l.flag .isGenerator <;> rfl
    simp only [call, LazyScript.setGeneratorKind, mozAssert_bind_eq_ok, pure_eq_ok, hg,
      Bool.not_eq_true', flag, value, true_implies, eq_comm (a := l')]
  | _ => exact ⟨fun h => ⟨nofun, (Except.ok.inj h).symm⟩, fun ⟨_, h⟩ => congrArg Except.ok h.symm⟩

/-- What the setters are for, on the flags as a record of `bool`s: a setter stores its value
into its own flag. -/
def store (F : Flag → Bool) (s : Setter) : Flag → Bool := Function.update F s.flag s.value

/-- A sequence of setter calls, stopping at the first failed assertion. -/
def run (ss : List Setter) (l : LazyScript) : Except Fault LazyScript := ss.foldlM (fun l s => s.call l) l

/-- A flag other than `isAsync` that is set stays set: `setGeneratorKind` asserts the script is
not yet a generator, `setAsyncKind` is the one setter that stores `false`, and every other
setter stores `true`. -/
theorem flag_of_call_eq_ok {s : Setter} {l l' : LazyScript} (h : s.call l = .ok l') {k : Flag}
    (hk : k ≠ .isAsync) (hl : l.flag k = true) : l'.flag k = true := by
  obtain ⟨hg, rfl⟩ := call_eq_ok.1 h
  rw [LazyScript.flag_setFlag]
  by_cases hks : k = s.flag
  · subst hks
    rw [Function.update_same]
    cases s with
    | setGeneratorKind kind => exact Bool.noConfusion (hl.symm.trans (hg rfl))
    | setAsyncKind kind => exact absurd rfl hk
    | _ => rfl
  · rw [Function.update_noteq hks]
    exact hl

/-- **The packed word is a record of flags.**  Along every sequence of flag setters that passes
its assertions, the flags read from `packedFields_` are those of the record in which each setter
has stored its value into its own flag; both 20-bit counts and the rest of the script stay as
they were; and no flag but `isAsync` ever turns off, since `setGeneratorKind` asserts that the
script is not yet a generator. -/
theorem run_flags : ∀ {ss : List Setter} {l l' : LazyScript}, run ss l = .ok l' →
    l'.flag = ss.foldl store l.flag ∧
    l'.numClosedOverBindings = l.numClosedOverBindings ∧
    l'.numInnerFunctions = l.numInnerFunctions ∧
    { l' with packedFields_ := l.packedFields_ } = l ∧
    ∀ k, k ≠ .isAsync → l.flag k = true → l'.flag k = true
  | [], _, _, h => by cases h; exact ⟨rfl, rfl, rfl, rfl, fun _ _ h => h⟩
  | s :: ss, l, _, h => by
    obtain ⟨l₁, h₁, h'⟩ := bind_eq_ok.1 ((List.foldlM_cons _ l s ss).symm.trans h)
    obtain ⟨hf, hc, hi, hr, hm⟩ := run_flags h'
    obtain ⟨-, rfl⟩ := call_eq_ok.1 h₁
    refine ⟨by rw [hf, LazyScript.flag_setFlag]; rfl,
      hc.trans (LazyScript.numClosedOverBindings_setFlag _ _),
      hi.trans (LazyScript.numInnerFunctions_setFlag _ _),
      congrArg (fun x : LazyScript => { x with packedFields_ := l.packedFields_ }) hr,
      fun k hk hl => hm k hk (flag_of_call_eq_ok h₁ hk hl)⟩

/-- A new script is marked strict, then a generator, then synchronous: bits 53 and 52 are set. -/
theorem run_flags_strict_generator :
    let ss : List Setter := [.setStrict, .setGeneratorKind .generator, .setAsyncKind .syncFunction]
    let l : LazyScript := ⟨0, 0, 0, 0, 0⟩
    let l' : LazyScript := ⟨0x0030000000000000, 0, 0, 0, 0⟩
    run ss l = .ok l' ∧ l'.flag = ss.foldl store l.flag ∧
    l'.numClosedOverBindings = l.numClosedOverBindings ∧ l'.numInnerFunctions = l.numInnerFunctions ∧
    { l' with packedFields_ := l.packedFields_ } = l ∧
    ∀ k, k ≠ .isAsync → l.flag k = true → l'.flag k = true :=
  have h : run [.setStrict, .setGeneratorKind .generator, .setAsyncKind .syncFunction] ⟨0, 0, 0, 0, 0⟩ =
      .ok ⟨0x0030000000000000, 0, 0, 0, 0⟩ := rfl
  ⟨h, run_flags h⟩

/-- **`PackedView` packs its fields apart, and each setter writes only its own.**  The fields
as the C++ bit-field rules lay them out in 32-bit units occupy pairwise disjoint bit ranges
inside the 64-bit word; a view stored into a word and read back through the union is the same
view, field for field, whatever bits the word held before; and every flag setter that returns
changes only its own bit of `packedFields()`, leaving every other field of `p_`, both 20-bit
counts among them, and the rest of the script unchanged. -/
theorem packedView_layout :
    (∀ f g : Field, f ≠ g → f.offset + f.width ≤ g.offset ∨ g.offset + g.width ≤ f.offset) ∧
    (∀ f : Field, f.offset + f.width ≤ 64) ∧
    (∀ (v : PackedView) (pad : uint64_t), PackedView.ofWord (v.toWord pad) = v) ∧
    ∀ (s : Setter) (l l' : LazyScript), s.call l = .ok l' →
      (∀ i, i ≠ (Field.flag s.flag).offset → l'.packedFields.getLsbD i = l.packedFields.getLsbD i) ∧
      (∀ g, g ≠ .flag s.flag → l'.p_.get g = l.p_.get g) ∧
      { l' with packedFields_ := l.packedFields_ } = l := by
  refine ⟨fun _ _ => Field.disjoint, Field.offset_add_width_le, PackedView.ofWord_toWord,
    fun s l l' h => ?_⟩
  obtain ⟨b, rfl⟩ := call_eq_setFlag h
  obtain ⟨h1, h2, -, h4⟩ := LazyScript.setFlag_spec (l := l) s.flag b
  exact ⟨h1, h2, h4⟩

end Setter

end JsScript
