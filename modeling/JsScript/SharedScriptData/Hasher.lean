/-
# `ScriptBytecodeHasher::match` is structural equality

`ScriptDataTable` (`js/vm/JSScript.h`, lines 1384-1386) interns `SharedScriptData` blocks in a
`HashSet` keyed by `ScriptBytecodeHasher` (lines 1351-1380).  Its `match` compares the three
lengths of the two headers and then, with `mozilla::ArrayEqual<uint8_t>`, the first
`dataLength()` bytes of the two payloads, taking that length from the looked-up block.

`mozilla::ArrayEqual` on bytes is `memcmp(a, b, n) == 0`, which may read all `n` bytes of both
buffers: `arrayEqual` is `none` when either buffer is shorter, so a `match` that is `some` read
only inside both payloads.  `scriptBytecodeHasher_match` says that `match` is exactly equality of
the headers and of the atoms, bytecode and notes, that it never reads outside a payload, and that
it is an equivalence, which a deduplicating table needs.
-/

import JsScript.SharedScriptData.Layout

namespace JsScript

/-- `mozilla::ArrayEqual<uint8_t>(a, b, n)`: `none` when it would read past either buffer. -/
def arrayEqual : List uint8_t → List uint8_t → Nat → Option Bool
  | _, _, 0 => some true
  | x :: a, y :: b, n + 1 => (arrayEqual a b n).map (x == y && ·)
  | _, _, _ + 1 => none

/-- **`ArrayEqual` compares the first `n` bytes**, and stays inside both buffers exactly when
both hold `n` bytes. -/
theorem arrayEqual_eq_some {a b : List uint8_t} {n : Nat} {r : Bool} :
    arrayEqual a b n = some r ↔ n ≤ a.length ∧ n ≤ b.length ∧ r = decide (a.take n = b.take n) := by
  induction a, b, n using arrayEqual.induct generalizing r with
  | case1 a b => simp [arrayEqual, eq_comm]
  | case2 x a y b n ih =>
    simp only [arrayEqual, Option.map_eq_some', ih, List.length_cons, List.take_succ_cons,
      List.cons.injEq]
    constructor
    · rintro ⟨r', ⟨ha, hb, rfl⟩, rfl⟩
      exact ⟨by omega, by omega, by simp [Bool.beq_eq_decide_eq]⟩
    · rintro ⟨ha, hb, rfl⟩
      exact ⟨_, ⟨by omega, by omega, rfl⟩, by simp [Bool.beq_eq_decide_eq]⟩
  | case3 a b n h =>
    cases a with
    | nil => simp [arrayEqual]
    | cons x a =>
      cases b with
      | nil => simp [arrayEqual]
      | cons y b => exact (h x a y b rfl rfl).elim

namespace ScriptBytecodeHasher

/-- `Lookup`: the block looked up.  Its `hash`, computed in `JSScript.cpp`, is not read by
`match`. -/
structure Lookup where
  scriptData : SharedScriptData

/-- `match(entry, lookup)`. -/
def «match» (entry : SharedScriptData) (lookup : Lookup) : Option Bool :=
  let data := lookup.scriptData
  if entry.natoms ≠ data.natoms then some false
  else if entry.codeLength ≠ data.codeLength then some false
  else if entry.numNotes ≠ data.numNotes then some false
  else arrayEqual entry.data data.data data.dataLength.toNat

end ScriptBytecodeHasher

namespace SharedScriptData

theorem dataLength_eq_of_header {a b : SharedScriptData} (hn : a.natoms = b.natoms)
    (hc : a.codeLength = b.codeLength) (hm : a.numNotes = b.numNotes) :
    a.dataLength = b.dataLength := by
  simp only [natoms, codeLength, numNotes] at hn hc hm
  simp only [dataLength, hn, hc, hm]

end SharedScriptData

namespace ScriptBytecodeHasher

/-- `match` on two blocks with the same header compares their whole payloads. -/
theorem match_of_header {a b : SharedScriptData} (hn : a.natoms = b.natoms)
    (hc : a.codeLength = b.codeLength) (hm : a.numNotes = b.numNotes) :
    «match» a ⟨b⟩ = some (decide (a.data = b.data)) := by
  have ha : a.data.length = b.dataLength.toNat := by
    rw [a.data_length, SharedScriptData.dataLength_eq_of_header hn hc hm]
  have hb := b.data_length
  simp only [«match», hn, hc, hm, ne_eq, not_true_eq_false, if_false]
  rw [arrayEqual_eq_some]
  refine ⟨Nat.le_of_eq ha.symm, Nat.le_of_eq hb.symm, ?_⟩
  rw [← ha, List.take_length, ha, ← hb, List.take_length]

theorem match_isSome (a b : SharedScriptData) : («match» a ⟨b⟩).isSome := by
  by_cases hn : a.natoms = b.natoms
  · by_cases hc : a.codeLength = b.codeLength
    · by_cases hm : a.numNotes = b.numNotes
      · simp [match_of_header hn hc hm]
      · simp [«match», hn, hc, hm]
    · simp [«match», hn, hc]
  · simp [«match», hn]

theorem match_eq_true_iff (a b : SharedScriptData) :
    «match» a ⟨b⟩ = some true ↔
      a.natoms = b.natoms ∧ a.codeLength = b.codeLength ∧ a.numNotes = b.numNotes ∧
        a.atomBytes = b.atomBytes ∧ a.codeBytes = b.codeBytes ∧ a.noteBytes = b.noteBytes := by
  by_cases hn : a.natoms = b.natoms
  · by_cases hc : a.codeLength = b.codeLength
    · by_cases hm : a.numNotes = b.numNotes
      · simp [match_of_header hn hc hm, SharedScriptData.data_eq_iff hn hc hm, hn, hc, hm]
      · simp [«match», hn, hc, hm]
    · simp [«match», hn, hc]
  · simp [«match», hn]

/-- **`match` is structural equality.**  For every two blocks, whatever their three `uint32_t`
lengths: the atoms, the bytecode and the notes lie end to end at the offsets `atoms()`,
`code()` and `notes()` give and cover each payload, `dataLength()` without wrapping; `match`
reads only inside both payloads; it holds exactly when the headers and the three regions are
equal; and so it is an equivalence. -/
theorem scriptBytecodeHasher_match (a b : SharedScriptData) :
    a.Regions ∧ b.Regions ∧ («match» a ⟨b⟩).isSome ∧
    («match» a ⟨b⟩ = some true ↔
      a.natoms = b.natoms ∧ a.codeLength = b.codeLength ∧ a.numNotes = b.numNotes ∧
        a.atomBytes = b.atomBytes ∧ a.codeBytes = b.codeBytes ∧ a.noteBytes = b.noteBytes) ∧
    Equivalence (fun a b : SharedScriptData => «match» a ⟨b⟩ = some true) := by
  refine ⟨a.regions, b.regions, match_isSome a b, match_eq_true_iff a b, ⟨?_, ?_, ?_⟩⟩
  · intro x; simp [match_eq_true_iff]
  · intro x y; simp only [match_eq_true_iff]; tauto
  · intro x y z; simp only [match_eq_true_iff]
    rintro ⟨h1, h2, h3, h4, h5, h6⟩ ⟨h1', h2', h3', h4', h5', h6'⟩
    exact ⟨h1.trans h1', h2.trans h2', h3.trans h3', h4.trans h4', h5.trans h5', h6.trans h6'⟩

end ScriptBytecodeHasher

end JsScript
