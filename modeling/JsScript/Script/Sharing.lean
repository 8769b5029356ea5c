/-
# A script runs the bytecode it was emitted with

`src/src/js/vm/JSScript.h`, lines 1405 (`JSScript::scriptData_`), 1740-1783 (`code`,
`offsetToPC`) and 1351-1392 (`ScriptBytecodeHasher::match`, `ScriptDataTable`).

`JsScript.SharedScriptData.Interning` follows `scriptData_` as a pointer into a heap of blocks
that scripts share, and proves that a script keeps its block, and the block its bytecode, until
the script is finalized.  `JsScript.Script.Bytecode` reads a script's code through the block
`scriptData_` points at, placed at an address.  The two never met: the one knows which block a
script holds, the other what `offsetToPC` reads from a block.

`SharedScriptData.codeBytes_eq_of_bytecode` supplies the missing step: the code region is
determined by what `match` compares, so a block the table hands over in place of the emitter's
has the emitter's code.  `DataWorld.Reachable.runs_emitted_code` is then the whole path from
`shareScriptData` to the bytes the interpreter reads: after a script shares the block its
emitter filled, along every later run and until the script is finalized, every offset below the
emitted `length()` is a program counter of the script, and the byte there is the emitted byte.
-/

import JsScript.Script.Bytecode
import JsScript.SharedScriptData.Interning

namespace JsScript

namespace SharedScriptData

/-- The code region depends only on what `match` compares. -/
theorem codeBytes_eq_of_bytecode {a b : SharedScriptData} (h : a.bytecode = b.bytecode) :
    a.codeLength = b.codeLength ∧ a.codeBytes = b.codeBytes := by
  obtain ⟨hn, hc, -, hd⟩ : a.natoms_ = b.natoms_ ∧ a.codeLength_ = b.codeLength_ ∧
      a.noteLength_ = b.noteLength_ ∧ a.payload = b.payload := by
    simpa [bytecode, natoms, codeLength, numNotes, data] using h
  exact ⟨hc, by simp only [codeBytes, region, code, codeLength, hn, hc, hd]⟩

end SharedScriptData

namespace JSScript

variable {s : JSScript} {d : ScriptDataAt}

/-- An offset below `length()` is a program counter, `offsetToPC` passes its assertion on it,
and the byte there is the code byte at that offset. -/
theorem offsetToPC_load (hd : s.scriptData_ = some d) {o : size_t}
    (ho : o.toNat < d.block.codeLength.toNat) :
    s.offsetToPC o = .ok (s.code + o) ∧ d.load (s.code + o) = d.block.codeBytes[o.toNat]? :=
  ⟨(offsetToPC_eq_ok_iff hd).2 ⟨ho, rfl⟩, by rw [code_of_eq hd]; exact d.load_code ho⟩

end JSScript

namespace DataWorld

variable {w : DataWorld}

theorem live_of_bytecodeAt {heap : List DataCell} {p : Nat}
    {b : uint32_t × uint32_t × uint32_t × List uint8_t} (h : bytecodeAt heap p = some b) :
    ∃ d, heap[p]? = some (.live d) ∧ d.bytecode = b := by
  unfold bytecodeAt at h
  split at h
  · next d hd => exact ⟨d, hd, Option.some.inj h⟩
  · cases h

/-- **A script runs the bytecode it was emitted with.**  From every reachable world, sharing
the block an emitter filled gives the new script a block, its own or one the table already
held, and along every admissible run after that, until the script is finalized, the script
holds a block with the emitted `length()` from which every `JSScript` pointing at it, wherever
the block lies in memory, reads the emitted bytecode: each offset below `length()` passes
`offsetToPC`, and the byte at the program counter it gives is the emitted byte. -/
theorem Reachable.runs_emitted_code (hr : Reachable w) {c : SharedScriptData}
    (hop : w.Admissible (.share c)) :
    ∃ w', w.step (.share c) = .ok w' ∧ ∀ w'', Run w' w'' →
      w''.scripts[w.scripts.length]? = some none ∨
      ∃ p d, w''.scripts[w.scripts.length]? = some (some p) ∧ w''.heap[p]? = some (.live d) ∧
        d.codeLength = c.codeLength ∧
        ∀ (s : JSScript) (a : ScriptDataAt), s.scriptData_ = some a → a.block = d →
          ∀ o : size_t, o.toNat < c.codeLength.toNat →
            s.offsetToPC o = .ok (s.code + o) ∧ a.load (s.code + o) = c.codeBytes[o.toNat]? := by
  obtain ⟨w', p, d, h, hs, hd, hbc⟩ := hr.inv.share_bytecode hop
  have hp : w'.scripts[w.scripts.length]? = some (some p) := by simp [hs]
  refine ⟨w', h, fun w'' hrun => ?_⟩
  rcases (hr.step _ hop h).bytecode_stable hrun hp (bytecodeAt_of_live hd) with ⟨hp'', hb''⟩ | hn
  · obtain ⟨d'', hd'', hbc''⟩ := live_of_bytecodeAt hb''
    obtain ⟨hlen, hcode⟩ := SharedScriptData.codeBytes_eq_of_bytecode (hbc''.trans hbc)
    refine .inr ⟨p, d'', hp'', hd'', hlen, fun s a hs ha o ho => ?_⟩
    subst ha
    rw [← hcode]
    exact JSScript.offsetToPC_load hs (hlen ▸ ho)
  · exact .inl hn

/-- The first script made in a runtime, emitted with one byte of code, runs that byte along every
run after it until it is finalized. -/
theorem runs_emitted_code_first :
    Reachable init ∧ init.Admissible (.share ⟨1, 0, 1, 0, [0x99], rfl⟩) ∧
    ∃ w', init.step (.share ⟨1, 0, 1, 0, [0x99], rfl⟩) = .ok w' ∧ ∀ w'', Run w' w'' →
      w''.scripts[init.scripts.length]? = some none ∨
      ∃ p d, w''.scripts[init.scripts.length]? = some (some p) ∧ w''.heap[p]? = some (.live d) ∧
        d.codeLength = (⟨1, 0, 1, 0, [0x99], rfl⟩ : SharedScriptData).codeLength ∧
        ∀ (s : JSScript) (a : ScriptDataAt), s.scriptData_ = some a → a.block = d →
          ∀ o : size_t, o.toNat < (⟨1, 0, 1, 0, [0x99], rfl⟩ : SharedScriptData).codeLength.toNat →
            s.offsetToPC o = .ok (s.code + o) ∧
              a.load (s.code + o) = (⟨1, 0, 1, 0, [0x99], rfl⟩ : SharedScriptData).codeBytes[o.toNat]? :=
  have hop : init.Admissible (.share ⟨1, 0, 1, 0, [0x99], rfl⟩) := ⟨rfl, by decide⟩
  ⟨.init, hop, Reachable.runs_emitted_code .init hop⟩

end DataWorld

end JsScript
