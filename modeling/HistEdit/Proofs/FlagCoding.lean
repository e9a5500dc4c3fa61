import HistEdit.Proofs.Cursor
import Mathlib.Logic.Function.Basic

/-!
Flags and their printed form carry the same information. What is printed is read back as it was,
so different flags are printed differently and printing is a normal form of runs; and no character
of a printed run ends the run, so it is found whole wherever it stands in an expression.
-/

namespace HistEdit.Text

/-- Only one position stands before a given rest. -/
theorem At.unique {text rest : List Char} {position other : Nat} (h : At text position rest)
    (hother : At text other rest) : position = other := by
  have hposition := h.byteLength_eq
  have hotherPosition := hother.byteLength_eq
  omega

end HistEdit.Text

namespace HistEdit.Flags

open Text (At byteLength bytes)

/-- The run that a run is printed as once it is read. -/
def normalRun (run : List Char) : Except FlagError String :=
  (decode run).map encode

theorem normalRun_of_decode {run : List Char} {flags : Flags} (h : decode run = .ok flags) :
    normalRun run = .ok flags.encode := by
  rw [normalRun, h]
  rfl

theorem encode_injective : Function.Injective encode := by
  intro flags other hsame
  have hread := decode_encode flags
  rw [hsame, decode_encode] at hread
  exact (Except.ok.inj hread).symm

theorem not_syntax_of_isFlagChar {c : Char} (h : isFlagChar c = true) :
    Clause.isDelimiter c = false ∧ Clause.isBlank c = false ∧ Clause.isSeparator c = false ∧
      c ≠ '\x7b' ∧ c ≠ '\x7d' := by
  simp only [isFlagChar, Bool.and_eq_true, bne_iff_ne] at h
  obtain ⟨hblank, hdelimiter, hseparator, hopen⟩ := Clause.isRunChar_not_other h.1
  exact ⟨hdelimiter, hblank, hseparator, hopen, h.2⟩

/-- The characters that end a run. -/
theorem isRunChar_eq_false_iff {c : Char} :
    Clause.isRunChar c = false ↔ Clause.isDelimiter c = true ∨ Clause.isSeparator c = true ∨
      Clause.isBlank c = true ∨ c = '\x7b' := by
  simp only [Clause.isRunChar, Bool.not_eq_false', Bool.or_eq_true, beq_iff_eq, or_assoc]

/-- A printed run is found whole where it stands in front of a character that ends it. -/
theorem flagsAt_encode (flags : Flags) (before : List Char) {rest : List Char}
    (hrest : ∀ c ∈ rest.head?, Clause.isRunChar c = false) :
    let text := before ++ (flags.encode.toList ++ rest)
    let stop := byteLength before + byteLength flags.encode.toList
    Text.skip Clause.isRunChar (bytes text) (byteLength before) = stop ∧
      Cursor.flagsAt text (byteLength before) = .ok (flags, stop) := by
  intro text stop
  have hrun : At text (byteLength before) (flags.encode.toList ++ rest) := ⟨before, rfl, rfl⟩
  have hstop : At text stop rest := hrun.add
  refine ⟨?_, ?_⟩
  · have hskip := hrun.skip Cursor.byteClass_isRunChar
    rw [Text.dropWhile_run (isRunChar_of_decode (decode_encode flags)) hrest] at hskip
    exact hskip.unique hstop
  · have hagrees := Cursor.flagsAt_agrees hrun
    rw [Segment.readFlags_run (decode_encode flags) hrest] at hagrees
    generalize Cursor.flagsAt text (byteLength before) = outcome at hagrees
    cases hagrees with
    | read _ hposition => rw [hposition.unique hstop]

/-- Printing flags loses nothing. The printed form of any flags is read back as these flags, so
printing is injective; every run that is read has the flags of its normal form, which is its own
normal form; nothing in a printed run delimits a clause, separates expressions or belongs to a
block, so the end of the run is found, in the middle of any text, wherever the run ends. -/
theorem encode_lossless :
    (∀ flags : Flags, decode flags.encode.toList = .ok flags) ∧
    Function.Injective encode ∧
    (∀ run flags, decode run = .ok flags →
      ∃ normal, normalRun run = .ok normal ∧ decode normal.toList = .ok flags ∧
        normalRun normal.toList = .ok normal) ∧
    (∀ flags : Flags, ∀ c ∈ flags.encode.toList,
      Clause.isDelimiter c = false ∧ Clause.isBlank c = false ∧ Clause.isSeparator c = false ∧
        c ≠ '\x7b' ∧ c ≠ '\x7d') ∧
    ∀ (flags : Flags) (before rest : List Char),
      (∀ c ∈ rest.head?, Clause.isDelimiter c = true ∨ Clause.isSeparator c = true ∨
        Clause.isBlank c = true ∨ c = '\x7b') →
      let text := before ++ (flags.encode.toList ++ rest)
      let stop := byteLength before + byteLength flags.encode.toList
      Text.skip Clause.isRunChar (bytes text) (byteLength before) = stop ∧
        Cursor.flagsAt text (byteLength before) = .ok (flags, stop) := by
  refine ⟨decode_encode, encode_injective, ?_, ?_, ?_⟩
  · intro run flags hdecode
    exact ⟨flags.encode, normalRun_of_decode hdecode, decode_encode flags,
      normalRun_of_decode (decode_encode flags)⟩
  · intro flags c hc
    exact not_syntax_of_isFlagChar (isFlagChar_encode flags c hc)
  · intro flags before rest hrest
    exact flagsAt_encode flags before fun c hc => isRunChar_eq_false_iff.2 (hrest c hc)

/-- Both indices at the ends of their range, the title appended to itself, behind a character of two
bytes and in front of a block. -/
theorem encode_lossless_append :
    let flags : Flags :=
      { select := true, add := .append, source := .title, target := .title, fromIndex := -128
        matchIndex := 127 }
    flags.encode = "s127t-128t+" ∧
      decode "ss0127t-0128t+".toList = .ok flags ∧
      (∃ normal, normalRun "ss0127t-0128t+".toList = .ok normal ∧
        decode normal.toList = .ok flags ∧ normalRun normal.toList = .ok normal) ∧
      (∀ c ∈ "\x7b n \x7d".toList.head?, Clause.isDelimiter c = true ∨
        Clause.isSeparator c = true ∨ Clause.isBlank c = true ∨ c = '\x7b') ∧
      Cursor.flagsAt ("é;".toList ++ (flags.encode.toList ++ "\x7b n \x7d".toList)) 3 =
        .ok (flags, 14) := by
  intro flags
  obtain ⟨-, -, hnormal, -, hfound⟩ := encode_lossless
  have hread : decode "ss0127t-0128t+".toList = .ok flags := by rfl
  have hhead : "\x7b n \x7d".toList.head? = some '\x7b' := rfl
  have hends : ∀ c ∈ "\x7b n \x7d".toList.head?, Clause.isDelimiter c = true ∨
      Clause.isSeparator c = true ∨ Clause.isBlank c = true ∨ c = '\x7b' := by
    intro c hc
    rw [hhead, Option.mem_some_iff] at hc
    exact .inr (.inr (.inr hc.symm))
  have hstart : byteLength "é;".toList = 3 := by decide
  have hlength : byteLength flags.encode.toList = 11 := by decide
  have hplace := (hfound flags "é;".toList "\x7b n \x7d".toList hends).2
  rw [hstart, hlength] at hplace
  exact ⟨by decide, hread, hnormal _ _ hread, hends, hplace⟩

end HistEdit.Flags
