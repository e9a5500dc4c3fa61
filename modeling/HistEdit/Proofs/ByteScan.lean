import HistEdit.Expression.Cursor
import HistEdit.Proofs.FlagRun
import HistEdit.Proofs.Scan

/-!
Scanning bytes is scanning characters. Every character of the grammar is one byte below 128, while
all bytes of any other character are from 128 on. So no scan stops inside a character, and what it
finds is where the same scan of the characters stops.
-/

namespace HistEdit.Text

/-- A class to which a character belongs exactly when its bytes do, each of them taken as a
character. -/
def ByteClass (p : Char → Bool) : Prop :=
  ∀ c, ∀ byte ∈ String.utf8EncodeChar c, p (.ofUInt8 byte) = p c

theorem bytes_cons (c : Char) (cs : List Char) :
    bytes (c :: cs) = String.utf8EncodeChar c ++ bytes cs := by
  simp [bytes]

theorem toNat_ofUInt8 (byte : UInt8) : (Char.ofUInt8 byte).toNat = byte.toNat :=
  UInt8.toNat_toUInt32 byte

theorem exists_cons_utf8EncodeChar (c : Char) :
    ∃ byte tail, String.utf8EncodeChar c = byte :: tail :=
  List.exists_cons_of_ne_nil String.utf8EncodeChar_ne_nil

/-- A character below 128 is one byte with its number. -/
theorem exists_utf8EncodeChar {c : Char} (h : c.toNat < 128) :
    ∃ byte, String.utf8EncodeChar c = [byte] ∧ Char.ofUInt8 byte = c := by
  have hsmall : c.toNat ≤ 127 := by omega
  refine ⟨UInt8.ofNat c.toNat, by simp [String.utf8EncodeChar, hsmall], ?_⟩
  apply Char.toNat_inj.1
  rw [toNat_ofUInt8, UInt8.toNat_ofNat']
  exact Nat.mod_eq_of_lt (by omega)

theorem byteLength_cons_ascii {c : Char} (h : c.toNat < 128) (cs : List Char) :
    byteLength (c :: cs) = byteLength cs + 1 := by
  obtain ⟨byte, hencode, -⟩ := exists_utf8EncodeChar h
  rw [← length_bytes, bytes_cons, hencode, List.length_append, length_bytes, List.length_singleton,
    Nat.add_comm]

theorem ofUInt8_inj {a b : UInt8} : Char.ofUInt8 a = Char.ofUInt8 b ↔ a = b := by
  rw [← Char.toNat_inj, toNat_ofUInt8, toNat_ofUInt8, UInt8.toNat_inj]

/-- The bytes of any other character are from 128 on. -/
theorem le_of_mem_utf8EncodeChar {c : Char} (h : 128 ≤ c.toNat) {byte : UInt8}
    (hbyte : byte ∈ String.utf8EncodeChar c) : 128 ≤ (Char.ofUInt8 byte).toNat := by
  have hvalue : 128 ≤ c.val.toNat := h
  have hle : 128 ≤ byte.toNat := by
    simp only [String.utf8EncodeChar] at hbyte
    split at hbyte
    · omega
    · split at hbyte
      · simp only [List.mem_cons, List.not_mem_nil, or_false] at hbyte
        rcases hbyte with rfl | rfl <;> simp only [UInt8.toNat_ofNat'] <;> omega
      · split at hbyte
        · simp only [List.mem_cons, List.not_mem_nil, or_false] at hbyte
          rcases hbyte with rfl | rfl | rfl <;> simp only [UInt8.toNat_ofNat'] <;> omega
        · simp only [List.mem_cons, List.not_mem_nil, or_false] at hbyte
          rcases hbyte with rfl | rfl | rfl | rfl <;> simp only [UInt8.toNat_ofNat'] <;> omega
  rwa [toNat_ofUInt8]

theorem ne_of_ascii {c d : Char} (hd : d.toNat < 128) (hc : 128 ≤ c.toNat) : c ≠ d := by
  rintro rfl
  omega

/-- A class of characters below 128 can be told from bytes. -/
theorem byteClass_of_ascii {p : Char → Bool} (h : ∀ c, p c = true → c.toNat < 128) :
    ByteClass p := by
  intro c byte hbyte
  rcases Nat.lt_or_ge c.toNat 128 with hc | hc
  · obtain ⟨single, hencode, hchar⟩ := exists_utf8EncodeChar hc
    rw [hencode, List.mem_singleton] at hbyte
    rw [hbyte, hchar]
  · have hnone : ∀ d : Char, 128 ≤ d.toNat → p d = false := by
      intro d hd
      cases hp : p d with
      | false => rfl
      | true => exact absurd (h d hp) (by omega)
    rw [hnone c hc, hnone _ (le_of_mem_utf8EncodeChar hc hbyte)]

theorem ByteClass.not {p : Char → Bool} (h : ByteClass p) : ByteClass fun c => !p c := by
  intro c byte hbyte
  simp only [h c byte hbyte]

theorem ByteClass.or {p q : Char → Bool} (hp : ByteClass p) (hq : ByteClass q) :
    ByteClass fun c => p c || q c := by
  intro c byte hbyte
  simp only [hp c byte hbyte, hq c byte hbyte]

theorem byteClass_eq {mark : Char} (h : mark.toNat < 128) : ByteClass (· == mark) :=
  byteClass_of_ascii fun c hc => by
    rw [beq_iff_eq.1 hc]
    exact h

section

variable {p : Char → Bool}

/-- The bytes in front that belong to a class are those of the characters in front that do. -/
theorem takeWhile_bytes (hp : ByteClass p) (cs : List Char) :
    (bytes cs).takeWhile (fun byte => p (.ofUInt8 byte)) = bytes (cs.takeWhile p) := by
  induction cs with
  | nil => rfl
  | cons c cs ih =>
      rw [bytes_cons]
      cases hc : p c with
      | true =>
          have hall : ∀ byte ∈ String.utf8EncodeChar c, p (.ofUInt8 byte) = true :=
            fun byte hbyte => (hp c byte hbyte).trans hc
          rw [List.takeWhile_append_of_pos hall, ih, List.takeWhile_cons_of_pos hc, bytes_cons]
      | false =>
          obtain ⟨byte, tail, hencode⟩ := exists_cons_utf8EncodeChar c
          have hbyte : p (.ofUInt8 byte) = false :=
            (hp c byte (by simp [hencode])).trans hc
          simp [hencode, hbyte, hc, bytes]

theorem any_bytes (hp : ByteClass p) (cs : List Char) :
    (bytes cs).any (fun byte => p (.ofUInt8 byte)) = cs.any p := by
  induction cs with
  | nil => rfl
  | cons c cs ih =>
      have hc : (String.utf8EncodeChar c).any (fun byte => p (.ofUInt8 byte)) = p c := by
        obtain ⟨byte, tail, hencode⟩ := exists_cons_utf8EncodeChar c
        have hall := hp c
        rw [hencode] at hall ⊢
        cases hpc : p c with
        | true => simp [hall byte (by simp), hpc]
        | false => simpa [hpc] using hall
      rw [bytes_cons, List.any_append, ih, hc, List.any_cons]

variable {text rest : List Char} {position : Nat}

/-- A scan for the end of a class stops where the characters of the class end. -/
theorem At.skip (h : At text position rest) (hp : ByteClass p) :
    At text (Text.skip p (bytes text) position) (rest.dropWhile p) := by
  rw [Text.skip, h.drop_bytes, takeWhile_bytes hp, length_bytes]
  exact At.add (by rwa [List.takeWhile_append_dropWhile])

/-- What a scan passes over. -/
theorem At.slice?_skip (h : At text position rest) (hp : ByteClass p) :
    Text.slice? text position (Text.skip p (bytes text) position) = some (rest.takeWhile p) :=
  At.slice? (by rwa [List.takeWhile_append_dropWhile]) (h.skip hp)

theorem At.getElem?_nil (h : At text position []) : (bytes text)[position]? = none := by
  rw [List.getElem?_eq_none_iff, length_bytes, h.byteLength_eq]
  simp

/-- The byte at a position is the first one of the character there. -/
theorem At.getElem?_cons {c : Char} {cs : List Char} (h : At text position (c :: cs)) :
    ∃ byte ∈ String.utf8EncodeChar c, (bytes text)[position]? = some byte ∧
      leadByte c = Char.ofUInt8 byte := by
  obtain ⟨byte, tail, hencode⟩ := exists_cons_utf8EncodeChar c
  refine ⟨byte, by simp [hencode], ?_, ?_⟩
  · have hdrop := h.drop_bytes
    rw [bytes_cons, hencode] at hdrop
    rw [← List.head?_drop, hdrop]
    rfl
  · rw [leadByte, hencode, List.headD_cons, ← toNat_ofUInt8, Char.ofNat_toNat]

/-- A character below 128 is the byte at its position, and the next position is behind it. -/
theorem At.getElem?_ascii {c : Char} {cs : List Char} (h : At text position (c :: cs))
    (hc : c.toNat < 128) :
    (∃ byte, (bytes text)[position]? = some byte ∧ String.utf8EncodeChar c = [byte] ∧
      Char.ofUInt8 byte = c) ∧ At text (position + 1) cs := by
  obtain ⟨byte, hencode, hchar⟩ := exists_utf8EncodeChar hc
  obtain ⟨found, hfound, hget, -⟩ := h.getElem?_cons
  rw [hencode, List.mem_singleton] at hfound
  have hsize : byteLength [c] = 1 := byteLength_cons_ascii hc []
  refine ⟨⟨byte, hfound ▸ hget, hencode, hchar⟩, ?_⟩
  rw [← hsize]
  exact At.add (show At text position ([c] ++ cs) from h)

end

end HistEdit.Text

namespace HistEdit.Cursor

open Text

theorem isDelimiter_ascii {c : Char} (hc : Clause.isDelimiter c = true) : c.toNat < 128 := by
  rcases Clause.isDelimiter_cases hc with rfl | rfl | rfl | rfl <;> decide

theorem byteClass_isDelimiter : ByteClass Clause.isDelimiter :=
  byteClass_of_ascii fun _ => isDelimiter_ascii

theorem byteClass_isSeparator : ByteClass Clause.isSeparator :=
  byteClass_of_ascii fun c hc => by
    rcases Clause.isSeparator_cases hc with rfl | rfl | rfl <;> decide

theorem byteClass_isBlank : ByteClass Clause.isBlank :=
  byteClass_of_ascii fun c hc => by
    rcases Clause.isBlank_cases hc with rfl | rfl <;> decide

theorem byteClass_isGap : ByteClass Segment.isGap :=
  byteClass_isBlank.or byteClass_isSeparator

theorem byteClass_open : ByteClass (· == '\x7b') :=
  byteClass_eq (by decide)

theorem byteClass_isRunChar : ByteClass Clause.isRunChar :=
  (((byteClass_isDelimiter.or byteClass_isSeparator).or byteClass_isBlank).or byteClass_open).not

theorem isIndexChar_ascii {c : Char} (hc : Flags.isIndexChar c = true) : c.toNat < 128 := by
  simp only [Flags.isIndexChar, Char.isDigit, Bool.or_eq_true, Bool.and_eq_true, decide_eq_true_eq,
    beq_iff_eq] at hc
  rcases hc with ⟨-, hc⟩ | rfl
  · have hle : c.toNat ≤ 57 := UInt32.le_iff_toNat_le.1 hc
    omega
  · decide

theorem byteClass_isIndexChar : ByteClass Flags.isIndexChar :=
  byteClass_of_ascii fun _ => isIndexChar_ascii

/-- Bytes that are neither a backslash nor the mark are passed over and leave no backslash
directly before what follows. -/
theorem findUnescaped_append {mark : UInt8} {passed : List UInt8} (hne : passed ≠ [])
    (hpassed : ∀ byte ∈ passed, Char.ofUInt8 byte ≠ '\\' ∧ byte ≠ mark) (backslashes : Nat)
    (bytes : List UInt8) :
    findUnescaped mark backslashes (passed ++ bytes) =
      (findUnescaped mark 0 bytes).map (passed.length + ·) := by
  induction passed generalizing backslashes with
  | nil => exact absurd rfl hne
  | cons byte passed ih =>
      obtain ⟨hslash, hmark⟩ := hpassed byte (by simp)
      rw [List.cons_append, findUnescaped, if_neg hslash, if_neg fun h => hmark h.1]
      cases passed with
      | nil =>
          simp only [List.nil_append, List.length_singleton]
          congr 1
          funext stop
          omega
      | cons next passed =>
          rw [ih (by simp) fun b hb => hpassed b (by simp [hb]), Option.map_map]
          congr 1
          funext stop
          simp only [Function.comp_apply, List.length_cons]
          omega

/-- The scan for a mark finds the place where the characters are cut. -/
theorem findUnescaped_bytes {mark : UInt8} (hmark : (Char.ofUInt8 mark).toNat < 128)
    (backslashes : Nat) (cs : List Char) :
    findUnescaped mark backslashes (bytes cs) =
      (Clause.splitUnescaped (.ofUInt8 mark) (backslashes % 2 == 1) cs).map
        fun cut => byteLength cut.1 := by
  induction cs generalizing backslashes with
  | nil => rfl
  | cons c cs ih =>
      rw [bytes_cons]
      rcases Nat.lt_or_ge c.toNat 128 with hc | hc
      · have hlength (cut : List Char × List Char) :
            byteLength (c :: cut.1) = byteLength cut.1 + 1 := byteLength_cons_ascii hc cut.1
        obtain ⟨byte, hencode, rfl⟩ := exists_utf8EncodeChar hc
        rw [hencode, List.singleton_append, findUnescaped, Clause.splitUnescaped]
        by_cases hslash : Char.ofUInt8 byte = '\\'
        · -- one more backslash turns the parity
          have hparity : ((backslashes + 1) % 2 == 1) = !(backslashes % 2 == 1) := by
            rcases Nat.mod_two_eq_zero_or_one backslashes with h | h <;> simp [Nat.add_mod, h]
          rw [if_pos hslash, if_pos hslash, ih, hparity, Option.map_map, Option.map_map]
          simp only [Function.comp_def, hlength]
        · rw [if_neg hslash, if_neg hslash]
          have hstop : (byte = mark ∧ backslashes % 2 = 0) ↔
              (Char.ofUInt8 byte = .ofUInt8 mark ∧ (!(backslashes % 2 == 1)) = true) := by
            simp [ofUInt8_inj]
          by_cases hmark : byte = mark ∧ backslashes % 2 = 0
          · rw [if_pos hmark, if_pos (hstop.1 hmark)]
            rfl
          · rw [if_neg hmark, if_neg fun h => hmark (hstop.2 h), ih, Option.map_map,
              Option.map_map]
            simp only [Function.comp_def, hlength]
            rfl
      · have hpassed : ∀ byte ∈ String.utf8EncodeChar c,
            Char.ofUInt8 byte ≠ '\\' ∧ byte ≠ mark := by
          intro byte hbyte
          have hle := le_of_mem_utf8EncodeChar hc hbyte
          exact ⟨ne_of_ascii (by decide) hle, fun h => ne_of_ascii hmark hle (congrArg _ h)⟩
        have hcut : ¬(c = .ofUInt8 mark ∧ (!(backslashes % 2 == 1)) = true) :=
          fun h => ne_of_ascii hmark hc h.1
        rw [findUnescaped_append String.utf8EncodeChar_ne_nil hpassed, ih, Clause.splitUnescaped,
          if_neg (ne_of_ascii (by decide) hc), if_neg hcut, Option.map_map, Option.map_map]
        simp only [Function.comp_def, byteLength_cons, String.length_utf8EncodeChar]
        rfl

/-- One byte of the scan for a brace counts as one character does. -/
theorem findBrace_cons (depth : Nat) (byte : UInt8) (bytes : List UInt8) :
    findBrace (depth + 1) (byte :: bytes) =
      match Clause.depthStep depth (.ofUInt8 byte) with
      | none => some (some 0)
      | some next => (findBrace (next + 1) bytes).map (Option.map (· + 1)) := by
  rw [findBrace.eq_def]
  unfold Clause.depthStep
  by_cases hopen : Char.ofUInt8 byte = '\x7b'
  · simp [hopen]
  · by_cases hclose : Char.ofUInt8 byte = '\x7d'
    · cases depth with
      | zero => simp [hclose]
      | succ depth => simp [hclose]
    · simp [hopen, hclose]

/-- Bytes that are no braces are passed over. -/
theorem findBrace_append {passed : List UInt8}
    (hpassed : ∀ byte ∈ passed, Char.ofUInt8 byte ≠ '\x7b' ∧ Char.ofUInt8 byte ≠ '\x7d')
    (depth : Nat) (bytes : List UInt8) :
    findBrace (depth + 1) (passed ++ bytes) =
      (findBrace (depth + 1) bytes).map (Option.map (· + passed.length)) := by
  induction passed with
  | nil =>
      simp only [List.nil_append, List.length_nil, Nat.add_zero]
      change _ = (findBrace (depth + 1) bytes).map (Option.map id)
      rw [Option.map_id, Option.map_id, id]
  | cons byte passed ih =>
      obtain ⟨hopen, hclose⟩ := hpassed byte (by simp)
      have hstep : Clause.depthStep depth (.ofUInt8 byte) = some depth := by
        simp [Clause.depthStep, hopen, hclose]
      rw [List.cons_append, findBrace_cons, hstep]
      simp only [ih fun b hb => hpassed b (by simp [hb]), Option.map_map]
      congr 1
      funext found
      cases found with
      | none => rfl
      | some stop => simp [Nat.add_assoc]

/-- The scan for a brace finds the place where the characters are cut, and its count stays above
zero on the way. -/
theorem findBrace_bytes (depth : Nat) (cs : List Char) :
    findBrace (depth + 1) (bytes cs) =
      some ((Clause.splitBrace depth cs).map fun cut => byteLength cut.1) := by
  induction cs generalizing depth with
  | nil => rfl
  | cons c cs ih =>
      have hkeep (depth : Nat) :
          (findBrace (depth + 1) (bytes cs)).map (Option.map (· + c.utf8Size)) =
            some (((Clause.splitBrace depth cs).map fun cut => (c :: cut.1, cut.2)).map
              fun cut => byteLength cut.1) := by
        rw [ih]
        simp [Function.comp_def, Nat.add_comm]
      rw [bytes_cons, Clause.splitBrace_cons]
      rcases Nat.lt_or_ge c.toNat 128 with hc | hc
      · have hsize : c.utf8Size = 1 := by simpa using byteLength_cons_ascii hc []
        rw [hsize] at hkeep
        obtain ⟨byte, hencode, rfl⟩ := exists_utf8EncodeChar hc
        rw [hencode, List.singleton_append, findBrace_cons]
        cases Clause.depthStep depth (.ofUInt8 byte) with
        | none => rfl
        | some next => exact hkeep next
      · have hpassed : ∀ byte ∈ String.utf8EncodeChar c,
            Char.ofUInt8 byte ≠ '\x7b' ∧ Char.ofUInt8 byte ≠ '\x7d' := by
          intro byte hbyte
          have hle := le_of_mem_utf8EncodeChar hc hbyte
          exact ⟨ne_of_ascii (by decide) hle, ne_of_ascii (by decide) hle⟩
        have hopen : c ≠ '\x7b' := ne_of_ascii (by decide) hc
        have hclose : c ≠ '\x7d' := ne_of_ascii (by decide) hc
        have hstep : Clause.depthStep depth c = some depth := by
          simp [Clause.depthStep, hopen, hclose]
        rw [findBrace_append hpassed, String.length_utf8EncodeChar, hstep]
        exact hkeep depth

section

variable {text : List Char} {position : Nat}

/-- The next mark that is not escaped, where the character at a position is the mark. -/
theorem nextUnescaped_at {mark : Char} {cs : List Char} (h : At text position (mark :: cs))
    (hmark : mark.toNat < 128) :
    nextUnescaped (bytes text) position =
      some ((Clause.splitUnescaped mark false cs).map
        fun cut => position + 1 + byteLength cut.1) := by
  obtain ⟨⟨byte, hget, -, rfl⟩, hnext⟩ := h.getElem?_ascii hmark
  simp only [nextUnescaped, hget, hnext.drop_bytes, findUnescaped_bytes hmark, Option.map_map]
  rfl

/-- The brace that closes the one at a position; the count is never below zero. -/
theorem matchingBrace_at {cs : List Char} (h : At text position ('\x7b' :: cs)) :
    matchingBrace (bytes text) position =
      some ((Clause.splitBrace 0 cs).map fun cut => position + 1 + byteLength cut.1) := by
  obtain ⟨byte, hencode, hopen⟩ := @exists_utf8EncodeChar '\x7b' (by decide)
  rw [matchingBrace, h.drop_bytes, bytes_cons, hencode, List.singleton_append, findBrace,
    if_pos hopen, findBrace_bytes]
  simp [Function.comp_def, Nat.add_assoc, Nat.add_comm 1]

/-- The last mark of a clause, where the character at a position is its middle mark. -/
theorem substitutionEnd_at {mark : Char} {cs : List Char} (h : At text position (mark :: cs))
    (hmark : mark.toNat < 128) :
    substitutionEnd (bytes text) position =
      some ((Clause.splitSubstitution mark cs).map
        fun cut => position + 1 + byteLength cut.1) := by
  have hafter := (h.getElem?_ascii hmark).2
  have hskip := hafter.skip byteClass_isBlank
  unfold substitutionEnd Clause.splitSubstitution
  cases hdrop : cs.dropWhile Clause.isBlank with
  | nil =>
      rw [hdrop] at hskip
      simp [hskip.getElem?_nil]
  | cons c tail =>
      rw [hdrop] at hskip
      obtain ⟨byte, hbyte, hget, -⟩ := hskip.getElem?_cons
      have hopen : Char.ofUInt8 byte = '\x7b' ↔ c = '\x7b' := by
        simpa using byteClass_open c byte hbyte
      simp only [hget, hopen, byteClass_isSeparator c byte hbyte]
      split
      · rfl
      · rw [nextUnescaped_at h hmark]
        cases hcut : Clause.splitUnescaped mark false cs with
        | none => rfl
        | some cut =>
            obtain ⟨template, rest⟩ := cut
            obtain rfl := Clause.splitUnescaped_eq hcut
            have hslice := hafter.sliceBytes? hafter.add
            simp only [Option.map_some, Option.bind_eq_bind, Option.bind_some, hslice,
              any_bytes byteClass_isSeparator]
            split <;> rfl

end

/-- A block of index characters is one token. -/
theorem tokens_of_isIndexChar {c : Char} (hc : Flags.isIndexChar c = true) (cs : List Char) :
    Flags.tokens (c :: cs) =
      .index (c :: cs.takeWhile Flags.isIndexChar) ::
        Flags.tokens (cs.dropWhile Flags.isIndexChar) := by
  have hliteral : ∀ d ∈ c :: cs.takeWhile Flags.isIndexChar, Flags.isIndexChar d = true := by
    rw [List.forall_mem_cons]
    exact ⟨hc, fun d hd => List.mem_takeWhile_imp hd⟩
  have hrest : ∀ d ∈ (cs.dropWhile Flags.isIndexChar).head?, Flags.isIndexChar d = false := by
    intro d hd
    have := List.head?_dropWhile_not Flags.isIndexChar cs
    rw [Option.mem_def.1 hd] at this
    simpa using this
  have htokens := Flags.tokens_index_append (by simp) hliteral hrest
  rwa [List.cons_append, List.takeWhile_append_dropWhile] at htokens

/-- No character from 128 on can stand in a flag run; its first byte is reported. -/
theorem step_of_not_ascii {c : Char} (hc : 128 ≤ c.toNat) (read : Flags.Partial) :
    read.step (.mark c) = .error (.unrecognized (leadByte c)) := by
  have hletter : Field.ofLetter? c = none := by
    cases hfield : Field.ofLetter? c with
    | none => rfl
    | some field =>
        have hsmall : field.letter.toNat < 128 := by cases field <;> decide
        exact absurd (Field.letter_of_ofLetter? hfield).symm (ne_of_ascii hsmall hc)
  have hmark : ¬(c = 's' ∨ c = 'i' ∨ c = 'm' ∨ c = 'p') := by
    rintro (h | h | h | h) <;> exact ne_of_ascii (by decide) hc h
  have hplus : c ≠ '+' := ne_of_ascii (by decide) hc
  simp only [Flags.Partial.step, hletter, if_neg hmark, if_neg hplus]

/-- A run is read byte by byte as it is read token by token. -/
theorem decodeFrom_at {run rest : List Char} {position : Nat} (h : At run position rest)
    (read : Flags.Partial) :
    decodeFrom run read position = .ok ((Flags.tokens rest).foldlM Flags.Partial.step read) := by
  induction hlength : rest.length using Nat.strongRecOn generalizing rest position read with
  | ind length ih =>
      subst hlength
      rw [decodeFrom]
      cases rest with
      | nil =>
          split
          · rfl
          · rename_i byte hget
            rw [h.getElem?_nil] at hget
            exact absurd hget (by simp)
      | cons c cs =>
          obtain ⟨byte, hbyte, hget, hlead⟩ := h.getElem?_cons
          split
          · rename_i hnone
            rw [hget] at hnone
            exact absurd hnone (by simp)
          · rename_i found hfound
            obtain rfl : byte = found := Option.some.inj (hget.symm.trans hfound)
            simp only [byteClass_isIndexChar c byte hbyte]
            by_cases hindex : Flags.isIndexChar c = true
            · have hnext := (h.getElem?_ascii (isIndexChar_ascii hindex)).2
              have hskip := hnext.skip byteClass_isIndexChar
              have hslice : Text.slice? run position
                  (Text.skip Flags.isIndexChar (bytes run) (position + 1)) =
                    some (c :: cs.takeWhile Flags.isIndexChar) := by
                refine At.slice? ?_ hskip
                rwa [List.cons_append, List.takeWhile_append_dropWhile]
              have hshorter : (cs.dropWhile Flags.isIndexChar).length < (c :: cs).length :=
                Nat.lt_succ_of_le (List.dropWhile_sublist _).length_le
              rw [if_pos hindex, hslice, tokens_of_isIndexChar hindex, List.foldlM_cons]
              simp only
              cases read.step (.index (c :: cs.takeWhile Flags.isIndexChar)) with
              | error cause => rfl
              | ok next => exact ih _ hshorter hskip next rfl
            · have htokens : Flags.tokens (c :: cs) = .mark c :: Flags.tokens cs := by
                simp [Flags.tokens, hindex]
              rw [if_neg hindex, htokens, List.foldlM_cons]
              rcases Nat.lt_or_ge c.toNat 128 with hc | hc
              · obtain ⟨⟨single, hsingle, -, hchar⟩, hnext⟩ := h.getElem?_ascii hc
                obtain rfl : byte = single := Option.some.inj (hget.symm.trans hsingle)
                rw [hchar, if_pos hc]
                cases read.step (.mark c) with
                | error cause => rfl
                | ok next => exact ih _ (Nat.lt_succ_self _) hnext next rfl
              · have hle := le_of_mem_utf8EncodeChar hc hbyte
                rw [if_neg (by omega), step_of_not_ascii hc, hlead]
                rfl

/-- A flag run is decoded from its bytes as it is from its characters. -/
theorem decode_eq (run : List Char) : decode run = .ok (Flags.decode run) := by
  rw [decode, decodeFrom_at (At.start run)]
  rfl

end HistEdit.Cursor
