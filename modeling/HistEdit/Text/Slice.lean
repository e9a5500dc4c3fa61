import HistEdit.Text.Bytes

/-!
Places in a text, counted in bytes. A text can be cut only between two characters; a cut anywhere
else, or behind the end, gives nothing.
-/

namespace HistEdit.Text

/-- The text between two positions; nothing unless both stand between characters, in this order. -/
def slice? (cs : List Char) (start stop : Nat) : Option (List Char) :=
  match dropBytes start cs, dropBytes stop cs with
  | some rest, some behind =>
    if start ≤ stop then some (rest.take (rest.length - behind.length)) else none
  | _, _ => none

/-- The bytes between two positions; nothing unless these are in order and not behind the end. -/
def sliceBytes? (bytes : List UInt8) (start stop : Nat) : Option (List UInt8) :=
  if start ≤ stop ∧ stop ≤ bytes.length then some ((bytes.take stop).drop start) else none

/-- The first position from `start` on whose byte, as a character, does not satisfy `p`; the end
when there is none. -/
def skip (p : Char → Bool) (bytes : List UInt8) (start : Nat) : Nat :=
  start + ((bytes.drop start).takeWhile fun byte => p (.ofUInt8 byte)).length

def At (text : List Char) (position : Nat) (rest : List Char) : Prop :=
  ∃ before, text = before ++ rest ∧ position = byteLength before

theorem le_skip (p : Char → Bool) (bytes : List UInt8) (start : Nat) :
    start ≤ skip p bytes start :=
  Nat.le_add_right _ _

theorem bytes_append (as bs : List Char) : bytes (as ++ bs) = bytes as ++ bytes bs := by
  simp [bytes]

@[simp] theorem length_bytes (cs : List Char) : (bytes cs).length = byteLength cs := by
  induction cs with
  | nil => rfl
  | cons c cs ih =>
      have hcons : bytes (c :: cs) = String.utf8EncodeChar c ++ bytes cs := by simp [bytes]
      rw [hcons, List.length_append, ih, String.length_utf8EncodeChar, byteLength_cons]

theorem length_le_byteLength (cs : List Char) : cs.length ≤ byteLength cs := by
  induction cs with
  | nil => exact Nat.le_refl 0
  | cons c cs ih =>
      have hpos := c.utf8Size_pos
      simp only [List.length_cons, byteLength_cons]
      omega

theorem dropBytes_byteLength (before rest : List Char) :
    dropBytes (byteLength before) (before ++ rest) = some rest := by
  induction before with
  | nil => simp [dropBytes]
  | cons c cs ih =>
      have hpos := c.utf8Size_pos
      obtain ⟨size, hsize⟩ : ∃ size, byteLength (c :: cs) = size + 1 :=
        ⟨c.utf8Size + byteLength cs - 1, by simp only [byteLength_cons]; omega⟩
      have hle : c.utf8Size ≤ size + 1 := by rw [← hsize, byteLength_cons]; omega
      have hsub : size + 1 - c.utf8Size = byteLength cs := by
        rw [← hsize, byteLength_cons]
        omega
      rw [hsize, List.cons_append, dropBytes, if_pos hle, hsub, ih]

/-- What follows a position is what follows a beginning of that length. -/
theorem dropBytes_eq_some_iff {text rest : List Char} {position : Nat} :
    dropBytes position text = some rest ↔ At text position rest := by
  constructor
  · intro h
    fun_induction dropBytes position text with
    | case1 cs =>
        obtain rfl := Option.some.inj h
        exact ⟨[], rfl, rfl⟩
    | case2 n => exact absurd h (by simp)
    | case3 n c cs hle ih =>
        obtain ⟨before, rfl, hposition⟩ := ih h
        refine ⟨c :: before, rfl, ?_⟩
        rw [byteLength_cons, ← hposition]
        omega
    | case4 n c cs hle => exact absurd h (by simp)
  · rintro ⟨before, rfl, rfl⟩
    exact dropBytes_byteLength before rest

namespace At

variable {text rest : List Char} {position : Nat}

theorem start (text : List Char) : At text 0 text :=
  ⟨[], rfl, rfl⟩

theorem dropBytes (h : At text position rest) : Text.dropBytes position text = some rest :=
  dropBytes_eq_some_iff.2 h

theorem suffix (h : At text position rest) : rest <:+ text := by
  obtain ⟨before, htext, -⟩ := h
  exact ⟨before, htext.symm⟩

/-- The bytes of a text are those before a position and those of the rest. -/
theorem byteLength_eq (h : At text position rest) :
    byteLength text = position + byteLength rest := by
  obtain ⟨before, rfl, rfl⟩ := h
  exact byteLength_append before rest

/-- A position is moved over a beginning of the rest. -/
theorem add {first : List Char} (h : At text position (first ++ rest)) :
    At text (position + byteLength first) rest := by
  obtain ⟨before, rfl, rfl⟩ := h
  exact ⟨before ++ first, by simp, (byteLength_append before first).symm⟩

/-- The text between two positions. -/
theorem slice? {first : List Char} {stop : Nat} (h : At text position (first ++ rest))
    (hstop : At text stop rest) : Text.slice? text position stop = some first := by
  have horder : position ≤ stop := by
    have hstart := h.byteLength_eq
    have hend := hstop.byteLength_eq
    rw [byteLength_append] at hstart
    omega
  simp [Text.slice?, h.dropBytes, hstop.dropBytes, horder]

theorem drop_bytes (h : At text position rest) : (bytes text).drop position = bytes rest := by
  obtain ⟨before, rfl, rfl⟩ := h
  rw [bytes_append, ← length_bytes before, List.drop_left]

/-- The bytes between two positions. -/
theorem sliceBytes? {first : List Char} {stop : Nat} (h : At text position (first ++ rest))
    (hstop : At text stop rest) :
    Text.sliceBytes? (bytes text) position stop = some (bytes first) := by
  have hstart := h.byteLength_eq
  have hend := hstop.byteLength_eq
  rw [byteLength_append] at hstart
  have hstop : stop = position + byteLength first := by omega
  have hrange : position ≤ stop ∧ stop ≤ (bytes text).length := by
    rw [length_bytes]
    omega
  rw [Text.sliceBytes?, if_pos hrange, List.drop_take, h.drop_bytes, bytes_append, hstop,
    Nat.add_sub_cancel_left, ← length_bytes first, List.take_left]

end At

end HistEdit.Text
