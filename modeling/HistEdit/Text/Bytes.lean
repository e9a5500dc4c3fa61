/-!
UTF-8 measures of text. Positions are byte offsets, and texts are ordered by their bytes.
-/

namespace HistEdit.Text

def byteLength : List Char → Nat
  | [] => 0
  | c :: cs => c.utf8Size + byteLength cs

/-- The UTF-8 bytes of a text. -/
def bytes (cs : List Char) : List UInt8 :=
  cs.flatMap String.utf8EncodeChar

/-- What follows the first `n` bytes, when the `n`-th byte ends a character. -/
def dropBytes : Nat → List Char → Option (List Char)
  | 0, cs => some cs
  | _ + 1, [] => none
  | n + 1, c :: cs => if c.utf8Size ≤ n + 1 then dropBytes (n + 1 - c.utf8Size) cs else none
termination_by _ cs => cs.length

/-- The first byte of a character, as the character with that number. -/
def leadByte (c : Char) : Char :=
  Char.ofNat (((String.utf8EncodeChar c).headD 0).toNat)

/-- Order by bytes: a proper beginning comes first, otherwise the first difference decides. -/
def bytesLE : List UInt8 → List UInt8 → Bool
  | [], _ => true
  | _ :: _, [] => false
  | a :: as, b :: bs => a < b || (a == b && bytesLE as bs)

/-- Ascending byte order of texts. -/
def le (a b : String) : Bool :=
  bytesLE (bytes a.toList) (bytes b.toList)

@[simp] theorem byteLength_nil : byteLength [] = 0 := rfl

@[simp] theorem byteLength_cons (c : Char) (cs : List Char) :
    byteLength (c :: cs) = c.utf8Size + byteLength cs := rfl

theorem byteLength_append (as bs : List Char) :
    byteLength (as ++ bs) = byteLength as + byteLength bs := by
  induction as with
  | nil => simp
  | cons c cs ih => simp [ih, Nat.add_assoc]

end HistEdit.Text
