/-!
White space and the cuts that depend on it. A character is white space exactly when Unicode gives
it the property `White_Space`. Cutting works on lists of characters; every character outside the
cut-off parts keeps its place.
-/

namespace HistEdit.Text

/-- The characters with the Unicode property `White_Space`. -/
def isSpace (c : Char) : Bool :=
  let n := c.toNat
  (9 ≤ n && n ≤ 13) || n == 0x20 || n == 0x85 || n == 0xA0 || n == 0x1680 ||
    (0x2000 ≤ n && n ≤ 0x200A) || n == 0x2028 || n == 0x2029 || n == 0x202F || n == 0x205F ||
    n == 0x3000

def trimEnd (cs : List Char) : List Char :=
  (cs.reverse.dropWhile isSpace).reverse

def trim (cs : List Char) : List Char :=
  trimEnd (cs.dropWhile isSpace)

/-- Drops from the end every character that satisfies `p`. -/
def trimEndWhere (p : Char → Bool) (cs : List Char) : List Char :=
  (cs.reverse.dropWhile p).reverse

/-- Cuts at every character that satisfies `p`; the cut characters are left out, so a text with `n`
of them gives `n + 1` pieces. -/
def splitWhere (p : Char → Bool) : List Char → List (List Char)
  | [] => [[]]
  | c :: cs =>
    match p c, splitWhere p cs with
    | true, pieces => [] :: pieces
    | false, [] => [[c]]
    | false, piece :: pieces => (c :: piece) :: pieces

/-- The maximal runs of characters that are not white space. -/
def words (cs : List Char) : List (List Char) :=
  (splitWhere isSpace cs).filter fun piece => !piece.isEmpty

/-- The text before and after the first `d`. -/
def splitOnce (d : Char) : List Char → Option (List Char × List Char)
  | [] => none
  | c :: cs =>
    if c = d then some ([], cs)
    else (splitOnce d cs).map fun (head, tail) => (c :: head, tail)

theorem splitWhere_ne_nil (p : Char → Bool) (cs : List Char) : splitWhere p cs ≠ [] := by
  cases cs with
  | nil => simp [splitWhere]
  | cons c cs =>
      unfold splitWhere
      split <;> simp

theorem length_splitWhere (p : Char → Bool) (cs : List Char) :
    (splitWhere p cs).length = cs.countP p + 1 := by
  induction cs with
  | nil => rfl
  | cons c cs ih =>
      have hne := splitWhere_ne_nil p cs
      unfold splitWhere
      split
      · rename_i h
        simp [ih, h]
      · rename_i h hnil
        exact absurd hnil hne
      · rename_i h hcons
        rw [hcons] at ih
        simpa [h] using ih

end HistEdit.Text
