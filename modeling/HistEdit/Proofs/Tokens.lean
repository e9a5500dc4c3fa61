import HistEdit.Argument.Type
import HistEdit.Proofs.Text

/-!
Tokens of joined texts. Cutting at every delimiter takes back what putting one between any two
pieces has done, so tokens that are cut short already and hold no delimiter come back as they were.
-/

namespace HistEdit.Text

variable {c d : Char} {cs : List Char}

theorem splitWhere_eq_splitOnP (p : Char → Bool) (cs : List Char) :
    splitWhere p cs = cs.splitOnP p := by
  induction cs with
  | nil => rw [splitWhere, List.splitOnP_nil]
  | cons c cs ih =>
      rw [splitWhere, List.splitOnP_cons_eq_if_modifyHead, ← ih]
      cases hpieces : splitWhere p cs with
      | nil => exact absurd hpieces (splitWhere_ne_nil p cs)
      | cons piece pieces => cases p c <;> rfl

theorem trim_eq_nil_iff : trim cs = [] ↔ ∀ c ∈ cs, isSpace c = true := by
  rw [trim, trimEnd_eq_trimEndWhere, trimEndWhere_eq_rdropWhile, List.rdropWhile_eq_nil_iff]
  constructor
  · intro h c hc
    rw [← List.takeWhile_append_dropWhile (p := isSpace) (l := cs), List.mem_append] at hc
    exact hc.elim (fun htaken => List.mem_takeWhile_imp htaken) (h c)
  · exact fun h c hc => h c ((List.dropWhile_suffix isSpace).subset hc)

theorem trim_eq_self (h : ∀ c ∈ cs, isSpace c = false) : trim cs = cs := by
  have hstart : cs.dropWhile isSpace = cs :=
    List.dropWhile_eq_self_iff.2 fun hlength => by simp [h _ (List.getElem_mem hlength)]
  rw [trim, hstart, trimEnd_eq_trimEndWhere]
  exact trimEndWhere_eq_self fun c hc => h c (List.mem_of_getLast? hc)

theorem isSpace_of_isDigit (h : c.isDigit = true) : isSpace c = false := by
  have hrange : 48 ≤ c.toNat ∧ c.toNat ≤ 57 := by
    simpa [Char.isDigit, UInt32.le_iff_toNat_le] using h
  simp only [isSpace, Bool.or_eq_false_iff, Bool.and_eq_false_iff, decide_eq_false_iff_not,
    beq_eq_false_iff_ne]
  omega

theorem mem_words {word : List Char} (h : word ∈ words cs) : word ≠ [] := by
  simpa using (List.mem_filter.1 h).2

end HistEdit.Text

namespace HistEdit.Argument

open Text (isSpace trim trim_eq_nil_iff)

/-- A delimiter that is white space gives no empty token. -/
theorem ne_empty_of_mem_tokens {delimiter : Char} {text token : String}
    (hdelimiter : isSpace delimiter = true) (h : token ∈ tokens delimiter text) : token ≠ "" := by
  obtain ⟨word, hword, rfl⟩ := List.mem_map.1 h
  rw [tokenize, if_pos hdelimiter] at hword
  simpa using Text.mem_words hword

/-- The tokens of the join of some pieces that hold no delimiter are these pieces, without the
blanks around them. A single piece of blanks is a blank text, which has no tokens. -/
theorem tokenize_intercalate_trim {delimiter : Char} {pieces : List (List Char)}
    (hdelimiter : isSpace delimiter = false) (hblank : pieces.map trim ≠ [[]])
    (hpieces : ∀ piece ∈ pieces, delimiter ∉ piece) :
    tokenize delimiter ([delimiter].intercalate pieces) = pieces.map trim := by
  cases pieces with
  | nil => simp [tokenize, hdelimiter, List.intercalate, trim, Text.trimEnd]
  | cons piece rest =>
      have hshown : (trim ([delimiter].intercalate (piece :: rest))).isEmpty = false := by
        rw [List.isEmpty_eq_false_iff, Ne, trim_eq_nil_iff]
        intro hspaces
        cases rest with
        | nil =>
            rw [List.intercalate_singleton] at hspaces
            exact hblank (congrArg (fun piece => [piece]) (trim_eq_nil_iff.2 hspaces))
        | cons next rest =>
            have hmem : delimiter ∈ [delimiter].intercalate (piece :: next :: rest) := by
              simp [List.intercalate_cons_cons]
            exact Bool.false_ne_true (hdelimiter.symm.trans (hspaces delimiter hmem))
      have hsplit : Text.splitWhere (· == delimiter) ([delimiter].intercalate (piece :: rest)) =
          piece :: rest := by
        rw [Text.splitWhere_eq_splitOnP]
        exact List.splitOn_intercalate delimiter hpieces (List.cons_ne_nil _ _)
      rw [tokenize, hdelimiter, hshown, hsplit]
      rfl

/-- Pieces that hold no delimiter and have no blanks around them are the tokens of their join. -/
theorem tokenize_intercalate {delimiter : Char} {pieces : List (List Char)}
    (hdelimiter : isSpace delimiter = false) (hblank : pieces ≠ [[]])
    (hpieces : ∀ piece ∈ pieces, delimiter ∉ piece ∧ trim piece = piece) :
    tokenize delimiter ([delimiter].intercalate pieces) = pieces := by
  have hsame : pieces.map trim = pieces.map id :=
    List.map_congr_left fun piece hmem => (hpieces piece hmem).2
  have htrimmed : pieces.map trim = pieces := hsame.trans (List.map_id pieces)
  rw [tokenize_intercalate_trim hdelimiter (htrimmed.symm ▸ hblank)
    fun piece hmem => (hpieces piece hmem).1, htrimmed]

end HistEdit.Argument

namespace HistEdit.ArgType

/-- Reading a list reads each token that is not empty, and fails at the first one that does not
convert. -/
theorem readList_list {α : Type} (type : ArgType α) (delimiter : Char) (text : String) :
    type.list.readList delimiter text =
      ((Argument.tokens delimiter text).filter fun token => !token.isEmpty).mapM type.read := by
  have hfold (tokens : List String) (values : List α) :
      tokens.foldlM type.list.accumulate values =
        (tokens.mapM type.read).map fun read => values ++ read := by
    induction tokens generalizing values with
    | nil => simp [Except.map, pure, Except.pure]
    | cons token tokens ih =>
        rw [List.foldlM_cons, List.mapM_cons]
        simp only [list]
        cases type.read token with
        | error error => rfl
        | ok value =>
            change tokens.foldlM type.list.accumulate (values ++ [value]) = _
            rw [ih]
            cases tokens.mapM type.read with
            | error error => rfl
            | ok read => exact congrArg Except.ok (List.append_assoc values [value] read)
  rw [readList, hfold]
  cases List.mapM type.read _ <;> rfl

end HistEdit.ArgType
