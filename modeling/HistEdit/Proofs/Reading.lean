import HistEdit.Expression.Reader
import HistEdit.Proofs.Segment

/-!
Reading as a relation. A text reads as expressions when its segments do, one after the other; the
text inside a block reads as the expressions of the block. Facts about all that can be read are
proved by induction over this relation.
-/

namespace HistEdit.Expression

variable [PatternEngine] {functions : Functions} {resolution : Resolution}

/-- One step of reading: the first expression, then those behind it. -/
theorem readList_eq (functions : Functions) (resolution : Resolution) (cs : List Char) :
    readList functions resolution cs =
      match Segment.next? cs with
      | .error error => .error error
      | .ok none => .ok []
      | .ok (some segment) =>
        match ofSegment functions resolution segment with
        | .error error => .error error
        | .ok expression =>
          (readList functions resolution segment.rest).map (expression :: ·) := by
  rw [readList]
  split
  · rename_i error hnext
    rw [hnext]
  · rename_i hnext
    rw [hnext]
  · rename_i segment hnext
    simp only [hnext, ofSegment]
    split
    · rename_i hbody
      simp only [hbody]
    · rename_i name args hbody
      simp only [hbody]
      cases resolve functions resolution name args with
      | error error => rfl
      | ok effect => rfl
    · rename_i inner hbody
      simp only [hbody]
      cases readList functions resolution inner with
      | error error => rfl
      | ok children => rfl

theorem rule_of_ofSegment {segment : Segment} {expression : Expression}
    (h : ofSegment functions resolution segment = .ok expression) :
    expression.rule = segment.rule := by
  unfold ofSegment at h
  split at h
  · rw [← Except.ok.inj h]
    rfl
  · obtain ⟨effect, -, rfl⟩ := map_eq_ok_iff.1 h
    rfl
  · obtain ⟨children, -, rfl⟩ := map_eq_ok_iff.1 h
    rfl

inductive Reads (functions : Functions) (resolution : Resolution) :
    List Char → List Expression → Prop where
  | done {cs : List Char} (hnext : Segment.next? cs = .ok none) : Reads functions resolution cs []
  | nothing {cs : List Char} {segment : Segment} {later : List Expression}
      (hnext : Segment.next? cs = .ok (some segment)) (hbody : segment.body = .nothing)
      (hlater : Reads functions resolution segment.rest later) :
      Reads functions resolution cs (.leaf segment.rule .none :: later)
  | call {cs : List Char} {segment : Segment} {name args : String} {effect : Effect}
      {later : List Expression}
      (hnext : Segment.next? cs = .ok (some segment)) (hbody : segment.body = .call name args)
      (heffect : resolve functions resolution name args = .ok effect)
      (hlater : Reads functions resolution segment.rest later) :
      Reads functions resolution cs (.leaf segment.rule effect :: later)
  | block {cs inner : List Char} {segment : Segment} {children later : List Expression}
      (hnext : Segment.next? cs = .ok (some segment)) (hbody : segment.body = .block inner)
      (hchildren : Reads functions resolution inner children)
      (hlater : Reads functions resolution segment.rest later) :
      Reads functions resolution cs (.block segment.rule children :: later)

/-- One step of reading, as the relation has it. -/
private theorem Reads.cons {cs : List Char} {segment : Segment} {expression : Expression}
    {later : List Expression} (hnext : Segment.next? cs = .ok (some segment))
    (hexpression : ofSegment functions resolution segment = .ok expression)
    (hinner : ∀ inner children, segment.body = .block inner →
      readList functions resolution inner = .ok children →
      Reads functions resolution inner children)
    (hlater : Reads functions resolution segment.rest later) :
    Reads functions resolution cs (expression :: later) := by
  unfold ofSegment at hexpression
  cases hbody : segment.body with
  | nothing =>
      rw [hbody] at hexpression
      exact Except.ok.inj hexpression ▸ .nothing hnext hbody hlater
  | call name args =>
      rw [hbody] at hexpression
      obtain ⟨effect, heffect, rfl⟩ := map_eq_ok_iff.1 hexpression
      exact .call hnext hbody heffect hlater
  | block inner =>
      rw [hbody] at hexpression
      obtain ⟨children, hread, rfl⟩ := map_eq_ok_iff.1 hexpression
      exact .block hnext hbody (hinner inner children hbody hread) hlater

theorem reads_of_readList {cs : List Char} {expressions : List Expression}
    (h : readList functions resolution cs = .ok expressions) :
    Reads functions resolution cs expressions := by
  induction hlength : cs.length using Nat.strongRecOn generalizing cs expressions with
  | ind length ih =>
      subst hlength
      rw [readList_eq] at h
      split at h
      · exact absurd h (by simp)
      · rename_i hnext
        exact Except.ok.inj h ▸ .done hnext
      · rename_i segment hnext
        obtain ⟨hshorter, hblock⟩ := Segment.next?_shorter hnext
        split at h
        · exact absurd h (by simp)
        · rename_i expression hexpression
          obtain ⟨later, hread, rfl⟩ := map_eq_ok_iff.1 h
          refine .cons hnext hexpression ?_ (ih _ hshorter hread rfl)
          intro inner children hbody hchildren
          exact ih _ (hblock inner hbody) hchildren rfl

theorem readList_of_reads {cs : List Char} {expressions : List Expression}
    (h : Reads functions resolution cs expressions) :
    readList functions resolution cs = .ok expressions := by
  induction h with
  | done hnext => rw [readList_eq, hnext]
  | nothing hnext hbody hlater ih =>
      rw [readList_eq, hnext]
      simp [ofSegment, hbody, ih, Except.map]
  | call hnext hbody heffect hlater ih =>
      rw [readList_eq, hnext]
      simp [ofSegment, hbody, heffect, ih, Except.map]
  | block hnext hbody hchildren hlater ihChildren ih =>
      rw [readList_eq, hnext]
      simp [ofSegment, hbody, ihChildren, ih, Except.map]

end HistEdit.Expression
