import HistEdit.Pattern.Tree

/-!
Patterns as programs of a small matching machine. An instruction takes a character, asks about the
place, remembers the place, or says where to go on; where there are two ways, the first one is tried
first. The code of a tree is laid out from a base address and goes on behind its end.
-/

namespace HistEdit.Pattern

/-- One instruction; addresses are positions in the program. -/
inductive Inst where
  | take (set : CharSet)
  | look (look : Look)
  | save (slot : Nat)
  | jump (target : Nat)
  | fork (first second : Nat)
  | accept

namespace Tree

/-- A fork that prefers the first address exactly when the repetition is greedy. -/
def prefer (greedy : Bool) (inside outside : Nat) : Inst :=
  if greedy then .fork inside outside else .fork outside inside

/-- Code repeated a number of times in a row; `code` lays it out from a base address. -/
def codeTimes (code : Nat → List Inst) (size : Nat) : Nat → Nat → List Inst
  | 0, _ => []
  | n + 1, base => code base ++ codeTimes code size n (base + size)

/-- Up to `n` rounds inside one another; leaving any of them goes to `stop`. -/
def codeUpTo (greedy : Bool) (code : Nat → List Inst) (size stop : Nat) : Nat → Nat → List Inst
  | 0, _ => []
  | n + 1, base =>
    prefer greedy (base + 1) stop :: code (base + 1) ++
      codeUpTo greedy code size stop n (base + 1 + size)

def size : Tree → Nat
  | .empty => 0
  | .chars _ | .look _ => 1
  | .seq a b => a.size + b.size
  | .alt a b => a.size + b.size + 2
  | .group _ body => body.size + 2
  | .iterate body least (some most) _ =>
    least * body.size + (most - least) * (body.size + 1)
  | .iterate body 0 none _ => body.size + 2
  | .iterate body (least + 1) none _ => least * body.size + body.size + 1

/-- The code of a tree from a base address. Repeating any number of times a body that may take
nothing is laid out as an optional run of at least one round, which keeps the order of preference.
-/
def code (base : Nat) : Tree → List Inst
  | .empty => []
  | .chars set => [.take set]
  | .look what => [.look what]
  | .seq a b => a.code base ++ b.code (base + a.size)
  | .alt a b =>
    .fork (base + 1) (base + a.size + 2) :: a.code (base + 1) ++
      .jump (base + a.size + b.size + 2) :: b.code (base + a.size + 2)
  | .group index body => .save (2 * index) :: body.code (base + 1) ++ [.save (2 * index + 1)]
  | .iterate body least (some most) greedy =>
    let start := base + least * body.size
    codeTimes (fun base => body.code base) body.size least base ++
      codeUpTo greedy (fun base => body.code base) body.size
        (start + (most - least) * (body.size + 1)) (most - least) start
  | .iterate body 0 none greedy =>
    let stop := base + body.size + 2
    let loop := if body.minBytes = 0 then prefer greedy (base + 1) stop else .jump base
    prefer greedy (base + 1) stop :: body.code (base + 1) ++ [loop]
  | .iterate body (least + 1) none greedy =>
    let last := base + least * body.size
    codeTimes (fun base => body.code base) body.size (least + 1) base ++
      [prefer greedy last (last + body.size + 1)]

def program (tree : Tree) : Array Inst :=
  (tree.code 0 ++ [Inst.accept]).toArray

end Tree

end HistEdit.Pattern
