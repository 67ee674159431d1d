import Lexicon.Regex.Expr

/-! Programs for the search. The code of an expression is one block of instructions that is entered at
its first address and left to one address behind or before it. Of two ways onward the first is
preferred. -/
namespace Lexicon.Regex

inductive Instr where
  | chars (set : CharSet) (next : Nat)
  | look (look : Look) (next : Nat)
  | split (first second : Nat)
  | jump (next : Nat)
  /-- The group takes part in the match. -/
  | mark (group next : Nat)
  | accept
  deriving DecidableEq, Repr

/-- Goes into a body or past it: into it first if `greedy`. -/
def Instr.enter (greedy : Bool) (body past : Nat) : Instr :=
  if greedy then split body past else split past body

namespace Expr

/-- The number of instructions of an expression. -/
def size : Expr → Nat
  | empty | chars _ _ | look _ => 1
  | seq a b => a.size + b.size
  | alt a b => 1 + a.size + b.size
  | capture _ body => body.size + 1
  | loop 0 none _ body => if body.consumes then 1 + body.size else 2 + body.size
  | loop least none _ body => least * body.size + 1
  | loop least (some most) _ body =>
    if most = 0 then 1 else least * body.size + (most - least) * (1 + body.size)

/-- `count` copies of a body of `size` instructions, the last of which goes on at `next`. -/
def copies (body : (base next : Nat) → List Instr) (size : Nat) :
    (count base next : Nat) → List Instr
  | 0, _, _ => []
  | count + 1, base, next =>
    body base (if count = 0 then next else base + size) ++ copies body size count (base + size) next

/-- Up to `count` copies of a body, each of which may be passed over to `next`. -/
def options (body : (base next : Nat) → List Instr) (size : Nat) (greedy : Bool) :
    (count base next : Nat) → List Instr
  | 0, _, _ => []
  | count + 1, base, next =>
    .enter greedy (base + 1) next ::
      (body (base + 1) (if count = 0 then next else base + 1 + size) ++
        options body size greedy count (base + 1 + size) next)

/-- The instructions of an expression at address `base`, which go on at `next`. A loop whose body may
take no character has a second way back, so that one round of nothing is tried. -/
def code : Expr → (base next : Nat) → List Instr
  | empty, _, next => [.jump next]
  | chars set _, _, next => [.chars set next]
  | look l, _, next => [.look l next]
  | seq a b, base, next => a.code base (base + a.size) ++ b.code (base + a.size) next
  | alt a b, base, next =>
    .split (base + 1) (base + 1 + a.size) ::
      (a.code (base + 1) next ++ b.code (base + 1 + a.size) next)
  | capture index body, base, next =>
    body.code base (base + body.size) ++ [.mark index next]
  | loop 0 none greedy body, base, next =>
    if body.consumes then
      .enter greedy (base + 1) next :: body.code (base + 1) base
    else
      .enter greedy (base + 1) next ::
        (body.code (base + 1) (base + 1 + body.size) ++ [.enter greedy (base + 1) next])
  | loop (least + 1) none greedy body, base, next =>
    let last := base + least * body.size
    copies body.code body.size least base last ++
      (body.code last (last + body.size) ++ [.enter greedy last next])
  | loop least (some most) greedy body, base, next =>
    if most = 0 then [.jump next]
    else
      let middle := base + least * body.size
      copies body.code body.size least base (if least < most then middle else next) ++
        options body.code body.size greedy (most - least) middle next

theorem copies_length {body : Nat → Nat → List Instr} {size : Nat}
    (same : ∀ base next, (body base next).length = size) (count base next : Nat) :
    (copies body size count base next).length = count * size := by
  induction count generalizing base with
  | zero => simp [copies]
  | succ count ih => simp [copies, same, ih, Nat.succ_mul, Nat.add_comm]

theorem options_length {body : Nat → Nat → List Instr} {size : Nat} {greedy : Bool}
    (same : ∀ base next, (body base next).length = size) (count base next : Nat) :
    (options body size greedy count base next).length = count * (1 + size) := by
  induction count generalizing base with
  | zero => simp [options]
  | succ count ih => simp [options, same, ih, Nat.succ_mul]; omega

@[simp] theorem size_ofSet (unicode : Bool) (set : CharSet) : (ofSet unicode set).size = 1 := rfl

/-- A block is as long as its size says, wherever it stands. -/
theorem code_length (e : Expr) (base next : Nat) : (e.code base next).length = e.size := by
  induction e generalizing base next with
  | empty | chars | look => rfl
  | seq a b iha ihb => simp [code, size, iha, ihb]
  | alt a b iha ihb => simp [code, size, iha, ihb]; omega
  | capture index body ih => simp [code, size, ih]
  | loop least most greedy body ih =>
    cases most with
    | none =>
      cases least with
      | zero => cases h : body.consumes <;> simp [code, size, ih, h] <;> omega
      | succ least => simp [code, size, ih, copies_length ih, Nat.succ_mul]; omega
    | some most => by_cases h : most = 0 <;> simp [code, size, h, copies_length ih, options_length ih]

/-- The whole program: the expression's block, then the end. -/
def program (e : Expr) : Array Instr :=
  (e.code 0 e.size ++ [Instr.accept]).toArray

end Expr
end Lexicon.Regex
