import Lexicon.Regex.Escape

/-! Bracketed classes. Open brackets form a stack; each holds the members read so far and at most
one operation that waits for its right side. -/
namespace Lexicon.Regex

/-- An open bracket. Members are kept last first. -/
structure Bracket where
  span : Span
  negated : Bool
  pending : Option (ClassOp × ClassTree)
  items : List ClassTree
  itemsSpan : Span
  deriving Repr

namespace Bracket

def push (b : Bracket) (item : ClassTree) : Bracket :=
  let start := if b.items.isEmpty then item.span.start else b.itemsSpan.start
  { b with items := item :: b.items, itemsSpan := ⟨start, item.span.stop⟩ }

/-- All that was read since the bracket opened, as one class. -/
def body (b : Bracket) : ClassTree :=
  let right := ClassTree.ofItems b.itemsSpan b.items.reverse
  match b.pending with
  | none => right
  | some (op, left) => .operation ⟨left.span.start, right.span.stop⟩ op left right

/-- What was read becomes the left side of an operation. -/
def startOperation (b : Bracket) (op : ClassOp) (offset : Nat) : Bracket :=
  { b with pending := some (op, b.body), items := [], itemsSpan := .point offset }

/-- Hyphens right after the opening stand for themselves. -/
def leadingHyphens (verbose : Bool) (start : Nat) : (steps : Nat) → Bracket → Tape →
    Except Diagnostic (Bracket × Tape)
  | 0, b, t => .ok (b, t)
  | steps + 1, b, t =>
    if t.peek? = some '-' then
      let t' := t.nextSpaced verbose
      if t'.rest.isEmpty then .error (.single .classUnclosed (.point start))
      else leadingHyphens verbose start steps (b.push (.literal ⟨.single t.offset, '-', false⟩)) t'
    else .ok (b, t)

/-- Opens a bracket, with a caret for negation, leading hyphens, and a closing bracket that comes
first and so stands for itself. -/
def read (verbose : Bool) (t : Tape) : Except Diagnostic (Bracket × Tape) :=
  let unclosed (t' : Tape) : Except Diagnostic (Bracket × Tape) :=
    .error (.single .classUnclosed ⟨t.offset, t'.offset⟩)
  let t1 := t.nextSpaced verbose
  if t1.rest.isEmpty then unclosed t1
  else
    let negated := t1.peek? = some '^'
    let t2 := if negated then t1.nextSpaced verbose else t1
    if t2.rest.isEmpty then unclosed t2
    else
      let opened : Bracket := ⟨.point t.offset, negated, none, [], .point t2.offset⟩
      match leadingHyphens verbose t.offset t2.rest.length opened t2 with
      | .error e => .error e
      | .ok (b, t3) =>
        if b.items.isEmpty ∧ t3.peek? = some ']' then
          let t4 := t3.nextSpaced verbose
          if t4.rest.isEmpty then unclosed t4
          else
            let b := b.push (.literal ⟨.single t3.offset, ']', false⟩)
            .ok ({ b with span := ⟨t.offset, t4.offset⟩ }, t4)
        else .ok ({ b with span := ⟨t.offset, t3.offset⟩ }, t3)

/-- A class such as `[:alpha:]`; anything else is no such class, and no fault. -/
def posix? (t : Tape) : Option (ClassTree × Tape) :=
  match t.rest with
  | '[' :: ':' :: rest =>
    let negated := rest.head? == some '^'
    let rest := if negated then rest.drop 1 else rest
    let name := rest.takeWhile (· != ':')
    match rest.drop name.length, PosixClass.ofName? (String.ofList name) with
    | ':' :: ']' :: after, some posix =>
      let stop := t.offset + 4 + (if negated then 1 else 0) + name.length
      some (.posix ⟨t.offset, stop⟩ negated posix, ⟨after, stop, t.openComment⟩)
    | _, _ => none
  | _ => none

/-- An end of a range, or a member by itself. -/
def readMember (verbose : Bool) (c : Char) (t : Tape) : Except Diagnostic (Primitive × Tape) :=
  match c with
  | '\\' => Escape.read verbose t
  | c => .ok (.literal ⟨.single t.offset, c, false⟩, t.next)

/-- A member or a range; `unclosed` is the span to blame if the pattern ends. -/
def readItem (verbose : Bool) (unclosed : Span) (c : Char) (t : Tape) :
    Except Diagnostic (ClassTree × Tape) := do
  let (first, t1) ← readMember verbose c t
  let t1 := t1.skipBlanks verbose
  match t1.rest with
  | [] => .error (.single .classUnclosed unclosed)
  | hyphen :: _ =>
    let ahead := t1.peekSpaced? verbose
    if hyphen ≠ '-' ∨ ahead = some ']' ∨ ahead = some '-' then
      return (← first.toClassItem, t1)
    else
      let t2 := t1.nextSpaced verbose
      match t2.rest with
      | [] => .error (.single .classUnclosed unclosed)
      | c2 :: _ =>
        let (last, t3) ← readMember verbose c2 t2
        let span : Span := ⟨first.span.start, last.span.stop⟩
        let low ← first.toRangeEnd
        let high ← last.toRangeEnd
        if low.char ≤ high.char then return (.range span low high, t3)
        else .error (.single .classRangeInvalid span)

/-- An operator is a character written twice. -/
def operator? (t : Tape) : Option ClassOp :=
  match t.rest with
  | '&' :: '&' :: _ => some .intersection
  | '-' :: '-' :: _ => some .difference
  | '~' :: '~' :: _ => some .symmetricDifference
  | _ => none

/-- What one step inside brackets leads to: open brackets, or the end of the outermost one. -/
inductive Progress where
  | inside (bracket : Bracket) (outer : List Bracket) (tape : Tape)
  | closed (bracket : Bracket) (tape : Tape)

/-- Reads one item, operator or bracket inside `b`; `outer` are the brackets around it. -/
def step (verbose : Bool) (b : Bracket) (outer : List Bracket) (tape : Tape) :
    Except Diagnostic Progress :=
  let t := tape.skipBlanks verbose
  match t.rest with
  | [] => .error (.single .classUnclosed b.span)
  | c :: _ =>
    if c = '[' then
      match posix? t with
      | some (item, t') => .ok (.inside (b.push item) outer t')
      | none =>
        match read verbose t with
        | .error e => .error e
        | .ok (inner, t') => .ok (.inside inner (b :: outer) t')
    else if c = ']' then
      let t' := t.next
      match outer with
      | [] => .ok (.closed b t')
      | parent :: outer =>
        .ok (.inside (parent.push (.bracket ⟨b.span.start, t'.offset⟩ b.negated b.body)) outer t')
    else match operator? t with
      | some op =>
        let t' := t.next.next
        .ok (.inside (b.startOperation op t'.offset) outer t')
      | none =>
        match readItem verbose b.span c t with
        | .error e => .error e
        | .ok (item, t') => .ok (.inside (b.push item) outer t')

end Bracket
end Lexicon.Regex
