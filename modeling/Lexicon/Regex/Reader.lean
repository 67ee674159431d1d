import Lexicon.Regex.Bracket
import Lexicon.Regex.Header

/-! Reading a pattern into its tree. The reader keeps the open groups and the open brackets; each
step reads one part, and so passes over at least one character. -/
namespace Lexicon.Regex

/-- A group that is still open, with what was read around it. -/
structure OpenGroup where
  offset : Nat
  kind : GroupKind
  verbose : Bool
  parts : List Tree
  start : Nat
  branches : List Tree
  branchesStart : Nat
  deriving Repr

/-- `parts` is the current branch and `branches` are those before it, both last first; `names` are the
names of groups so far with the places where they were declared. -/
structure Reader where
  tape : Tape
  verbose : Bool
  captures : Nat
  names : List (String × Span)
  parts : List Tree
  start : Nat
  branches : List Tree
  branchesStart : Nat
  groups : List OpenGroup
  bracket : Option (Bracket × List Bracket)
  deriving Repr

namespace Reader

def ofList (verbose : Bool) (pattern : List Char) : Reader :=
  { tape := .ofList pattern, verbose, captures := 0, names := [], parts := [], start := 0
    branches := [], branchesStart := 0, groups := [], bracket := none }

def push (r : Reader) (tree : Tree) (tape : Tape) : Reader :=
  { r with parts := tree :: r.parts, tape }

/-- The current branch, which ends before `stop`. -/
def branch (r : Reader) (stop : Nat) : Tree :=
  Tree.ofParts ⟨r.start, stop⟩ r.parts.reverse

/-- All branches since the innermost group opened. -/
def contents (r : Reader) (stop : Nat) : Tree :=
  match r.branches with
  | [] => r.branch stop
  | branches => .alternation ⟨r.branchesStart, stop⟩ (branches.reverse ++ [r.branch stop])

/-- Starts the next branch behind a bar; the tape stands at the bar. -/
def nextBranch (r : Reader) (t : Tape) : Reader :=
  { r with
    tape := t.next, parts := [], start := t.next.offset
    branches := r.branch t.offset :: r.branches
    branchesStart := if r.branches.isEmpty then r.start else r.branchesStart }

/-- Starts a group whose parenthesis is at `offset`. -/
def openGroup (r : Reader) (offset : Nat) (kind : GroupKind) (verbose : Bool) (t : Tape) : Reader :=
  { r with
    tape := t, verbose, parts := [], start := t.offset, branches := [], branchesStart := 0
    groups := { offset, kind, verbose := r.verbose, parts := r.parts, start := r.start
                branches := r.branches, branchesStart := r.branchesStart } :: r.groups }

/-- Reads what follows an opening parenthesis. -/
def openParenthesis (r : Reader) (t : Tape) : Except Diagnostic Reader :=
  match Header.read r.verbose t with
  | .error e => .error e
  | .ok (.capture, t') =>
    .ok <| { r with captures := r.captures + 1 }.openGroup t.offset (.capture (r.captures + 1)) r.verbose t'
  | .ok (.named name span, t') =>
    match r.names.lookup name with
    | some first => .error ⟨.groupNameDuplicate, span, some first⟩
    | none =>
      .ok <| { r with captures := r.captures + 1, names := (name, span) :: r.names }.openGroup
        t.offset (.named (r.captures + 1) name) r.verbose t'
  | .ok (.plain items, t') =>
    .ok <| r.openGroup t.offset (.plain items) ((items.setting .ignoreBlanks).getD r.verbose) t'
  | .ok (.setFlags items, t') =>
    .ok <| { r with verbose := (items.setting .ignoreBlanks).getD r.verbose }.push
      (.flags ⟨t.offset, t'.offset⟩ items) t'

/-- Ends the innermost group at a closing parenthesis. -/
def closeParenthesis (r : Reader) (t : Tape) : Except Diagnostic Reader :=
  match r.groups with
  | [] => .error (.single .groupUnopened (.single t.offset))
  | g :: groups =>
    let tree := Tree.group ⟨g.offset, t.next.offset⟩ g.kind (r.contents t.offset)
    .ok { r with
      tape := t.next, verbose := g.verbose, parts := tree :: g.parts, start := g.start
      branches := g.branches, branchesStart := g.branchesStart, groups }

/-- Repeats the last part. Flags and nothing cannot be repeated. -/
def repeatLast (r : Reader) (c : Char) (t : Tape) : Except Diagnostic Reader :=
  match r.parts with
  | [] | .flags _ _ :: _ | .empty _ :: _ => .error (.single .repetitionMissing (.point t.offset))
  | last :: parts =>
    match Count.read r.verbose c t with
    | .error e => .error e
    | .ok (count, greedy, t') =>
      .ok { r with
        tape := t'
        parts := .repetition ⟨last.span.start, t'.offset⟩ count greedy last :: parts }

/-- Reads one part outside of brackets; the tape stands at its first character `c`. -/
def part (r : Reader) (c : Char) (t : Tape) : Except Diagnostic Reader :=
  match c with
  | '(' => r.openParenthesis t
  | ')' => r.closeParenthesis t
  | '|' => .ok (r.nextBranch t)
  | '[' => (Bracket.read r.verbose t).map fun (b, t') => { r with bracket := some (b, []), tape := t' }
  | '?' | '*' | '+' | '\x7b' => r.repeatLast c t
  | c => (readPrimitive r.verbose c t).map fun (p, t') => r.push p.toTree t'

/-- Reads one part. At the end of the pattern nothing changes. -/
def step (r : Reader) : Except Diagnostic Reader :=
  match r.bracket with
  | some (b, outer) =>
    (Bracket.step r.verbose b outer r.tape).map fun
      | .inside b outer tape => { r with bracket := some (b, outer), tape }
      | .closed b tape =>
        { r with bracket := none }.push (.bracket ⟨b.span.start, tape.offset⟩ b.negated b.body) tape
  | none =>
    let t := r.tape.skipBlanks r.verbose
    match t.rest with
    | [] => .ok { r with tape := t }
    | c :: _ => r.part c t

/-- What was read, once the pattern has ended: nothing may be open. -/
def finish (r : Reader) : Except Diagnostic Tree :=
  match r.bracket, r.groups with
  | some (b, _), _ => .error (.single .classUnclosed b.span)
  | none, g :: _ => .error (.single .groupUnclosed (.single g.offset))
  | none, [] => .ok (r.contents r.tape.offset)

/-- Takes steps until the pattern is read. -/
def run : (steps : Nat) → Reader → Except Diagnostic Reader
  | 0, r => .ok r
  | steps + 1, r =>
    if r.tape.rest.isEmpty then .ok r
    else match r.step with
      | .error e => .error e
      | .ok r' => run steps r'

end Reader

/-- A pattern that was read: its tree, how many groups capture, and whether it ends inside a
comment. -/
structure Reading where
  tree : Tree
  captures : Nat
  openComment : Bool
  deriving Repr

/-- Reads a pattern. Every step passes over a character, so as many steps as there are characters
are enough. The depth is checked last. -/
def read (verbose : Bool) (pattern : List Char) : Except Diagnostic Reading :=
  match Reader.run pattern.length (.ofList verbose pattern) with
  | .error e => .error e
  | .ok r =>
    match r.finish with
    | .error e => .error e
    | .ok tree =>
      match tree.tooDeep 0 with
      | some span => .error (.single (.nestingLimitExceeded nestingLimit) span)
      | none => .ok ⟨tree, r.captures, r.tape.openComment⟩

end Lexicon.Regex
