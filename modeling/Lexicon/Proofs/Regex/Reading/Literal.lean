import Lexicon.Proofs.Regex.Exact
import Lexicon.Proofs.Regex.Reading.Branches
import Lexicon.Regex

/-! An escaped text is read as its characters, one after the other, and means that they match: no character of it
groups, repeats, switches a flag or opens a comment. -/
namespace Lexicon.Regex

/-- How a character is written where it stands for itself. -/
def spelled (c : Char) : List Char := if isMeta c then ['\\', c] else [c]

theorem escape_toList (text : String) : (escape text).toList = text.toList.flatMap spelled := by
  rw [escape, String.toList_ofList]
  rfl

/-- None of the characters that are escaped introduces anything else behind a backslash. -/
theorem meta_letter {c : Char} (special : isMeta c = true) : c.isDigit = false ∧ ¬(c = 'x' ∨ c = 'u' ∨ c = 'U') ∧
    ¬(c = 'p' ∨ c = 'P') := by
  have each : metaChars.all (fun c => !c.isDigit && !(['x', 'u', 'U', 'p', 'P'].contains c)) = true := by decide +kernel
  have own := List.all_eq_true.mp each c (List.contains_iff_mem.mp special)
  simpa [and_assoc] using own

/-- The trees are literals, and stand for the characters of a text. -/
def Spells (parts : List Tree) (text : List Char) : Prop :=
  List.Forall₂ (fun part c => ∃ l, part = Tree.literal l ∧ l.char = c) parts text

namespace Reader

/-- A reader that has read literals and nothing else. The characters they stand for are told last first, as parts
are. -/
structure Literals (R : Reader) (read : List Char) : Prop where
  parts : Spells R.parts read
  branches : R.branches = []
  groups : R.groups = []
  bracket : R.bracket = none
  captures : R.captures = 0
  verbose : R.verbose = false
  comment : R.tape.openComment = false

variable {R : Reader} {c : Char} {rest read : List Char}

theorem Literals.push (literals : R.Literals read) (l : Literal) {t : Tape} (comment : t.openComment = false) :
    (R.push (.literal l) t).Literals (l.char :: read) where
  parts := .cons ⟨l, rfl, rfl⟩ literals.parts
  branches := literals.branches
  groups := literals.groups
  bracket := literals.bracket
  captures := literals.captures
  verbose := literals.verbose
  comment := comment

theorem next_cons (comment : R.tape.openComment = false) (left : R.tape.rest = c :: rest) :
    R.tape.next = ⟨rest, R.tape.offset + 1, false⟩ := by
  simp [Tape.next, left, comment]

theorem part_literal (plain : isMeta c = false) (t : Tape) :
    R.part c t = .ok (R.push (.literal ⟨.single t.offset, c, false⟩) t.next) := by
  have apart {x : Char} (special : isMeta x = true) : c ≠ x := by
    intro same
    rw [same, special] at plain
    simp at plain
  have primitive : readPrimitive R.verbose c t = .ok (.literal ⟨.single t.offset, c, false⟩, t.next) := by
    unfold readPrimitive
    split
    iterate 4 exact absurd rfl (apart (by decide))
    · rfl
  unfold part
  split
  iterate 8 exact absurd rfl (apart (by decide))
  · rw [primitive]
    rfl

theorem part_escaped (comment : R.tape.openComment = false) (special : isMeta c = true)
    (left : R.tape.rest = '\\' :: c :: rest) : R.part '\\' R.tape =
      .ok (R.push (.literal ⟨⟨R.tape.offset, R.tape.offset + 2⟩, c, false⟩) ⟨rest, R.tape.offset + 2, false⟩) := by
  obtain ⟨noDigit, noHex, noProperty⟩ := meta_letter special
  have behind := next_cons comment left
  have primitive : readPrimitive R.verbose '\\' R.tape =
      .ok (.literal ⟨⟨R.tape.offset, R.tape.offset + 2⟩, c, false⟩, ⟨rest, R.tape.offset + 2, false⟩) := by
    change Escape.read R.verbose R.tape = _
    unfold Escape.read
    rw [behind]
    simp only [noDigit, Bool.false_eq_true, if_false]
    rw [if_neg noHex, if_neg noProperty, Escape.letter, if_pos (by rw [isEscapable, special, Bool.true_or])]
    rfl
  change (readPrimitive R.verbose '\\' R.tape).map _ = _
  rw [primitive]
  rfl

/-- A character that stands for itself is read in one step. -/
theorem Literals.step (literals : R.Literals read) (left : R.tape.rest = spelled c ++ rest) :
    ∃ R', R.step = .ok R' ∧ R'.Literals (c :: read) ∧ R'.tape.rest = rest := by
  cases special : isMeta c with
  | true =>
    have text : R.tape.rest = '\\' :: c :: rest := by rw [left, spelled, if_pos special]; rfl
    rw [step_plain literals.bracket literals.verbose literals.comment text,
      part_escaped literals.comment special text]
    exact ⟨_, rfl, literals.push _ rfl, rfl⟩
  | false =>
    have text : R.tape.rest = c :: rest := by rw [left, spelled, special]; rfl
    rw [step_plain literals.bracket literals.verbose literals.comment text, part_literal special,
      next_cons literals.comment text]
    exact ⟨_, rfl, literals.push _ rfl, rfl⟩

theorem Literals.reaches (literals : R.Literals read) (text : List Char) (left : R.tape.rest = text.flatMap spelled) :
    ∃ last, Reaches R last ∧ last.Literals (text.reverse ++ read) ∧ last.tape.rest = [] := by
  induction text generalizing R read with
  | nil => exact ⟨R, .refl R, literals, left⟩
  | cons c text ih =>
    rw [List.flatMap_cons] at left
    obtain ⟨R', stepped, still, behind⟩ := literals.step left
    obtain ⟨last, reaches, done, ended⟩ := ih still behind
    have more : R.tape.rest ≠ [] := by
      rw [left, spelled]
      cases isMeta c <;> simp
    rw [List.reverse_cons, List.append_assoc]
    exact ⟨last, .step more stepped reaches, done, ended⟩

end Reader

section
variable {parts : List Tree} {text : List Char} (spells : Spells parts text)
include spells

theorem Spells.nesting : Tree.nestingAll parts = 0 := by
  induction spells with
  | nil => rfl
  | cons literal _ ih =>
    obtain ⟨l, rfl, -⟩ := literal
    rw [Tree.nestingAll, ih]
    rfl

theorem Spells.ofParts_nesting (span : Span) : (Tree.ofParts span parts).nesting ≤ 1 := by
  have flat := spells.nesting
  match parts with
  | [] => exact Nat.zero_le 1
  | [part] =>
    rw [Tree.nestingAll, Tree.nestingAll, Nat.max_zero] at flat
    rw [Tree.ofParts, flat]
    exact Nat.zero_le 1
  | _ :: _ :: _ => exact Nat.le_of_eq (congrArg (· + 1) flat)

variable [Engine]

theorem Spells.lowerAll :
    Tree.lowerAll .initial parts = .ok (text.map fun c => .ofSet true (.single c), .initial) := by
  induction spells with
  | nil => rfl
  | cons literal _ ih =>
    obtain ⟨l, rfl, rfl⟩ := literal
    have first : (Tree.literal l).lower .initial = .ok (.ofSet true (.single l.char), .initial) := rfl
    simp only [Tree.lowerAll, first, ih, List.map_cons]

theorem Spells.ofParts_lower (span : Span) :
    (Tree.ofParts span parts).lower .initial = .ok (.exactly text, .initial) := by
  match parts, text, spells with
  | [], _, .nil => rfl
  | [_], _, .cons ⟨l, same, char⟩ .nil =>
    rw [same, ← char]
    rfl
  | first :: second :: others, text, spells =>
    have alone : (text.map fun c => Expr.ofSet true (.single c)).flatMap Expr.parts =
        text.map fun c => Expr.ofSet true (.single c) := by
      rw [List.flatMap_map]
      exact List.flatMap_pure_eq_map _ text
    have lowered : (Tree.concat span (first :: second :: others)).lower .initial =
        .ok (.seqAll (text.map fun c => .ofSet true (.single c)), .initial) := by
      rw [Tree.lower, spells.lowerAll]
    rwa [Expr.seqAll, alone] at lowered

end

section
variable [Engine]

/-- What is read of an escaped text: its characters stand for themselves. -/
structure Piece.Escapes (piece : Piece) (text : List Char) : Prop where
  captures : piece.reading.captures = 0
  comment : piece.reading.openComment = false
  nesting : piece.reading.tree.nesting ≤ 1
  expr : piece.expr = .exactly text

theorem Piece.ofSpelled (text : List Char) :
    ∃ piece : Piece, piece.text = text.flatMap spelled ∧ piece.Escapes text := by
  have start : (Reader.ofList false (text.flatMap spelled)).Literals [] := by
    constructor <;> simp [Reader.ofList, Tape.ofList, Spells]
  obtain ⟨last, reaches, literals, ended⟩ := start.reaches text rfl
  have contents : last.contents last.tape.offset =
      Tree.ofParts ⟨last.start, last.tape.offset⟩ last.parts.reverse := by
    rw [Reader.contents, literals.branches]
    rfl
  have spells : Spells last.parts.reverse text := by
    have read := literals.parts
    rw [List.append_nil] at read
    rwa [Spells, ← List.forall₂_reverse_iff, List.reverse_reverse]
  have flat := spells.ofParts_nesting ⟨last.start, last.tape.offset⟩
  have lowered := spells.ofParts_lower ⟨last.start, last.tape.offset⟩
  rw [← contents] at flat lowered
  have shallow : (last.contents last.tape.offset).tooDeep 0 = none :=
    (Tree.tooDeep_none 0 _).mpr (.inr (by rw [nestingLimit]; omega))
  have ran : (Reader.ofList false (text.flatMap spelled)).runAll = .ok last := by
    rw [reaches.runAll, Reader.runAll, Reader.run_done _ ended]
  exact ⟨⟨_, _, read_of_runAll ran literals.bracket literals.groups shallow, _, _, lowered⟩, rfl,
    ⟨literals.captures, literals.comment, flat, rfl⟩⟩

/-- An escaped text can be read alone. -/
theorem Piece.ofLiteral (text : String) :
    ∃ piece : Piece, piece.text = (escape text).toList ∧ piece.Escapes text.toList := by
  rw [escape_toList]
  exact ofSpelled text.toList

end

end Lexicon.Regex
