import Lexicon.Pattern
import Lexicon.ValueTable

/-! Ordered definitions, compiled into one matcher. Each definition is a group of the matcher's source;
the first group that takes part in a match tells which definition fired, so that of two definitions
that match at the cursor the earlier one wins. -/
namespace Lexicon

/-- What a handler reports when it fails: a message, and the messages of what caused it. -/
structure Failure where
  message : String
  causes : List String
  deriving DecidableEq, Repr

/-- Computes the kind and the value of a token from the matched text and the tokens before it. It may
read and change a state `σ` that all calls share. -/
abbrev Handler (σ κ ν : Type) := String → ValueTable ν → σ → Except Failure (κ × Value ν) × σ

/-- What happens where a definition matches. -/
inductive Role (σ κ ν : Type) where
  | token (kind : κ)
  | dispatch (handler : Handler σ κ ν)
  | skip

def Role.outline {σ κ ν : Type} (kindOutline : κ → Outline) : Role σ κ ν → Outline
  | token kind => .tuple "Token" [kindOutline kind]
  | dispatch _ => .atom "Dispatch(..)"
  | skip => .atom "Skip"

structure Definition (σ κ ν : Type) where
  pattern : Pattern
  role : Role σ κ ν

def Definition.outline {σ κ ν : Type} (kindOutline : κ → Outline) (d : Definition σ κ ν) : Outline :=
  .record "Definition" [
    .field "pattern" d.pattern.outline, .field "role" (d.role.outline kindOutline)]

/-- A definition and the number of its group in the matcher. -/
structure Slot (σ κ ν : Type) where
  group : Nat
  definition : Definition σ κ ν

/-- Compiled definitions, in order. -/
structure Registry (σ κ ν : Type) where
  slots : List (Slot σ κ ν)
  matcher : Regex

/-- Why definitions do not make a registry. -/
inductive BuildError where
  | empty
  | invalidPattern (error : PatternError)
  deriving DecidableEq, Repr

namespace BuildError

def message : BuildError → String
  | empty => "a registry needs at least one definition"
  | invalidPattern e => e.message

end BuildError

/-- What fired at the cursor: the place of the definition, the definition, and how many characters it
takes. -/
structure Hit (σ κ ν : Type) where
  index : Nat
  definition : Definition σ κ ν
  length : Nat

namespace Registry
variable {σ κ ν : Type}

/-- Numbers the groups of definitions from `next` on; a definition's own groups come after it. -/
def assign (next : Nat) : List (Definition σ κ ν) → List (Slot σ κ ν)
  | [] => []
  | d :: rest => ⟨next, d⟩ :: assign (next + 1 + d.pattern.innerGroups) rest

/-- All patterns as the branches of one alternation at the start of the text, each in a group. -/
def sourceOf (definitions : List (Definition σ κ ν)) : String :=
  "\\A(?:" ++ "|".intercalate (definitions.map fun d => "(" ++ d.pattern.groupSource ++ ")") ++ ")"

def build [Regex.Engine] (definitions : List (Definition σ κ ν)) : Except BuildError (Registry σ κ ν) :=
  if definitions.isEmpty then .error .empty
  else match PatternError.guard (sourceOf definitions) (Regex.compile (sourceOf definitions)) with
    | .error e => .error (.invalidPattern e)
    | .ok matcher => .ok ⟨assign 1 definitions, matcher⟩

def definitions (r : Registry σ κ ν) : List (Definition σ κ ν) := r.slots.map (·.definition)

@[simp] theorem assign_definitions (next : Nat) (definitions : List (Definition σ κ ν)) :
    (assign next definitions).map (·.definition) = definitions := by
  induction definitions generalizing next with
  | nil => rfl
  | cons d rest ih => simp [assign, ih]

theorem build_ok [Regex.Engine] {definitions : List (Definition σ κ ν)} {r : Registry σ κ ν}
    (built : build definitions = .ok r) : definitions ≠ [] ∧
      Regex.compile (sourceOf definitions) = .ok r.matcher ∧ r.slots = assign 1 definitions := by
  unfold build PatternError.guard at built
  split at built
  · simp at built
  · next nonempty =>
    cases compiled : Regex.compile (sourceOf definitions) with
    | error e => simp [compiled] at built
    | ok matcher =>
      simp only [compiled, Except.ok.injEq] at built
      subst built
      exact ⟨by simpa using nonempty, rfl, rfl⟩

theorem build_definitions [Regex.Engine] {definitions : List (Definition σ κ ν)} {r : Registry σ κ ν}
    (built : build definitions = .ok r) : r.definitions = definitions := by
  rw [Registry.definitions, (build_ok built).2.2, assign_definitions]

def size (r : Registry σ κ ν) : Nat := r.slots.length

def isEmpty (r : Registry σ κ ν) : Bool := r.slots.isEmpty

def definition? (r : Registry σ κ ν) (index : Nat) : Option (Definition σ κ ν) :=
  (r.slots[index]?).map (·.definition)

/-- The first slot whose group takes part, counted from `index`. -/
def firing (locations : Regex.Locations) (length : Nat) : (index : Nat) → List (Slot σ κ ν) →
    Option (Hit σ κ ν)
  | _, [] => none
  | index, s :: rest =>
    if locations.contains s.group then some ⟨index, s.definition, length⟩
    else firing locations length (index + 1) rest

/-- The definition that fires at the start of a text. The groups of the match are written to a store that
serves one match after the other. -/
def matchStart (r : Registry σ κ ν) (locations : Regex.Locations) (rest : List Char) :
    Option (Hit σ κ ν) × Regex.Locations :=
  match r.matcher.findInto locations rest with
  | (none, written) => (none, written)
  | (some m, written) => (firing written (m.start + m.length) 0 r.slots, written)

/-- What is put on record when a registry is compiled. -/
def compiledNote (r : Registry σ κ ν) : String :=
  "DEBUG compiled " ++ toString r.size ++ " definitions into a matcher with " ++
    toString r.matcher.captureCount ++ " groups"

def outline (kindOutline : κ → Outline) (r : Registry σ κ ν) : Outline :=
  .record "Registry" [
    .field "definitions" (.list (r.definitions.map (Definition.outline kindOutline))),
    .field "matcher" (.ofText r.matcher.source)]

end Registry
end Lexicon
