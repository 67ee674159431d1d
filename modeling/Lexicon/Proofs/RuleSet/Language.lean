import Lexicon.Proofs.Json.Acceptance
import Lexicon.Proofs.RuleSet.RoundTrip
import Lexicon.RuleSet.Registry

/-! The language of rule files. They are read straight off the text, so that the first fault is found where it is; what
is accepted is still said by the document alone: its rules are those that its items describe. -/
namespace Lexicon
open Json Json.Tape

theorem Json.Tape.expectString_agrees (depth : Nat) (t : Tape) :
    Agrees (fun v text => v = .string text) expectString (value (depth + 1)) t := by
  intro text t'
  simp only [exists_eq_right, value_string]
  unfold expectString
  simp only
  split
  · next ended => simp [ended, fail_ne_ok]
  · next more opened => simp [opened]
  · next unquoted =>
    constructor
    · intro read
      exact absurd read mismatch_ne_ok
    · rintro ⟨⟨more, opened⟩, -⟩
      exact absurd opened (unquoted more)

namespace RuleSet

/-! What a document says. -/

/-- The values of the members with a name, in order. -/
def valuesOf (name : String) (ms : List (String × Json.Value)) : List Json.Value :=
  ms.filterMap fun m => if m.1 = name then some m.2 else none

/-- An optional string, from the values of the members that may set it: there is one at most, a string or null. -/
inductive Sets : List Json.Value → Option String → Prop where
  | absent : Sets [] none
  | null : Sets [.null] none
  | string (text : String) : Sets [.string text] (some text)

/-- Members describe a pattern. Those with other names mean nothing. -/
structure Patterned (ms : List (String × Json.Value)) (p : PatternSpec) : Prop where
  regex : Sets (valuesOf "regex" ms) p.regex
  literal : Sets (valuesOf "literal" ms) p.literal

/-- A value describes a rule: an object whose only member is for its sort. A token has one kind, which is a string. -/
inductive Describes : Json.Value → Rule → Prop where
  | token {ms : List (String × Json.Value)} {kind : String} {p : PatternSpec}
      (named : valuesOf "kind" ms = [.string kind]) (pattern : Patterned ms p) :
      Describes (.object [("token", .object ms)]) (.token kind p)
  | skip {ms : List (String × Json.Value)} {p : PatternSpec} (pattern : Patterned ms p) :
      Describes (.object [("skip", .object ms)]) (.skip p)

theorem Sets.perm {vs ws : List Json.Value} {content : Option String} (sets : Sets vs content) (same : vs.Perm ws) :
    Sets ws content := by
  cases sets with
  | absent => exact same.nil_eq ▸ .absent
  | null => exact same.singleton_eq ▸ .null
  | string text => exact same.singleton_eq ▸ .string text

/-- The order of the members does not matter. -/
theorem Describes.perm {name : String} {ms ns : List (String × Json.Value)} {r : Rule} (same : ms.Perm ns)
    (describes : Describes (.object [(name, .object ms)]) r) : Describes (.object [(name, .object ns)]) r := by
  have values (name : String) : (valuesOf name ms).Perm (valuesOf name ns) := same.filterMap _
  cases describes with
  | token named pattern =>
    have once := values "kind"
    rw [named] at once
    exact .token once.singleton_eq.symm ⟨pattern.regex.perm (values _), pattern.literal.perm (values _)⟩
  | skip pattern => exact .skip ⟨pattern.regex.perm (values _), pattern.literal.perm (values _)⟩

variable {variant : Variant} {old : Option (Option String)} {content known kind : Option String}
  {ms others : List (String × Json.Value)} {p : PatternSpec} {r : Rule} {t t' : Tape}

/-! Patterns. -/

/-- What sets an optional string. -/
def setting : Option String → Json.Value
  | none => .null
  | some text => .string text

theorem setOnce_ok {name : String} {v : Json.Value} :
    setOnce name old v = .ok content ↔ old = none ∧ v = setting content := by
  unfold setOnce
  cases old with
  | some => simp
  | none => cases v <;> cases content <;> simp [setting, eq_comm]

theorem sets_setting {new : Option String} : Sets [setting new] content ↔ content = new := by
  constructor
  · intro sets
    cases new <;> cases sets <;> rfl
  · rintro rfl
    cases content with
    | none => exact .null
    | some text => exact .string text

theorem sets_old : Sets (old.map setting).toList content ↔ content = old.join := by
  cases old with
  | none =>
    constructor
    · intro sets
      cases sets
      rfl
    · rintro rfl
      exact .absent
  | some old => exact sets_setting

/-- A value that comes next sets the string if nothing did before. -/
theorem sets_next (name : String) {v : Json.Value} {vs : List Json.Value} :
    Sets ((old.map setting).toList ++ v :: vs) content ↔
      ∃ new, setOnce name old v = .ok new ∧ Sets (setting new :: vs) content := by
  simp only [setOnce_ok]
  constructor
  · intro sets
    cases old with
    | none =>
      cases sets with
      | null => exact ⟨none, ⟨rfl, rfl⟩, .null⟩
      | string text => exact ⟨some text, ⟨rfl, rfl⟩, .string text⟩
    | some old => cases old <;> cases sets
  · rintro ⟨new, ⟨rfl, rfl⟩, sets⟩
    exact sets

theorem valuesOf_cons (name : String) (m : String × Json.Value) (ms : List (String × Json.Value)) :
    valuesOf name (m :: ms) = if m.1 = name then m.2 :: valuesOf name ms else valuesOf name ms := by
  rw [valuesOf, List.filterMap_cons]
  split <;> simp_all [valuesOf]

/-- The pattern is found among the members, with what was set before. -/
theorem patternOf_ok {regex literal : Option (Option String)} :
    patternOf regex literal ms = .ok p ↔
      Sets ((regex.map setting).toList ++ valuesOf "regex" ms) p.regex ∧
        Sets ((literal.map setting).toList ++ valuesOf "literal" ms) p.literal := by
  induction ms generalizing regex literal with
  | nil =>
    obtain ⟨r, l⟩ := p
    simp only [patternOf, valuesOf, List.filterMap_nil, List.append_nil, sets_old, Except.ok.injEq,
      PatternSpec.mk.injEq, eq_comm]
  | cons m ms ih =>
    obtain ⟨name, v⟩ := m
    simp only [patternOf, valuesOf_cons]
    by_cases isRegex : name = "regex"
    · subst isRegex
      simp only [if_true, String.reduceEq, if_false, sets_next "regex"]
      cases setOnce "regex" regex v with
      | error e => simp
      | ok new => simp [ih]
    · by_cases isLiteral : name = "literal"
      · subst isLiteral
        simp only [if_true, String.reduceEq, if_false, sets_next "literal"]
        cases setOnce "literal" literal v with
        | error e => simp
        | ok new => simp [ih]
      · simp only [isRegex, isLiteral, if_false, ih]

/-- The pattern that members describe is the one found among them. -/
theorem patternOf_patterned : patternOf none none ms = .ok p ↔ Patterned ms p :=
  patternOf_ok.trans ⟨fun ⟨regex, literal⟩ => ⟨regex, literal⟩, fun ⟨regex, literal⟩ => ⟨regex, literal⟩⟩

/-! Members of a rule. -/

/-- The members of a rule of some sort, parted into its kind and the others, where a kind may be known before. A token
has its kind once and as a string; in text to skip, a kind is one of the others. -/
inductive Parted (variant : Variant) :
    Option String → List (String × Json.Value) → Option String → List (String × Json.Value) → Prop where
  | done {known : Option String} : Parted variant known [] known []
  | kind {text : String} {ms others : List (String × Json.Value)} {kind : Option String} (token : variant = .token)
      (rest : Parted variant (some text) ms kind others) :
      Parted variant none (("kind", .string text) :: ms) kind others
  | other {known kind : Option String} {m : String × Json.Value} {ms others : List (String × Json.Value)}
      (notKind : ¬(variant = .token ∧ m.1 = "kind")) (rest : Parted variant known ms kind others) :
      Parted variant known (m :: ms) kind (m :: others)

theorem parted_skip : Parted .skip known ms kind others ↔ kind = known ∧ others = ms := by
  constructor
  · intro parted
    induction parted with
    | done => exact ⟨rfl, rfl⟩
    | kind token => cases token
    | other notKind rest ih => exact ⟨ih.1, congrArg _ ih.2⟩
  · rintro ⟨rfl, rfl⟩
    induction others with
    | nil => exact .done
    | cons m ms ih => exact .other (by simp) ih

theorem parted_token :
    Parted .token known ms kind others ↔
      (known.map Json.Value.string).toList ++ valuesOf "kind" ms = (kind.map Json.Value.string).toList ∧
        others = ms.filter (·.1 ≠ "kind") := by
  constructor
  · intro parted
    induction parted with
    | done => exact ⟨List.append_nil _, rfl⟩
    | kind token rest ih =>
      rw [valuesOf_cons, if_pos rfl, List.filter_cons_of_neg (by simp)]
      exact ih
    | other notKind rest ih =>
      have named := fun same => notKind ⟨rfl, same⟩
      rw [valuesOf_cons, if_neg named, List.filter_cons_of_pos (by simpa using named)]
      exact ⟨ih.1, congrArg _ ih.2⟩
  · rintro ⟨same, rfl⟩
    induction ms generalizing known with
    | nil =>
      have known : known = kind := by cases known <;> cases kind <;> simp_all [valuesOf]
      exact known ▸ .done
    | cons m ms ih =>
      rw [valuesOf_cons] at same
      by_cases named : m.1 = "kind"
      · obtain ⟨name, v⟩ := m
        obtain rfl : name = "kind" := named
        rw [if_pos rfl] at same
        rw [List.filter_cons_of_neg (by simp)]
        cases known with
        | some known => cases kind <;> simp at same
        | none =>
          cases kind with
          | none => simp at same
          | some kind =>
            obtain ⟨rfl, none⟩ := List.cons.inj same
            exact .kind rfl (ih (by rw [none]; rfl))
      · rw [if_neg named] at same
        rw [List.filter_cons_of_pos (by simpa using named)]
        exact .other (fun both => named both.2) (ih same)

theorem valuesOf_filter {name other : String} (distinct : name ≠ other) (ms : List (String × Json.Value)) :
    valuesOf name (ms.filter (·.1 ≠ other)) = valuesOf name ms := by
  induction ms with
  | nil => rfl
  | cons m ms ih =>
    by_cases dropped : m.1 = other
    · rw [List.filter_cons_of_neg (by simpa using dropped), valuesOf_cons, ih, if_neg (dropped ▸ distinct.symm)]
    · rw [List.filter_cons_of_pos (by simpa using dropped), valuesOf_cons, valuesOf_cons, ih]

/-- A kind does not matter to the pattern beside it. -/
theorem patterned_filter : Patterned (ms.filter (·.1 ≠ "kind")) p ↔ Patterned ms p := by
  have regex := valuesOf_filter (show "regex" ≠ "kind" by decide) ms
  have literal := valuesOf_filter (show "literal" ≠ "kind" by decide) ms
  constructor
  · rintro ⟨first, second⟩
    exact ⟨regex ▸ first, literal ▸ second⟩
  · rintro ⟨first, second⟩
    exact ⟨regex ▸ first, literal ▸ second⟩

/-- What is made of parted members is what they describe. -/
theorem assemble_describes :
    (∃ kind others, Parted variant none ms kind others ∧ assemble variant kind others = .ok r) ↔
      Describes (.object [(variant.name, .object ms)]) r := by
  constructor
  · rintro ⟨kind, others, parted, made⟩
    cases variant with
    | skip =>
      obtain ⟨rfl, rfl⟩ := parted_skip.mp parted
      obtain ⟨p, pattern, rfl⟩ := map_ok.mp made
      exact .skip (patternOf_patterned.mp pattern)
    | token =>
      obtain ⟨named, rfl⟩ := parted_token.mp parted
      cases kind with
      | none => simp [assemble] at made
      | some kind =>
        obtain ⟨p, pattern, rfl⟩ := map_ok.mp made
        exact .token named (patterned_filter.mp (patternOf_patterned.mp pattern))
  · intro describes
    generalize sort : variant.name = name at describes
    cases describes with
    | skip pattern =>
      obtain rfl : variant = .skip := by cases variant <;> simp_all [Variant.name]
      exact ⟨none, ms, parted_skip.mpr ⟨rfl, rfl⟩, map_ok.mpr ⟨_, patternOf_patterned.mpr pattern, rfl⟩⟩
    | @token _ kind _ named pattern =>
      obtain rfl : variant = .token := by cases variant <;> simp_all [Variant.name]
      have others := patternOf_patterned.mpr (patterned_filter.mpr pattern)
      exact ⟨some kind, _, parted_token.mpr ⟨named, rfl⟩, map_ok.mpr ⟨_, others, rfl⟩⟩

/-! Rules. -/

theorem fields_succ {first : Bool} {steps : Nat} :
    fields variant first known (steps + 1) t = .ok ((kind, others), t') ↔
      (t.nextKey first = .ok (none, t') ∧ kind = known ∧ others = []) ∨
      ∃ name t1 t2, t.nextKey first = .ok (some name, t1) ∧ t1.colon = .ok t2 ∧
        ((variant = .token ∧ name = "kind") ∧ known = none ∧ (∃ text t3, t2.expectString = .ok (text, t3) ∧
            fields variant false (some text) steps t3 = .ok ((kind, others), t')) ∨
          ¬(variant = .token ∧ name = "kind") ∧ ∃ v t3 rest, value memberDepth t2 = .ok (v, t3) ∧
            fields variant false known steps t3 = .ok ((kind, rest), t') ∧ (name, v) :: rest = others) := by
  rw [fields]
  rcases t.nextKey first with e | ⟨_ | name, t1⟩
  · simp
  · simp [and_comm, eq_comm]
  · by_cases named : variant = .token ∧ name = "kind"
    · obtain ⟨rfl, rfl⟩ := named
      rcases known with _ | known
      · rcases colon : t1.colon with e | t2
        · simp [colon]
        · rcases string : t2.expectString with e | ⟨text, t3⟩ <;> simp [colon, string]
      · simp [fail_ne_ok]
    · rcases colon : t1.colon with e | t2
      · simp [named, colon]
      · rcases one : value memberDepth t2 with e | ⟨v, t3⟩
        · simp [named, colon, one]
        · rcases rest : fields variant false known steps t3 with e | ⟨⟨last, rest⟩, t4⟩
          · simp [named, colon, one, rest]
          · simpa [named, colon, one, rest, and_right_comm] using fun _ _ _ => not_and.mp named

/-- The members of a rule are those of an object, parted. Reading them stops before the closing brace. -/
theorem fields_members {first : Bool} {steps : Nat} :
    (∃ t1, fields variant first known steps t = .ok ((kind, others), t1) ∧ t1.next = t') ↔
      ∃ ms, members (value memberDepth) first steps t = .ok (ms, t') ∧ Parted variant known ms kind others := by
  -- both readers count the same steps; what goes along is the kind that is known so far
  induction steps generalizing first known others t with
  | zero => simp [fields, members, fail_ne_ok]
  | succ steps ih =>
    constructor
    · rintro ⟨last, read, rfl⟩
      rcases fields_succ.mp read with ⟨ended, rfl, rfl⟩ | ⟨name, t1, t2, key, colon, member⟩
      · exact ⟨[], members_succ.mpr (.inl ⟨last, ended, rfl, rfl⟩), .done⟩
      · rcases member with ⟨⟨rfl, rfl⟩, rfl, text, t3, string, rest⟩ | ⟨notKind, v, t3, rest, one, further, rfl⟩
        · obtain ⟨ms, more, parted⟩ := ih.mp ⟨last, rest, rfl⟩
          obtain ⟨v, one, rfl⟩ := (expectString_agrees _ t2 text t3).mp string
          exact ⟨_, members_succ.mpr (.inr ⟨_, t1, t2, _, t3, ms, key, colon, one, more, rfl⟩), .kind rfl parted⟩
        · obtain ⟨ms, more, parted⟩ := ih.mp ⟨last, further, rfl⟩
          exact ⟨_, members_succ.mpr (.inr ⟨name, t1, t2, v, t3, ms, key, colon, one, more, rfl⟩),
            .other notKind parted⟩
    · rintro ⟨ms, read, parted⟩
      rcases members_succ.mp read with ⟨t1, ended, rfl, rfl⟩ | ⟨name, t1, t2, v, t3, rest, key, colon, one, more, rfl⟩
      · cases parted
        exact ⟨t1, fields_succ.mpr (.inl ⟨ended, rfl, rfl⟩), rfl⟩
      · cases parted with
        | kind token parted =>
          obtain ⟨last, further, closed⟩ := ih.mpr ⟨rest, more, parted⟩
          have string := (expectString_agrees _ t2 _ t3).mpr ⟨_, one, rfl⟩
          refine ⟨last, fields_succ.mpr (.inr ⟨_, t1, t2, key, colon, .inl ?_⟩), closed⟩
          exact ⟨⟨token, rfl⟩, rfl, _, t3, string, further⟩
        | other notKind parted =>
          obtain ⟨last, further, closed⟩ := ih.mpr ⟨rest, more, parted⟩
          refine ⟨last, fields_succ.mpr (.inr ⟨name, t1, t2, key, colon, .inr ?_⟩), closed⟩
          exact ⟨notKind, v, t3, _, one, further, rfl⟩

theorem body_ok :
    body variant t = .ok (r, t') ↔ ∃ more, t.skipSpace.rest = '\x7b' :: more ∧ ∃ kind others t1,
      fields variant true none (more.length + 2) t.skipSpace.next = .ok ((kind, others), t1) ∧
        assemble variant kind others = .ok r ∧ t1.next = t' := by
  unfold body
  simp only
  split
  · next ended => simp [ended, fail_ne_ok]
  · next more opened =>
    rw [opened, List.length_cons]
    rcases read : fields variant true none (more.length + 1 + 1) t.skipSpace.next with e | ⟨⟨kind, others⟩, t1⟩
    · simp [read]
    · rcases made : assemble variant kind others with cause | made <;> simp [read, made, fail_ne_ok]
  · next unopened =>
    constructor
    · intro read
      exact absurd read mismatch_ne_ok
    · rintro ⟨more, opened, -⟩
      exact absurd opened (unopened more)

/-- The value of a rule's only member. -/
theorem body_agrees (variant : Variant) (t : Tape) :
    Agrees (fun v r => Describes (.object [(variant.name, v)]) r) (body variant) (value (memberDepth + 1)) t := by
  intro r t'
  rw [body_ok]
  constructor
  · rintro ⟨more, opened, kind, others, t1, read, made, closed⟩
    obtain ⟨ms, members, parted⟩ := fields_members.mp ⟨t1, read, closed⟩
    refine ⟨.object ms, ?_, assemble_describes.mp ⟨kind, others, parted, made⟩⟩
    exact value_object.mpr ⟨more, opened, members⟩
  · rintro ⟨v, read, describes⟩
    obtain ⟨ms, rfl⟩ : ∃ ms, v = .object ms := by
      generalize variant.name = name at describes
      cases describes <;> exact ⟨_, rfl⟩
    obtain ⟨more, opened, members⟩ := value_object.mp read
    obtain ⟨kind, others, parted, made⟩ := assemble_describes.mpr describes
    obtain ⟨t1, read, closed⟩ := fields_members.mpr ⟨ms, members, parted⟩
    exact ⟨more, opened, kind, others, t1, read, made, closed⟩

theorem Variant.ofName?_ok {name : String} : ofName? name = some variant ↔ variant.name = name := by
  constructor
  · intro found
    unfold ofName? at found
    split at found
    · exact Option.some.inj found ▸ rfl
    · exact Option.some.inj found ▸ rfl
    · cases found
  · rintro rfl
    exact variant.ofName?_name

theorem variantName_ok : variantName t = .ok (variant, t') ↔ t.string = .ok (variant.name, t') := by
  unfold variantName
  rcases t.string with e | ⟨name, t1⟩
  · simp
  · simp only [Except.ok.injEq, Prod.mk.injEq, @eq_comm _ name, ← Variant.ofName?_ok]
    cases Variant.ofName? name with
    | none => simp [fail_ne_ok]
    | some given => simp

/-- A rule is an object with one member, which is for its sort. -/
theorem rule_ok : rule t = .ok (r, t') ↔
    (∃ more, t.rest = '\x7b' :: more) ∧ ∃ variant t1 t2 t3, t.next.nextKey true = .ok (some variant.name, t1) ∧
      t1.colon = .ok t2 ∧ body variant t2 = .ok (r, t3) ∧ (∃ more, t3.skipSpace.rest = '\x7d' :: more) ∧
      t' = t3.skipSpace.next := by
  simp only [nextKey_some, ← variantName_ok]
  unfold rule
  split
  · next more quoted => rcases variantName t with e | ⟨variant, t1⟩ <;> simp [quoted, fail_ne_ok]
  · next more opened =>
    simp only [opened]
    split
    · next ended => simp [ended, fail_ne_ok]
    · next _ quoted =>
      rcases named : variantName t.next.skipSpace with e | ⟨variant, t1⟩
      · simp [quoted]
      · rcases colon : t1.colon with e | t2
        · simp [quoted, colon]
        · rcases read : body variant t2 with e | ⟨made, t3⟩
          · simp [quoted, colon, read]
          · simp only [colon, read]
            split
            · next ended => simp [quoted, colon, read, ended, fail_ne_ok]
            · next _ closed => simp [quoted, colon, read, closed, eq_comm]
            · next unclosed => simp [quoted, colon, read, fail_ne_ok, not_exists.mpr unclosed]
    · next _ closed => simp [closed, failAhead_ne_ok]
    · next unquoted _ => simp [failAhead_ne_ok, not_exists.mpr unquoted]
  · next unopened => simp [failAhead_ne_ok, not_exists.mpr unopened]

/-- A rule is an object with one member. -/
theorem rule_agrees (solid : t.skipSpace = t) : Agrees Describes rule (value (memberDepth + 2)) t := by
  intro r t'
  rw [rule_ok]
  constructor
  · rintro ⟨⟨more, opened⟩, variant, t1, t2, t3, key, colon, read, closed, rfl⟩
    obtain ⟨v, one, describes⟩ := (body_agrees variant t2 r t3).mp read
    refine ⟨_, value_object.mpr ⟨more, by rw [solid, opened], ?_⟩, describes⟩
    rw [solid]
    exact members_one.mpr ⟨t1, t2, t3, key, colon, one, closed, rfl⟩
  · rintro ⟨w, read, describes⟩
    obtain ⟨variant, v, rfl⟩ : ∃ variant v, w = .object [(Variant.name variant, v)] := by
      cases describes with
      | token => exact ⟨.token, _, rfl⟩
      | skip => exact ⟨.skip, _, rfl⟩
    obtain ⟨more, opened, members⟩ := value_object.mp read
    rw [solid] at opened members
    obtain ⟨t1, t2, t3, key, colon, one, closed, rfl⟩ := members_one.mp members
    exact ⟨⟨more, opened⟩, variant, t1, t2, t3, key, colon, (body_agrees variant t2 r t3).mpr ⟨v, one, describes⟩,
      closed, rfl⟩

theorem ofText_ok {text : List Char} {v : Json.Value} :
    Json.Value.ofText text = .ok v ↔ ∃ t, value depthLimit (.start text) = .ok (v, t) ∧ t.finish = .ok () := by
  unfold Json.Value.ofText
  rcases value depthLimit (.start text) with e | ⟨v, t⟩
  · simp
  · simp [map_ok, and_comm, Unique.exists_iff]

theorem ofJson_ok {text : String} {rs : RuleSet} :
    ofJson text = .ok rs ↔ ∃ more, (Tape.start text.toList).skipSpace.rest = '[' :: more ∧
      ∃ t, items rule true (more.length + 2) (Tape.start text.toList).skipSpace.next = .ok (rs.rules, t) ∧
        t.finish = .ok () := by
  unfold ofJson
  simp only
  split
  · next ended => simp [ended, fail_ne_ok]
  · next more opened =>
    rw [opened, List.length_cons]
    rcases read : items rule true (more.length + 1 + 1) (Tape.start text.toList).skipSpace.next with e | ⟨rules, t⟩
    · simp [read]
    · obtain ⟨given⟩ := rs
      simp [read, map_ok, and_comm, Unique.exists_iff]
  · next unopened =>
    constructor
    · intro read
      exact absurd read mismatch_ne_ok
    · rintro ⟨more, opened, -⟩
      exact absurd opened (unopened more)

/-- A text is accepted as a rule file exactly if it is a document, and the document an array of objects with one member
each, `token` or `skip`, which describe the rules one by one. In each of these, members that set the pattern occur once
at most, as strings or null, a token has its kind exactly once, as a string, members with other names have no effect,
and the order does not matter. Every other text is reported as a malformed rule file. -/
theorem ofJson_accepts (text : String) :
    (∀ rs, ofJson text = .ok rs ↔
      ∃ items, Json.Value.ofText text.toList = .ok (.array items) ∧ List.Forall₂ Describes items rs.rules) ∧
    (∀ sort ms ns r, ms.Perm ns → Describes (.object [(sort, .object ms)]) r →
      Describes (.object [(sort, .object ns)]) r) ∧
    ((¬∃ items rules, Json.Value.ofText text.toList = .ok (.array items) ∧ List.Forall₂ Describes items rules) →
      ∃ e, ofJson text = .error e ∧ ∀ path, ofRead path (.ok text) = .error (.malformed e)) := by
  have accepts (rs : RuleSet) : ofJson text = .ok rs ↔
      ∃ items, Json.Value.ofText text.toList = .ok (.array items) ∧ List.Forall₂ Describes items rs.rules := by
    rw [ofJson_ok]
    constructor
    · rintro ⟨more, opened, t, read, ended⟩
      obtain ⟨items, document, described⟩ := (Agrees.items (fun _ => rule_agrees) true _ _ _ t).mp read
      exact ⟨items, ofText_ok.mpr ⟨t, value_array.mpr ⟨more, opened, document⟩, ended⟩, described⟩
    · rintro ⟨items, document, described⟩
      obtain ⟨t, read, ended⟩ := ofText_ok.mp document
      obtain ⟨more, opened, reads⟩ := value_array.mp read
      have rules := (Agrees.items (fun _ => rule_agrees) true _ _ _ t).mpr ⟨items, reads, described⟩
      exact ⟨more, opened, t, rules, ended⟩
  refine ⟨accepts, fun _ _ _ _ same describes => describes.perm same, fun other => ?_⟩
  cases read : ofJson text with
  | ok rs =>
    obtain ⟨items, document, described⟩ := (accepts rs).mp read
    exact absurd ⟨items, rs.rules, document, described⟩ other
  | error e => exact ⟨e, rfl, fun path => by simp only [ofRead, read]⟩

end RuleSet
end Lexicon
