import Lexicon.Handler
import Lexicon.Proofs.Lexer.Journal
import Lexicon.Regex.Standard

/-! A call that fails leaves the table as it was and the cursor where the failing match starts. Where handlers
and the hook answer alike to the same question, every further call fails in the same way and changes nothing. -/
namespace Lexicon.Registry
variable {σ κ ν : Type}

theorem firing_mem {locations : Regex.Locations} {length index : Nat} {slots : List (Slot σ κ ν)}
    {hit : Hit σ κ ν} (fired : firing locations length index slots = some hit) :
    ∃ slot ∈ slots, slot.definition = hit.definition := by
  induction slots generalizing index with
  | nil => simp [firing] at fired
  | cons slot rest ih =>
    unfold firing at fired
    split at fired
    · simp only [Option.some.injEq] at fired
      exact ⟨slot, List.mem_cons_self, by rw [← fired]⟩
    · obtain ⟨other, member, same⟩ := ih fired
      exact ⟨other, List.mem_cons_of_mem slot member, same⟩

theorem matchStart_mem {r : Registry σ κ ν} {locations : Regex.Locations} {rest : List Char}
    {hit : Hit σ κ ν} (fired : (r.matchStart locations rest).1 = some hit) :
    hit.definition ∈ r.definitions := by
  unfold matchStart at fired
  split at fired
  · simp at fired
  · obtain ⟨slot, member, same⟩ := firing_mem fired
    exact List.mem_map.mpr ⟨slot, member, same⟩

/-- What a match writes, and which definition fires, do not depend on what the store held. -/
theorem matchStart_eq (r : Registry σ κ ν) (first second : Regex.Locations) (rest : List Char) :
    r.matchStart first rest = r.matchStart second rest := by
  simp only [matchStart, Regex.findInto]
  cases r.matcher.find rest <;> rfl

end Lexicon.Registry

namespace Lexicon.Lexer
variable {σ κ ν : Type}

/-- Handlers answer by the text and the table alone, and the hook, if there is one, by what it is told: the
shared state does not matter. -/
structure Stateless (l : Lexer σ κ ν) : Prop where
  handlers {d : Definition σ κ ν} {handler : Handler σ κ ν} : d ∈ l.registry.definitions →
    d.role = .dispatch handler → ∀ text table s t, (handler text table s).1 = (handler text table t).1
  hook {hook : Hook σ} : l.hook = some hook → ∀ u s t, (hook u s).1 = (hook u t).1

theorem hit?_mem {l m : Lexer σ κ ν} {hit : Hit σ κ ν} (found : l.hit? = (some hit, m)) :
    hit.definition ∈ l.registry.definitions := by
  have fired : ((l.registry.matchStart l.locations l.cursor.rest).1.filter (0 < ·.length)) = some hit :=
    congrArg Prod.fst found
  exact Registry.matchStart_mem (Option.filter_eq_some_iff.mp fired).1

/-- Asked again, the matcher says the same, and writes the same. -/
theorem hit?_again {l m : Lexer σ κ ν} {hit : Option (Hit σ κ ν)} (found : l.hit? = (hit, m))
    (status : Status) : { m with status }.hit? = (hit, { m with status }) := by
  have written : (l.registry.matchStart l.locations l.cursor.rest).2 = m.locations :=
    congrArg (·.2.locations) found
  have fired : (l.registry.matchStart l.locations l.cursor.rest).1.filter (0 < ·.length) = hit :=
    congrArg Prod.fst found
  obtain ⟨locations, rfl⟩ := hit?_eq found
  have repeated := l.registry.matchStart_eq locations l.locations l.cursor.rest
  simp only [hit?, repeated, fired, written]

theorem Computes.again {l : Lexer σ κ ν} {s s' : σ} {d : Definition σ κ ν} {count : Nat} {kind : κ}
    {value : Value ν} (stateless : l.Stateless) (member : d ∈ l.registry.definitions)
    (computed : l.Computes count s d.role kind value s') (t : σ) :
    ∃ t', l.Computes count t d.role kind value t' := by
  generalize dispatches : d.role = role at computed
  cases computed with
  | token => exact ⟨t, .token⟩
  | @dispatch handler _ _ _ answer =>
    have alike := stateless.handlers member dispatches (l.lexeme count) l.table t s
    rcases repeated : handler (l.lexeme count) l.table t with ⟨reply, t'⟩
    rw [answer, repeated] at alike
    exact ⟨t', .dispatch (repeated.trans (congrArg (·, t') alike))⟩

/-- Where a scan failed, it fails again. -/
theorem Fails.again {l m : Lexer σ κ ν} {s s' : σ} {e : ScanError} (fails : Fails l s e m s')
    (stateless : l.Stateless) (status : Status) (t : σ) :
    ∃ t', Fails { m with status } t e { m with status } t' := by
  obtain ⟨outcome, found⟩ := fails.hit
  obtain ⟨locations, rfl⟩ := hit?_eq found
  cases fails with
  | unmatched missing unhooked => exact ⟨t, .unmatched (hit?_again missing status) unhooked⟩
  | @refused _ _ _ hook missing hooked answer =>
    have alike := stateless.hook hooked l.unmatched t s
    rcases repeated : hook l.unmatched t with ⟨recovery, t'⟩
    rw [answer, repeated] at alike
    exact ⟨t', .refused (hit?_again missing status) hooked (repeated.trans (congrArg (·, t') alike))⟩
  | @handler _ _ _ hit handler _ found dispatches answer =>
    have alike := stateless.handlers (hit?_mem found) dispatches (l.lexeme hit.length) l.table t s
    rcases repeated : handler (l.lexeme hit.length) l.table t with ⟨reply, t'⟩
    rw [answer, repeated] at alike
    exact ⟨t', .handler (hit?_again found status) dispatches (repeated.trans (congrArg (·, t') alike))⟩
  | dangling found computed unknown =>
    obtain ⟨t', computed⟩ := computed.again stateless (hit?_mem found) t
    exact ⟨t', .dangling (hit?_again found status) (computed.transfer rfl rfl) unknown⟩
  | full found computed known refused =>
    obtain ⟨t', computed⟩ := computed.again stateless (hit?_mem found) t
    exact ⟨t', .full (hit?_again found status) (computed.transfer rfl rfl) known refused⟩

/-- Passing over text changes neither the definitions nor the hook nor the table. -/
theorem Passes.frame {l l' : Lexer σ κ ν} {s s' : σ} (passes : Passes l s l' s') :
    l'.registry = l.registry ∧ l'.hook = l.hook ∧ l'.table = l.table := by
  cases passes with
  | skip left found skips =>
    obtain ⟨locations, rfl⟩ := hit?_eq found
    exact ⟨rfl, rfl, rfl⟩
  | giveUp left missing hooked answer =>
    obtain ⟨locations, rfl⟩ := hit?_eq missing
    exact ⟨rfl, rfl, rfl⟩

theorem Passing.frame {l l' : Lexer σ κ ν} {s s' : σ} (passing : Passing l s l' s') :
    l'.registry = l.registry ∧ l'.hook = l.hook ∧ l'.table = l.table := by
  induction passing with
  | refl => exact ⟨rfl, rfl, rfl⟩
  | step first _ ih =>
    obtain ⟨registry, hook, table⟩ := first.frame
    exact ⟨ih.1.trans registry, ih.2.1.trans hook, ih.2.2.trans table⟩

/-- Definitions and hook stay what they are. -/
theorem kept_frame (r : Registry σ κ ν) (hook : Option (Hook σ)) :
    Kept fun l : Lexer σ κ ν => l.registry = r ∧ l.hook = hook where
  passes := by
    intro l l' s s' passes same
    obtain ⟨registry, hook, -⟩ := passes.frame
    exact ⟨registry.trans same.1, hook.trans same.2⟩
  ends := by
    intro l l' s s' outcome ends same
    cases ends with
    | endOfInput => exact same
    | error left fails =>
      obtain ⟨hit, found⟩ := fails.hit
      obtain ⟨locations, rfl⟩ := hit?_eq found
      exact same
    | token left found computed known stored =>
      obtain ⟨locations, rfl⟩ := hit?_eq found
      exact same
  status := id

theorem Stateless.transfer {l m : Lexer σ κ ν} (stateless : l.Stateless) (registry : m.registry = l.registry)
    (hook : m.hook = l.hook) : m.Stateless where
  handlers := fun member => stateless.handlers (registry ▸ member)
  hook := fun hooked => stateless.hook (hook ▸ hooked)

theorem scan_of_done {l l' : Lexer σ κ ν} {s s' : σ} {outcome : Outcome κ}
    (stepped : l.step s = (.done outcome, l', s')) : l.scan s = (outcome, l', s') := by
  rw [scan]
  split
  · next again => simp [again] at stepped
  · next done => simpa [done] using stepped

theorem scan_of_again {l m : Lexer σ κ ν} {s t : σ} (stepped : l.step s = (.again, m, t)) :
    l.scan s = m.scan t := by
  rw [scan]
  split
  · next again =>
    rw [stepped, Prod.mk.injEq, Prod.mk.injEq] at again
    obtain ⟨-, rfl, rfl⟩ := again
    rfl
  · next done => simp [stepped] at done

/-- Behind text that is passed over, the scan is the same. -/
theorem Passing.scan {l m : Lexer σ κ ν} {s t : σ} (passing : Passing l s m t) : l.scan s = m.scan t := by
  induction passing with
  | refl => rfl
  | step first _ ih => exact (scan_of_again first.step).trans ih

theorem Fails.nextToken {l m : Lexer σ κ ν} {s s' : σ} {e : ScanError} (fails : Fails l s e m s')
    (left : l.remaining ≠ []) : l.nextToken s = (.error e, { m with status := .failed }, s') := by
  simp only [Lexer.nextToken, scan_of_done (fails.step left)]
  rfl

/-- Where every call fails alike and changes nothing, so does any number of calls. -/
theorem run_replicate_error {l : Lexer σ κ ν} {e : ScanError}
    (again : ∀ t, ∃ t', l.nextToken t = (.error e, l, t')) (n : Nat) (t : σ) :
    (l.run t (List.replicate n .nextToken)).1 = List.replicate n (.scanned (.error e)) ∧
      (l.run t (List.replicate n .nextToken)).2.1 = l := by
  induction n generalizing t with
  | zero => exact ⟨rfl, rfl⟩
  | succ n ih =>
    obtain ⟨t', failed⟩ := again t
    obtain ⟨reports, last⟩ := ih t'
    simp only [List.replicate_succ, run, call, failed, reports, last, and_self]

/-- A failing call is atomic: the table is what it was, and the lexer stands before the text that fails, having
consumed nothing but text that is passed over. If neither handlers nor the hook make use of the shared state, then
any number of further calls report the same error and leave the lexer as it is, its journal included. -/
theorem nextToken_error_atomic {l l' : Lexer σ κ ν} {s s' : σ} {e : ScanError}
    (failed : l.nextToken s = (.error e, l', s')) :
    l'.table = l.table ∧ l'.status = .failed ∧ l'.position = e.position ∧ l'.remaining ≠ [] ∧
      (∀ position remaining, e = .unmatched position remaining →
        remaining = String.ofList l'.remaining) ∧
      (∃ m t last, Passing l s m t ∧ m.cursor = l'.cursor ∧ Fails m t e last s') ∧
      (l.Stateless → ∀ (n : Nat) (t : σ),
        (l'.run t (List.replicate n .nextToken)).1 = List.replicate n (.scanned (.error e)) ∧
          (l'.run t (List.replicate n .nextToken)).2.1 = l') := by
  obtain ⟨m, t, last, passing, left, fails, rfl⟩ := nextToken_error failed
  obtain ⟨registry, hook, table⟩ := passing.frame
  obtain ⟨outcome, found⟩ := fails.hit
  have cursor : last.cursor = m.cursor := hit?_cursor found
  have kept : last.table = m.table := congrArg (·.2.table) found.symm
  refine ⟨kept.trans table, rfl, ?_, ?_, ?_, ⟨m, t, last, passing, cursor.symm, fails⟩, ?_⟩
  · exact (congrArg Cursor.position cursor).trans fails.position.symm
  · exact fun consumed => left ((hit?_remaining found).symm.trans consumed)
  · intro position remaining same
    have rest : last.remaining = m.remaining := hit?_remaining found
    change remaining = String.ofList last.remaining
    rw [rest]
    subst same
    cases fails <;> rfl
  · intro stateless
    apply run_replicate_error
    intro u
    obtain ⟨u', repeated⟩ := fails.again (stateless.transfer registry hook) .failed u
    exact ⟨u', repeated.nextToken fun consumed => left ((hit?_remaining found).symm.trans consumed)⟩

/-- Blanks are passed over, and the handler of `x` fails. -/
def failingDefinitions : List (Definition Unit String Int) :=
  [⟨.literal " ", .skip⟩, ⟨.literal "x", .dispatch (.failing (.ofMessage "bad"))⟩]

theorem nextToken_error_atomic_behind_blank :
    ∃ r l', Registry.build failingDefinitions = .ok r ∧
      (ofSource r none [' ', 'x']).nextToken () = (.error (.handler ⟨1, 2⟩ (.ofMessage "bad")), l', ()) ∧
      l'.table = .empty ∧ l'.position = 1 ∧ l'.remaining ≠ [] ∧ (ofSource r none [' ', 'x']).Stateless ∧
      (l'.run () [.nextToken, .nextToken]).2.1 = l' := by
  have scanned : (Registry.build failingDefinitions).toOption.bind
      (fun r => Report.error? (.scanned ((ofSource r none [' ', 'x']).nextToken ()).1)) =
        some (.handler ⟨1, 2⟩ (.ofMessage "bad")) := by decide +kernel
  rcases built : Registry.build failingDefinitions with _ | r
  · rw [built] at scanned
    simp [Except.toOption] at scanned
  · rw [built] at scanned
    have error := call_error (c := .nextToken) rfl scanned
    have stateless : (ofSource r none [' ', 'x']).Stateless := by
      refine ⟨fun member dispatches => ?_, by simp [ofSource]⟩
      have listed := Registry.build_definitions built ▸ member
      simp only [failingDefinitions, List.mem_cons, List.not_mem_nil, or_false] at listed
      rcases listed with rfl | rfl <;> cases dispatches
      exact fun text table s t => rfl
    obtain ⟨table, -, position, left, -, -, again⟩ := nextToken_error_atomic error
    exact ⟨r, _, rfl, error, table, position, left, stateless, (again stateless 2 ()).2⟩

end Lexicon.Lexer
