import Lexicon.Lexer.Basic

/-! Driving a lexer: one token at a time, as a stream that ends with the first error, or all tokens at
once. Every scan ends because each step, and each token, consumes a character. -/
namespace Lexicon.Lexer
variable {σ κ ν : Type}

/-- Steps until there is something to report. -/
def scan (l : Lexer σ κ ν) (s : σ) : Outcome κ × Lexer σ κ ν × σ :=
  match _stepped : l.step s with
  | (.again, l', s') => l'.scan s'
  | (.done outcome, l', s') => (outcome, l', s')
termination_by l.cursor.rest.length
decreasing_by exact step_again_shorter _stepped

def Outcome.status : Outcome κ → Status
  | .ok (some _) => .running
  | .ok none => .endOfInput
  | .error _ => .failed

/-- The next token, or nothing at the end of the source. After an error the cursor is where the match
failed, so that the next scan starts there again. -/
def nextToken (l : Lexer σ κ ν) (s : σ) : Outcome κ × Lexer σ κ ν × σ :=
  match l.scan s with
  | (outcome, l', s') => (outcome, { l' with status := Outcome.status outcome }, s')

theorem scan_token_shorter {l l' : Lexer σ κ ν} {s s' : σ} {token : κ × TokenId}
    (h : l.scan s = (.ok (some token), l', s')) : l'.cursor.rest.length < l.cursor.rest.length := by
  fun_induction scan l s with
  | case1 l s again s1 stepped ih =>
    exact Nat.lt_trans (ih h) (step_again_shorter stepped)
  | case2 l s outcome l1 s1 stepped =>
    simp only [Prod.mk.injEq] at h
    obtain ⟨rfl, rfl, rfl⟩ := h
    exact step_token_shorter stepped

theorem nextToken_token_shorter {l l' : Lexer σ κ ν} {s s' : σ} {token : κ × TokenId}
    (h : l.nextToken s = (.ok (some token), l', s')) :
    l'.cursor.rest.length < l.cursor.rest.length := by
  unfold nextToken at h
  split at h
  · next scanned =>
    simp only [Prod.mk.injEq] at h
    obtain ⟨rfl, rfl, rfl⟩ := h
    have shorter := scan_token_shorter scanned
    exact shorter

/-- The next item of the stream of tokens, which ends at the end of the source or with the first
error. -/
def next? (l : Lexer σ κ ν) (s : σ) :
    Option (Except ScanError (κ × TokenId)) × Lexer σ κ ν × σ :=
  if l.status = .running then
    match l.nextToken s with
    | (.ok none, l', s') => (none, l', s')
    | (.ok (some token), l', s') => (some (.ok token), l', s')
    | (.error e, l', s') => (some (.error e), l', s')
  else (none, l, s)

/-- All further tokens, or the error that stops the scan. -/
def tokenize (l : Lexer σ κ ν) (s : σ) : Except ScanError (List (Token κ)) × Lexer σ κ ν × σ :=
  match _scanned : l.nextToken s with
  | (.error e, l', s') => (.error e, l', s')
  | (.ok none, l', s') => (.ok [], l', s')
  | (.ok (some (kind, id)), l', s') =>
    let range := (l'.table.range? id).getD default
    let bytes := (l'.table.bytes? id).getD default
    match l'.tokenize s' with
    | (.error e, last, s'') => (.error e, last, s'')
    | (.ok tokens, last, s'') => (.ok (⟨kind, id, range, bytes⟩ :: tokens), last, s'')
termination_by l.cursor.rest.length
decreasing_by exact nextToken_token_shorter _scanned

/-- How many items the stream can still give. -/
def itemBound (l : Lexer σ κ ν) : Nat :=
  if l.status = .running then l.cursor.rest.length + 1 else 0

theorem next?_some_smaller {l l' : Lexer σ κ ν} {s s' : σ}
    {item : Except ScanError (κ × TokenId)} (h : l.next? s = (some item, l', s')) :
    l'.itemBound < l.itemBound := by
  unfold next? at h
  split at h
  · next running =>
    split at h
    · simp at h
    · next scanned =>
      have shorter := nextToken_token_shorter scanned
      simp only [Prod.mk.injEq] at h
      obtain ⟨-, rfl, -⟩ := h
      simp only [itemBound, running, if_true]
      split <;> omega
    · next e l1 s1 scanned =>
      simp only [Prod.mk.injEq] at h
      obtain ⟨-, rfl, -⟩ := h
      have failed : l1.status = .failed := by
        unfold nextToken at scanned
        split at scanned
        next outcome l2 s2 _ =>
        simp only [Prod.mk.injEq] at scanned
        obtain ⟨rfl, rfl, -⟩ := scanned
        rfl
      simp [itemBound, running, failed]
  · simp at h

/-- Everything that the stream still gives. -/
def drain (l : Lexer σ κ ν) (s : σ) :
    List (Except ScanError (κ × TokenId)) × Lexer σ κ ν × σ :=
  match _given : l.next? s with
  | (none, l', s') => ([], l', s')
  | (some item, l', s') =>
    match l'.drain s' with
    | (items, last, s'') => (item :: items, last, s'')
termination_by l.itemBound
decreasing_by exact next?_some_smaller _given

end Lexicon.Lexer
