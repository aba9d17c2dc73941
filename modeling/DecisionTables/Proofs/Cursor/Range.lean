import DecisionTables.Proofs.Cursor.Tests

/-!
# Cursors stay in range

Wherever its cursor stands, every scan ends. A scan that accepts leaves its cursor further on and
still in the list, so that no loop goes on for ever by standing still, and one that rejects names a
token of the list or its end. Looking ahead behind a parenthesis sets the cursor back, but the scan
of the test that does so leaves it further on all the same. The errors of a text lie in it.
-/

namespace DecisionTables

namespace Scan

open Grammar

variable {α β : Type} {tokens : List Token} {cursor : Cursor}

/-! ## Scans that end -/

/-- Whether an outcome is a value, with the cursor in range and not before a place, or a rejection
of one of some tokens or of the end. -/
def Ends (tokens named : List Token) (first : Nat) (outcome : Outcome α) : Prop :=
  (∃ value next, outcome = accepted value next ∧ first ≤ next.place ∧
    next.place ≤ tokens.length) ∨
  ∃ rejection, outcome = refused rejection ∧ rejection.Names named

/-- Whether a scan ends wherever its cursor stands, and leaves it further on if it accepts. -/
def Advances (tokens : List Token) (scan : Scan α) : Prop :=
  ∀ cursor : Cursor, cursor.place ≤ tokens.length →
    Ends tokens tokens (cursor.place + 1) (scan cursor)

theorem Ends.mono {named others : List Token} {first least : Nat} {outcome : Outcome α}
    (ends : Ends tokens named first outcome) (earlier : least ≤ first) (among : named ⊆ others) :
    Ends tokens others least outcome := by
  rcases ends with ⟨value, next, same, beyond, inRange⟩ | ⟨rejection, same, names⟩
  · exact .inl ⟨value, next, same, Nat.le_trans earlier beyond, inRange⟩
  · exact .inr ⟨rejection, same, fun token found => among (names token found)⟩

theorem Follows.ends {bound first : Nat} {suits : α → Bool → Prop} {reading : Reading α bound}
    {outcome : Outcome α} (follows : Follows tokens suits first reading outcome) :
    Ends tokens tokens first outcome := by
  cases follows with
  | accepted beyond before _ => exact .inl ⟨_, _, rfl, beyond, before.inRange⟩
  | rejected names => exact .inr ⟨_, rfl, names⟩

theorem before_drop (inRange : cursor.place ≤ tokens.length) :
    cursor.Before tokens (tokens.drop cursor.place) :=
  ⟨inRange, rfl⟩

/-! ## Loops -/

/-- Whether a loop adds nothing to a value at a cursor, or rejects what it finds, or adds something
and goes on with its cursor further on. -/
def Round (tokens : List Token) (loop : α → Scan α) (value : α) (cursor : Cursor) : Prop :=
  loop value cursor = accepted value cursor ∨
  (∃ rejection, loop value cursor = refused rejection ∧ rejection.Names tokens) ∨
  ∃ further next, cursor.place < next.place ∧ next.place ≤ tokens.length ∧
    loop value cursor = loop further next

/-- Whether every round of a loop makes progress, and the loop ends. -/
structure Loops (tokens : List Token) (loop : α → Scan α) : Prop where
  rounds : ∀ value (cursor : Cursor), cursor.place ≤ tokens.length → Round tokens loop value cursor
  ends : ∀ value (cursor : Cursor), cursor.place ≤ tokens.length →
    Ends tokens tokens cursor.place (loop value cursor)

section Loops

variable {loop : α → Scan α}

/-- Progress in every round brings a loop to its end. -/
theorem ends_of_rounds
    (rounds : ∀ value (cursor : Cursor), cursor.place ≤ tokens.length →
      Round tokens loop value cursor)
    (value : α) (cursor : Cursor) (inRange : cursor.place ≤ tokens.length) :
    Ends tokens tokens cursor.place (loop value cursor) := by
  obtain same | rejects | ⟨further, next, beyond, within, same⟩ := rounds value cursor inRange
  · exact .inl ⟨value, cursor, same, Nat.le_refl _, inRange⟩
  · exact .inr rejects
  · rw [same]
    exact (ends_of_rounds rounds further next within).mono (Nat.le_of_lt beyond)
      (List.Subset.refl _)
termination_by tokens.length - cursor.place

/-- A round that moves past a token and scans an operand makes progress if the operand does. -/
theorem round_of_operand {token : Token} {rest : List Token} {operand : Scan β} {value : α}
    {extended : β → α} (advances : Advances tokens operand)
    (before : cursor.Before tokens (token :: rest))
    (same : loop value cursor = (advance tokens >>= fun _ => operand >>= fun right =>
      loop (extended right)) cursor) : Round tokens loop value cursor := by
  rw [bind_of_accepted before.advance_eq] at same
  obtain ⟨right, next, scanned, beyond, inRange⟩ | ⟨rejection, scanned, names⟩ :=
    advances _ before.tail.inRange
  · rw [bind_of_accepted scanned] at same
    exact .inr (.inr ⟨extended right, next, Nat.lt_of_lt_of_le (Nat.lt_add_of_pos_right
      Nat.two_pos) beyond, inRange, same⟩)
  · rw [bind_of_refused scanned] at same
    exact .inr (.inl ⟨rejection, same, names⟩)

end Loops

/-! ## The scans of expressions and tests -/

theorem advances_phrase (level : Level) : Advances tokens (Part.scan tokens (.phrase level)) := by
  intro cursor inRange
  have scans := (scans_reader tokens (tokens.drop cursor.place).length).levels level
  exact (scans (Nat.le_succ _) (before_drop inRange)).ends

/-- A call ends wherever the cursor stands, and whatever name is called there. -/
theorem ends_call (called : Token) (word : String) (inRange : cursor.place ≤ tokens.length) :
    Ends tokens (called :: tokens) (cursor.place + 1)
      (Part.scan tokens (.call called word) cursor) := by
  have before := before_drop inRange
  rw [Part.scan]
  cases Function.ofName? word with
  | none =>
      refine .inr ⟨_, rfl, fun token found => ?_⟩
      cases found
      exact List.mem_cons_self
  | some function =>
      cases found : afterSymbol? .openParenthesis (tokens.drop cursor.place) with
      | none =>
          simp only
          rw [bind_of_refused (before.expect_missing found)]
          refine .inr ⟨_, rfl, fun token stands => ?_⟩
          exact List.mem_cons_of_mem _ (before.subset (List.mem_of_mem_head? stands))
      | some rest =>
          obtain ⟨opening, same, opens⟩ := afterSymbol?_eq_some_iff.mp found
          rw [same] at before
          have scans := scans_reader tokens rest.length
          exact (scans.argument (Nat.le_refl _) before opens).ends.mono (Nat.le_refl _)
            (List.subset_cons_self _ _)

/-- Operands are added one after the other, each further on than the last. -/
theorem loops_more (level : Level) :
    Loops tokens fun left => Part.scan tokens (.more level left) := by
  have rounds : ∀ left (cursor : Cursor), cursor.place ≤ tokens.length →
      Round tokens (fun left => Part.scan tokens (.more level left)) left cursor := by
    intro left cursor inRange
    have before := before_drop inRange
    generalize tokens.drop cursor.place = front at before
    cases front with
    | nil => exact .inl (Part.scan_more_stop before rfl)
    | cons token rest =>
        cases found : level.operation? token with
        | none => exact .inl (Part.scan_more_stop before found)
        | some operation =>
            exact round_of_operand (advances_phrase level.tighter) before
              (Part.scan_more_go before found)
  exact ⟨rounds, ends_of_rounds rounds⟩

theorem advances_interval : Advances tokens (interval tokens) := by
  intro cursor inRange
  have before := before_drop inRange
  generalize tokens.drop cursor.place = front at before
  cases front with
  | nil =>
      -- At the end nothing is moved past, and no sum begins there.
      rw [interval, bind_of_accepted before.advance_nil,
        bind_of_refused (Part.scan_of_end before .sum)]
      exact .inr ⟨_, rfl, Rejection.names_end _⟩
  | cons opening rest => exact (follows_readInterval before rfl).ends

theorem advances_test : Advances tokens (test tokens) :=
  fun _ inRange => (follows_readTest (before_drop inRange)).ends

/-- Tests are added one after the other, each further on than the last. -/
theorem loops_scanned : Loops tokens fun tests => Listing.scan tokens (.scanned tests) := by
  have rounds : ∀ tests (cursor : Cursor), cursor.place ≤ tokens.length →
      Round tokens (fun tests => Listing.scan tokens (.scanned tests)) tests cursor := by
    intro tests cursor inRange
    have before := before_drop inRange
    generalize tokens.drop cursor.place = front at before
    cases found : afterSymbol? .comma front with
    | none => exact .inl (Listing.scan_stop before found)
    | some rest =>
        have goes := Listing.scan_go tests before (Option.isSome_of_eq_some found)
        rw [Listing.scan] at goes
        obtain ⟨comma, rfl, _⟩ := afterSymbol?_eq_some_iff.mp found
        exact round_of_operand advances_test before goes
  exact ⟨rounds, ends_of_rounds rounds⟩

theorem advances_testList : Advances tokens (testList tokens) :=
  fun _ inRange => (follows_readList (before_drop inRange)).ends

/-- Looking ahead ends wherever the cursor stands, and leaves it there. -/
theorem rangeAhead_rewinds (inRange : cursor.place ≤ tokens.length) :
    (∃ found next, rangeAhead tokens cursor = accepted found next ∧
      next.place = cursor.place) ∨
    ∃ rejection, rangeAhead tokens cursor = refused rejection ∧ rejection.Names tokens := by
  have before := before_drop inRange
  generalize tokens.drop cursor.place = front at before
  cases front with
  | nil => exact .inr ⟨_, rangeAhead_of_end before, Rejection.names_end _⟩
  | cons opening rest =>
      have looked := rangeAhead_eq before
      split at looked
      · rename_i found _
        obtain ⟨asked, looked⟩ := looked
        exact .inl ⟨found, _, looked, rfl⟩
      · exact .inr ⟨_, looked⟩

/-! ## Errors of a text -/

/-- What makes every syntax error of a text lie in it. -/
structure LocatesErrors (text : String) : Prop where
  tokenizing : ∀ error, tokenize text = .error (.invalid error) → error.LiesIn text
  /-- Whatever a scan of the tokens of the text rejects, wherever it began. -/
  scanning : ∀ tokens rejection, tokenize text = .ok tokens → rejection.Names tokens →
    (SyntaxError.ofRejection text rejection).LiesIn text
  expressions : ∀ error, Expression.parse text = .error (.invalid error) → error.LiesIn text
  entries : ∀ error, UnaryTests.parse text = .error (.invalid error) → error.LiesIn text

theorem before_start (tokens : List Token) : Cursor.Before ⟨0, false⟩ tokens tokens :=
  ⟨Nat.zero_le _, List.drop_zero⟩

theorem Finishes.names {result : Except Rejection α} {outcome : Outcome α}
    (finishes : Finishes tokens result outcome) {rejection : Rejection}
    (rejected : result = .error rejection) : rejection.Names tokens := by
  subst rejected
  exact finishes.2

theorem locatesErrors (text : String) : LocatesErrors text where
  tokenizing := fun _ => SyntaxError.liesIn_of_tokenize
  scanning := fun _ _ => SyntaxError.liesIn_ofRejection
  expressions := by
    intro error invalid
    unfold Expression.parse at invalid
    split at invalid
    · cases invalid
    split at invalid
    · rename_i tokenized
      cases invalid
      exact SyntaxError.liesIn_of_tokenize tokenized
    · rename_i tokens tokenized
      split at invalid
      · cases invalid
      · rename_i rejected
        cases invalid
        exact SyntaxError.liesIn_ofRejection tokenized
          ((finishes_wholeExpression (before_start tokens)).names rejected)
  entries := by
    intro error invalid
    unfold UnaryTests.parse at invalid
    split at invalid
    · rename_i tokenized
      cases invalid
      exact SyntaxError.liesIn_of_tokenize tokenized
    · rename_i tokens tokenized
      split at invalid
      · cases invalid
      · rename_i rejected
        cases invalid
        exact SyntaxError.liesIn_ofRejection tokenized
          ((finishes_entry (before_start tokens)).names rejected)

/-! ## Cursors in range -/

/-- What keeps the cursor of every scan of some tokens in range, and moves it on. -/
structure StaysInRange (tokens : List Token) : Prop where
  /-- Looking ahead finds a token of the list or the mark of the end, wherever the cursor stands. -/
  looks : ∀ offset (cursor : Cursor),
    peek tokens offset cursor = accepted tokens[cursor.place + offset]? cursor
  /-- A step leads past a token, but not past the mark of the end. -/
  steps : ∀ cursor : Cursor, cursor.place ≤ tokens.length →
    ∃ next, advance tokens cursor = accepted tokens[cursor.place]? next ∧
      next.place = min (cursor.place + 1) tokens.length
  phrases : ∀ level, Advances tokens (Part.scan tokens (.phrase level))
  calls : ∀ called word (cursor : Cursor), cursor.place ≤ tokens.length →
    Ends tokens (called :: tokens) (cursor.place + 1)
      (Part.scan tokens (.call called word) cursor)
  operands : ∀ level, Loops tokens fun left => Part.scan tokens (.more level left)
  intervals : Advances tokens (interval tokens)
  tests : Advances tokens (test tokens)
  lists : Advances tokens (testList tokens)
  furtherTests : Loops tokens fun tests => Listing.scan tokens (.scanned tests)
  /-- The sum behind a parenthesis is scanned to its end, and the cursor set back. -/
  rewinds : ∀ cursor : Cursor, cursor.place ≤ tokens.length →
    (∃ found next, rangeAhead tokens cursor = accepted found next ∧
      next.place = cursor.place) ∨
    ∃ rejection, rangeAhead tokens cursor = refused rejection ∧ rejection.Names tokens
  /-- Scans to the end of the tokens have the outcome of reading what stands from the cursor on. -/
  expressions : ∀ cursor : Cursor, cursor.place ≤ tokens.length →
    Finishes tokens (Expression.read (tokens.drop cursor.place)).complete
      (wholeExpression tokens cursor)
  /-- An entry ends where the tokens end, which is further on unless the cursor stood there. -/
  entries : ∀ cursor : Cursor, cursor.place ≤ tokens.length →
    Finishes tokens (UnaryTests.ofTokens (tokens.drop cursor.place)) (entry tokens cursor)

theorem advance_inRange (inRange : cursor.place ≤ tokens.length) :
    ∃ next, advance tokens cursor = accepted tokens[cursor.place]? next ∧
      next.place = min (cursor.place + 1) tokens.length := by
  cases stands : tokens[cursor.place]? with
  | some token =>
      have within := (List.getElem?_eq_some_iff.mp stands).1
      exact ⟨_, advance_of_token stands, (Nat.min_eq_left within).symm⟩
  | none =>
      have beyond := List.getElem?_eq_none_iff.mp stands
      refine ⟨cursor, advance_of_end stands, ?_⟩
      rw [Nat.min_eq_right (Nat.le_succ_of_le beyond)]
      exact Nat.le_antisymm inRange beyond

/-- Every scan ends with its cursor in range, and every syntax error lies in its text. -/
theorem cursor_staysInRange :
    (∀ tokens, StaysInRange tokens) ∧ ∀ text, LocatesErrors text := by
  refine ⟨fun tokens => ?_, locatesErrors⟩
  exact {
    looks := fun offset _ => peek_apply offset
    steps := fun _ => advance_inRange
    phrases := advances_phrase
    calls := fun called word _ => ends_call called word
    operands := loops_more
    intervals := advances_interval
    tests := advances_test
    lists := advances_testList
    furtherTests := loops_scanned
    rewinds := fun _ => rangeAhead_rewinds
    expressions := fun _ inRange => finishes_wholeExpression (before_drop inRange)
    entries := fun _ inRange => finishes_entry (before_drop inRange) }

/-- A parenthesis that is not closed is reported at the end of its text. -/
theorem unclosedParenthesis_liesIn : ∃ error, Expression.parse "(2" = .error (.invalid error) ∧
    error.position = 2 ∧ error.LiesIn "(2" := by
  have invalid : Expression.parse "(2" = .error (.invalid
      ⟨"(2", 2, .expectedSymbol .closeParenthesis, "end of input"⟩) := by cbv
  exact ⟨_, invalid, rfl, (cursor_staysInRange.2 "(2").expressions _ invalid⟩

end Scan

end DecisionTables
