import DecisionTables.Proofs.Cursor.Expressions
import DecisionTables.Proofs.UnaryTest.Parsing

/-!
# Scanning input entries

The scan of a test sets its cursor back once: to tell an interval from an expression behind an
opening parenthesis it scans a sum, looks for the range symbol, and returns to the parenthesis. It
then scans the same tokens again, so that the cursor ends up further on all the same. The scans of
intervals, tests, lists and entries follow the readers of these, which never go back.
-/

namespace DecisionTables

/-- The text that a lexeme is compared by, if it is no number. -/
def Lexeme.written? : Lexeme → Option String
  | .text value => some value
  | .name value => some value
  | .symbol value => some value.text
  | .integer _ | .double _ => none

namespace Scan

open Grammar

/-- The parts of the scan of a list of tests, behind those that were scanned before. -/
inductive Listing where
  /-- A test comes next. -/
  | further (tests : List UnaryTest)
  /-- No test comes next, unless a comma stands ahead. -/
  | scanned (tests : List UnaryTest)

/-! ## Scans -/

section Scans

variable (tokens : List Token)

/-- Scan an interval. Whatever stands at the cursor opens it. -/
def interval : Scan UnaryTest := do
  let opening ← advance tokens
  let start ← Part.phrase .sum |>.scan tokens
  let _ ← expect tokens .range
  let finish ← Part.phrase .sum |>.scan tokens
  match ← ahead tokens fun token => token.lexeme.closesInterval? with
  | none => reject tokens .expectedIntervalEnd
  | some finishClosed =>
      let _ ← advance tokens
      let startClosed := (opening.bind fun token => token.lexeme.written?) = some "["
      return .interval start finish startClosed finishClosed

/-- Scan a value. The note of the cursor says whether it uses the subject. -/
def value : Scan UnaryTest := do
  note false
  let expression ← Part.phrase .disjunction |>.scan tokens
  return .value expression (← get).asked

/-- Whether the range symbol follows the sum behind the token at the cursor. The cursor is set back
to where it was. -/
def rangeAhead : Scan Bool := do
  let saved := (← get).place
  let _ ← advance tokens
  let _ ← Part.phrase .sum |>.scan tokens
  let found ← standsAt tokens (.symbol .range) 0
  moveTo saved
  return found

def test : Scan UnaryTest := do
  match ← ahead tokens Expression.comparison? with
  | some comparison =>
      let _ ← advance tokens
      let endpoint ← Part.phrase .sum |>.scan tokens
      return .comparison comparison endpoint
  | none =>
      if (← standsAt tokens (.symbol .openBracket) 0) ||
          (← standsAt tokens (.symbol .closeBracket) 0) then
        interval tokens
      else if ← standsAt tokens (.symbol .openParenthesis) 0 then
        if ← rangeAhead tokens then interval tokens else value tokens
      else value tokens

def Listing.scan (tokens : List Token) : Listing → Scan (List UnaryTest)
  | .further tests => do
      let next ← test tokens
      Listing.scanned (tests ++ [next]) |>.scan tokens
  | .scanned tests => do
      if ← standsAt tokens (.symbol .comma) 0 then
        let _ ← advance tokens
        Listing.further tests |>.scan tokens
      else return tests
partial_fixpoint

def testList : Scan (List UnaryTest) :=
  Listing.further [] |>.scan tokens

/-- Scan an entry to the end of the tokens. -/
def entry : Scan UnaryTests := do
  if (← peek tokens 0).isNone ||
      ((← standsAt tokens (.symbol .minus) 0) && (← peek tokens 1).isNone) then
    moveTo (lastPlace tokens)
    return .any
  else if ← opensNegation tokens then
    let _ ← advance tokens
    let _ ← advance tokens
    let tests ← testList tokens
    let _ ← expect tokens .closeParenthesis
    expectEnd tokens
    return .noneOf tests
  else
    let tests ← testList tokens
    expectEnd tokens
    return .oneOf tests

/-- Scan an expression to the end of the tokens. -/
def wholeExpression : Scan Expression := do
  let expression ← Part.phrase .disjunction |>.scan tokens
  expectEnd tokens
  return expression

end Scans

/-! ## Intervals and values -/

variable {tokens front rest : List Token} {cursor : Cursor} {opening : Token}

/-- The tests that are scanned say nothing about the note of the cursor. -/
abbrev Anyhow {α : Type} (_ : α) (_ : Bool) : Prop := True

theorem follows_read (before : cursor.Before tokens front) :
    Follows tokens (Asks cursor.asked) (cursor.place + 1) (Expression.read front)
      (Part.scan tokens (.phrase .disjunction) cursor) :=
  scans_reader tokens front.length (Nat.le_refl _) before

theorem follows_readOperand (before : cursor.Before tokens front) :
    Follows tokens (Asks cursor.asked) (cursor.place + 1) (Expression.readOperand front)
      (Part.scan tokens (.phrase .sum) cursor) := by
  cases front with
  | nil =>
      rw [Part.scan_of_end before]
      exact .rejected (Rejection.names_end _)
  | cons token rest => exact (scans_reader tokens rest.length).levels .sum (Nat.le_refl _) before

theorem follows_readInterval {closed : Bool} (before : cursor.Before tokens (opening :: rest))
    (opens : decide (opening.lexeme.written? = some "[") = closed) :
    Follows tokens Anyhow (cursor.place + 1) (UnaryTest.readInterval closed rest)
      (interval tokens cursor) := by
  rw [interval, bind_of_accepted before.advance_eq, UnaryTest.readInterval]
  refine (follows_readOperand before.tail).closedBy
    fun start middle shorter next beyond behind _ => ?_
  refine (follows_readOperand behind).widen.andThen
    fun finish remaining shorter last further ending _ => ?_
  rw [bind_of_accepted (ending.ahead_eq _)]
  split
  · rename_i finishClosed tail found
    obtain ⟨closing, rfl, closes⟩ := UnaryTest.closing?_eq_some_iff.mp found
    simp only [List.getElem?_cons_zero, Option.bind_some, closes]
    rw [bind_of_accepted ending.advance_eq, ← opens]
    exact .accepted (by simp only at beyond further ⊢; omega) ending.tail trivial
  · rename_i missing
    cases remaining with
    | nil => exact .rejectAt ending _
    | cons token tail =>
        rw [UnaryTest.closing?_cons, Option.map_eq_none_iff] at missing
        simp only [List.getElem?_cons_zero, Option.bind_some, missing]
        exact .rejectAt ending _

theorem follows_readValue (before : cursor.Before tokens front) :
    Follows tokens Anyhow (cursor.place + 1) (UnaryTest.readValue front) (value tokens cursor) := by
  have noted : Cursor.Before { cursor with asked := false } tokens front :=
    ⟨before.inRange, before.front_eq⟩
  rw [UnaryTest.readValue, Reading.map_eq_andThen, value, bind_of_accepted (note_apply false)]
  refine (follows_read noted).andThen fun expression rest shorter next beyond behind asks => ?_
  rw [Asks, Bool.false_or] at asks
  rw [← asks]
  exact .accepted beyond behind trivial

/-! ## Looking ahead -/

/-- Where the cursor stood is where it is set back to. -/
theorem rangeAhead_apply : rangeAhead tokens cursor =
    (advance tokens >>= fun _ => Part.scan tokens (.phrase .sum) >>= fun _ =>
      standsAt tokens (.symbol .range) 0 >>= fun found => moveTo cursor.place >>= fun _ =>
        pure found) cursor := rfl

/-- Whatever is found behind the sum, the cursor is set back to where it was. -/
theorem rangeAhead_eq (before : cursor.Before tokens (opening :: rest)) :
    match UnaryTest.precedesRange rest with
    | .ok found => ∃ asked, rangeAhead tokens cursor = accepted found { cursor with asked }
    | .error rejection =>
        rangeAhead tokens cursor = refused rejection ∧ rejection.Names tokens := by
  rw [rangeAhead_apply, bind_of_accepted before.advance_eq, UnaryTest.precedesRange]
  have sum := follows_readOperand before.tail
  generalize scanned : Part.scan tokens (.phrase .sum) _ = outcome at sum
  generalize Expression.readOperand rest = reading at sum
  cases sum with
  | accepted _ behind _ =>
      rw [bind_of_accepted scanned, bind_of_accepted (behind.standsSymbol_eq _)]
      exact ⟨_, rfl⟩
  | rejected names =>
      rw [bind_of_refused scanned]
      exact ⟨rfl, names⟩

/-- At the end no sum is found, and so nothing behind it. -/
theorem rangeAhead_of_end (before : cursor.Before tokens []) :
    rangeAhead tokens cursor = refused ⟨.expectedValue, none⟩ := by
  rw [rangeAhead_apply, bind_of_accepted before.advance_nil,
    bind_of_refused (Part.scan_of_end before .sum)]

/-! ## Tests -/

theorem follows_readTest (before : cursor.Before tokens front) :
    Follows tokens Anyhow (cursor.place + 1) (UnaryTest.read front) (test tokens cursor) := by
  rw [test, bind_of_accepted (before.ahead_eq _)]
  cases front with
  | nil =>
      simp only [List.getElem?_nil, Option.bind_none]
      rw [bind_of_accepted (before.standsSymbol_eq _), bind_of_accepted (before.standsSymbol_eq _)]
      change Follows tokens _ _ _ ((standsAt tokens _ 0 >>= _) cursor)
      rw [bind_of_accepted (before.standsSymbol_eq _)]
      exact follows_readValue before
  | cons token rest =>
      cases compares : Expression.comparison? token with
      | some comparison =>
          simp only [List.getElem?_cons_zero, Option.bind_some, compares, UnaryTest.read]
          rw [bind_of_accepted before.advance_eq]
          have endpoint := follows_readOperand before.tail
          exact .mono (.widen (endpoint.map fun _ _ _ => trivial)) (Nat.le_succ _)
      | none =>
          simp only [List.getElem?_cons_zero, Option.bind_some, compares, UnaryTest.read]
          rw [bind_of_accepted (before.standsSymbol_eq _),
            bind_of_accepted (before.standsSymbol_eq _)]
          by_cases bracket : token.lexeme = .symbol .openBracket
          · rw [if_pos bracket, afterSymbol?_front bracket]
            exact .widen (follows_readInterval before (by rw [bracket]; rfl))
          by_cases reversed : token.lexeme = .symbol .closeBracket
          · rw [if_neg bracket, if_pos reversed, afterSymbol?_front reversed, Option.isSome_some,
              Bool.or_true, if_pos rfl]
            exact .widen (follows_readInterval before (by rw [reversed]; rfl))
          simp only [bracket, reversed, afterSymbol?, if_false, Option.isSome_none, Bool.or_self,
            Bool.false_eq_true]
          rw [bind_of_accepted (before.standsSymbol_eq _)]
          by_cases parenthesis : token.lexeme = .symbol .openParenthesis
          · rw [if_pos parenthesis, afterSymbol?_front parenthesis]
            change Follows tokens _ _ _ ((rangeAhead tokens >>= _) cursor)
            have looked := rangeAhead_eq before
            cases ahead : UnaryTest.precedesRange rest with
            | error rejection =>
                rw [ahead] at looked
                rw [bind_of_refused looked.1]
                exact .rejected looked.2
            | ok found =>
                rw [ahead] at looked
                obtain ⟨asked, looked⟩ := looked
                have back : Cursor.Before { cursor with asked } tokens (token :: rest) :=
                  ⟨before.inRange, before.front_eq⟩
                rw [bind_of_accepted looked]
                cases found with
                | true => exact .widen (follows_readInterval back (by rw [parenthesis]; rfl))
                | false =>
                    have expression := follows_readValue back
                    exact expression
          · simp only [afterSymbol?, parenthesis, if_false, Option.isSome_none, Bool.false_eq_true]
            exact follows_readValue before

/-! ## Lists of tests -/

theorem Listing.scan_stop {tests : List UnaryTest} (before : cursor.Before tokens front)
    (stops : afterSymbol? .comma front = none) :
    Listing.scan tokens (.scanned tests) cursor = accepted tests cursor := by
  rw [Listing.scan, bind_of_accepted (before.standsSymbol_eq _), stops]
  rfl

theorem Listing.scan_go (tests : List UnaryTest) (before : cursor.Before tokens front)
    (goes : (afterSymbol? .comma front).isSome = true) :
    Listing.scan tokens (.scanned tests) cursor =
      (advance tokens >>= fun _ => Listing.scan tokens (.further tests)) cursor := by
  conv => lhs; rw [Listing.scan, bind_of_accepted (before.standsSymbol_eq _), if_pos goes]

/-- A list of tests follows its reader, behind any tests that were scanned before. -/
theorem follows_readList_append (front : List Token) {cursor : Cursor} (tests : List UnaryTest)
    (before : cursor.Before tokens front) :
    Follows tokens Anyhow (cursor.place + 1) ((UnaryTest.readList front).map (tests ++ ·))
      (Listing.scan tokens (.further tests) cursor) := by
  rw [UnaryTest.readList, Listing.scan]
  have first := follows_readTest before
  generalize scanned : test tokens cursor = outcome at first
  cases read : UnaryTest.read front with
  | rejected rejection =>
      rw [read] at first
      cases first with
      | rejected names =>
          rw [bind_of_refused scanned]
          exact .rejected names
  | accepted further rest shorter =>
      rw [read] at first
      cases first with
      | @accepted _ _ _ next beyond behind _ =>
          rw [bind_of_accepted scanned]
          simp only
          split
          · rename_i missing
            rw [Listing.scan_stop behind missing]
            exact .accepted beyond behind trivial
          · rename_i tail found
            rw [Listing.scan_go _ behind (Option.isSome_of_eq_some found)]
            obtain ⟨comma, rfl, _⟩ := afterSymbol?_eq_some_iff.mp found
            rw [bind_of_accepted behind.advance_eq]
            have others := follows_readList_append tail (tests ++ [further]) behind.tail
            rw [Reading.map_widen_map]
            simp only [List.append_assoc, List.singleton_append] at others ⊢
            exact .mono (.widen others) (Nat.le_trans beyond (Nat.le_add_right _ 2))
termination_by front.length
decreasing_by exact Nat.lt_trans (Nat.lt_succ_self _) shorter

theorem follows_readList (before : cursor.Before tokens front) :
    Follows tokens Anyhow (cursor.place + 1) (UnaryTest.readList front)
      (testList tokens cursor) := by
  have tests := follows_readList_append front [] before
  simp only [List.nil_append] at tests
  rwa [Reading.map_id] at tests

/-! ## Whole lists of tokens -/

/-- Whether a scan comes to what is read from a whole list of tokens. If that is a value, the scan
leaves its cursor at the end. -/
def Finishes {α : Type} (tokens : List Token) (result : Except Rejection α) (outcome : Outcome α) :
    Prop :=
  match result with
  | .ok value => ∃ next, outcome = accepted value next ∧ next.place = tokens.length
  | .error rejection => outcome = refused rejection ∧ rejection.Names tokens

theorem Follows.complete {α β : Type} {bound first : Nat} {suits : α → Bool → Prop}
    {reading : Reading α bound} {scan : Scan α} {image : α → β}
    (follows : Follows tokens suits first reading (scan cursor)) :
    Finishes tokens (reading.complete.map image)
      ((scan >>= fun value => expectEnd tokens >>= fun _ => pure (image value)) cursor) := by
  generalize scanned : scan cursor = outcome at follows
  cases follows with
  | @accepted value rest shorter next beyond behind _ =>
      rw [bind_of_accepted scanned]
      cases rest with
      | nil =>
          rw [bind_of_accepted behind.expectEnd_nil]
          exact ⟨next, rfl, behind.place_eq⟩
      | cons token tail =>
          rw [bind_of_refused behind.expectEnd_cons]
          refine ⟨rfl, fun found same => ?_⟩
          cases same
          exact behind.subset List.mem_cons_self
  | rejected names =>
      rw [bind_of_refused scanned]
      exact ⟨rfl, names⟩

/-- An expression is scanned to the end as it is read. -/
theorem finishes_wholeExpression (before : cursor.Before tokens front) :
    Finishes tokens (Expression.read front).complete (wholeExpression tokens cursor) := by
  have same : (Expression.read front).complete.map (fun expression => expression) =
      (Expression.read front).complete := by
    cases (Expression.read front).complete <;> rfl
  rw [← same]
  exact (follows_read before).complete

/-- The three looks at the front of an entry tell whether it accepts any subject. -/
theorem isAnyEntry_eq (front : List Token) :
    (front[0]?.isNone || ((afterSymbol? .minus front).isSome && front[1]?.isNone)) =
      UnaryTests.isAnyEntry front := by
  match front with
  | [] => rfl
  | [token] =>
      by_cases minus : token.lexeme = .symbol .minus <;>
        simp [UnaryTests.isAnyEntry, afterSymbol?, minus]
  | first :: second :: rest => simp [UnaryTests.isAnyEntry]

/-- An entry is scanned to the end as it is read. -/
theorem finishes_entry (before : cursor.Before tokens front) :
    Finishes tokens (UnaryTests.ofTokens front) (entry tokens cursor) := by
  rw [entry, bind_of_accepted (before.peek_eq 0), bind_of_accepted (before.standsSymbol_eq _),
    bind_of_accepted (before.peek_eq 1), isAnyEntry_eq, UnaryTests.ofTokens]
  cases UnaryTests.isAnyEntry front with
  | true => exact ⟨{ cursor with place := lastPlace tokens }, rfl, lastPlace_eq⟩
  | false =>
      simp only [Bool.false_eq_true, if_false]
      rw [bind_of_accepted (opensNegation_eq before)]
      cases negates : UnaryTests.afterNegation? front with
      | none => exact (follows_readList before).complete
      | some inner =>
          obtain ⟨word, opening, rfl, _, _⟩ := UnaryTests.afterNegation?_eq_some_iff.mp negates
          simp only [Option.isSome_some, if_true]
          rw [bind_of_accepted before.advance_eq, bind_of_accepted before.tail.advance_eq]
          have tests := (follows_readList before.tail.tail).closed .closeParenthesis
          have finishes :
              Finishes tokens (Except.map UnaryTests.noneOf _) _ := tests.complete
          simp only [bind_assoc, pure_bind] at finishes
          exact finishes

end Scan

end DecisionTables
