import DecisionTables.Proofs.Cursor.Basic
import DecisionTables.Proofs.UnaryTest.Grammar

/-!
# Scanning expressions

The scan of an expression has one part for each level of the grammar, one for the operands that an
operator of a level adds to a left one, and one for the call of a name. The parts go on with one
another in a circle and no measure says that this ends. They do end: each follows the reader of its
level, from wherever the cursor stands.
-/

namespace DecisionTables

namespace Scan

open Grammar Expression

/-! ## Parts -/

/-- The parts of the scan of an expression. -/
inductive Part where
  | phrase (level : Level)
  /-- What adds operands to a left one for as long as an operator of the level stands ahead. -/
  | more (level : Level) (left : Expression)
  /-- A call, which begins behind the name that is called. -/
  | call (called : Token) (word : String)

/-- Whether `not (` stands at the cursor. -/
def opensNegation (tokens : List Token) : Scan Bool :=
  return (← standsAt tokens (.name "not") 0) &&
    (← standsAt tokens (.symbol .openParenthesis) 1)

def Part.scan (tokens : List Token) : Part → Scan Expression
  | .phrase .primary => do
      match ← peek tokens 0 with
      | none => reject tokens .expectedValue
      | some token =>
          match token.lexeme with
          | .integer value =>
              let _ ← advance tokens
              return .literal (.number (.integer value))
          | .double value =>
              let _ ← advance tokens
              return .literal (.number (.double value))
          | .text value =>
              let _ ← advance tokens
              return .literal (.text value)
          | .name word =>
              let _ ← advance tokens
              match constant? word with
              | some value => return .literal value
              | none =>
                  if ← standsAt tokens (.symbol .openParenthesis) 0 then
                    Part.call token word |>.scan tokens
                  else return .name (Path.ofName word)
          | .symbol .subject =>
              let _ ← advance tokens
              note true
              return .subject
          | .symbol .openParenthesis =>
              let _ ← advance tokens
              let inner ← Part.phrase .disjunction |>.scan tokens
              let _ ← expect tokens .closeParenthesis
              return inner
          | _ => reject tokens .expectedValue
  | .phrase .signed => do
      if ← standsAt tokens (.symbol .minus) 0 then
        let _ ← advance tokens
        let operand ← Part.phrase .signed |>.scan tokens
        return operand.negated
      else if ← opensNegation tokens then
        let _ ← advance tokens
        let _ ← advance tokens
        let operand ← Part.phrase .disjunction |>.scan tokens
        let _ ← expect tokens .closeParenthesis
        return .complement operand
      else Part.phrase .primary |>.scan tokens
  | .phrase .comparison => do
      let left ← Part.phrase .sum |>.scan tokens
      match ← ahead tokens comparison? with
      | none => return left
      | some comparison =>
          let _ ← advance tokens
          let right ← Part.phrase .sum |>.scan tokens
          return .compare comparison left right
  | .phrase level => do
      let left ← Part.phrase level.tighter |>.scan tokens
      Part.more level left |>.scan tokens
  | .more level left => do
      match ← ahead tokens level.operation? with
      | none => return left
      | some operation =>
          let _ ← advance tokens
          let right ← Part.phrase level.tighter |>.scan tokens
          Part.more level (operation left right) |>.scan tokens
  | .call called word => do
      match Function.ofName? word with
      | none => throw (.rejected ⟨.unknownFunction word, some called⟩)
      | some function =>
          let _ ← expect tokens .openParenthesis
          let argument ← Part.phrase .disjunction |>.scan tokens
          let _ ← expect tokens .closeParenthesis
          return .call function argument
partial_fixpoint

variable {tokens front rest : List Token} {cursor : Cursor} {token : Token} {bound : Nat}

/-- A level with a loop scans an operand, and then further ones. -/
theorem Part.scan_loop {level : Level} (loops : level.loops = true) :
    Part.scan tokens (.phrase level) =
      Part.scan tokens (.phrase level.tighter) >>= fun left =>
        Part.scan tokens (.more level left) := by
  cases level with
  | disjunction | conjunction | sum | product => rw [Part.scan] <;> nofun
  | comparison | signed | primary => cases loops

theorem Part.scan_more_stop {level : Level} {left : Expression}
    (before : cursor.Before tokens front) (stops : front[0]?.bind level.operation? = none) :
    Part.scan tokens (.more level left) cursor = accepted left cursor := by
  rw [Part.scan, bind_of_accepted (before.ahead_eq _), stops]
  rfl

theorem Part.scan_more_go {level : Level} {left : Expression}
    {operation : Expression → Expression → Expression}
    (before : cursor.Before tokens (token :: rest))
    (goes : level.operation? token = some operation) :
    Part.scan tokens (.more level left) cursor =
      (advance tokens >>= fun _ => Part.scan tokens (.phrase level.tighter) >>= fun right =>
        Part.scan tokens (.more level (operation left right))) cursor := by
  conv => lhs; rw [Part.scan, bind_of_accepted (before.ahead_eq _), List.getElem?_cons_zero,
    Option.bind_some, goes]

theorem opensNegation_eq (before : cursor.Before tokens front) :
    opensNegation tokens cursor =
      accepted (UnaryTests.afterNegation? front).isSome cursor := by
  rw [opensNegation, bind_of_accepted (before.standsAt_eq _ 0),
    bind_of_accepted (before.standsAt_eq _ 1), pure_apply]
  congr 1
  cases front with
  | nil => rfl
  | cons token rest =>
      rw [List.getElem?_cons_succ, decide_symbol_front, UnaryTests.afterNegation?]
      by_cases word : token.lexeme = .name "not" <;> simp [word]

/-- Without a sign and without `not (` ahead a primary expression is scanned. -/
theorem Part.scan_unsigned (before : cursor.Before tokens front)
    (positive : afterSymbol? .minus front = none)
    (plain : UnaryTests.afterNegation? front = none) :
    Part.scan tokens (.phrase .signed) cursor = Part.scan tokens (.phrase .primary) cursor := by
  conv =>
    lhs
    rw [Part.scan, bind_of_accepted (before.standsSymbol_eq _), positive]
  change (opensNegation tokens >>= _) cursor = _
  rw [bind_of_accepted (opensNegation_eq before), plain]
  rfl

/-- At the end there is no expression of any level. -/
theorem Part.scan_of_end (before : cursor.Before tokens []) (level : Level) :
    Part.scan tokens (.phrase level) cursor = refused ⟨.expectedValue, none⟩ := by
  induction level using Level.ofTighter with
  | primary =>
      rw [Part.scan, bind_of_accepted (before.peek_eq 0)]
      exact before.reject_eq _
  | signed primary =>
      rw [Part.scan_unsigned before rfl rfl, primary]
  | comparison sum =>
      rw [Part.scan, bind_of_refused sum]
  | loop level loops tighter =>
      rw [Part.scan_loop loops, bind_of_refused tighter]

/-! ## Expressions follow their readers -/

/-- Whether the note of a cursor is whether the subject was met before or is used by an
expression. -/
def Asks (before : Bool) (value : Expression) (asked : Bool) : Prop :=
  asked = (before || value.usesSubject)

/-- Whether the scan of the phrases of a level follows a reader from wherever its cursor stands, and
never leaves the cursor where it was. -/
def Scans (tokens : List Token) (level : Level) {bound : Nat} (read : Reader Expression bound) :
    Prop :=
  ∀ ⦃front : List Token⦄ ⦃cursor : Cursor⦄ (within : front.length ≤ bound),
    cursor.Before tokens front →
      Follows tokens (Asks cursor.asked) (cursor.place + 1) (read front within)
        (Part.scan tokens (.phrase level) cursor)

section Levels

variable {nested : Reader Expression bound}

/-- The argument of a call is scanned as it is read. -/
theorem Scans.argument (scans : Scans tokens .disjunction nested) {opening : Token}
    {function : Function} (within : rest.length ≤ bound)
    (before : cursor.Before tokens (opening :: rest))
    (opens : opening.lexeme = .symbol .openParenthesis) :
    Follows tokens (Asks cursor.asked) (cursor.place + 1)
      ((readEnclosed nested rest within).map (.call function))
      ((expect tokens .openParenthesis >>= fun _ =>
        Part.scan tokens (.phrase .disjunction) >>= fun argument =>
          expect tokens .closeParenthesis >>= fun _ => pure (.call function argument)) cursor) := by
  rw [bind_of_accepted (before.expect_found (afterSymbol?_front opens))]
  exact .mono (.enclosed (scans within before.tail) fun _ _ asks => asks) (Nat.le_succ _)

/-- A call follows the reader of calls. -/
theorem Scans.call (scans : Scans tokens .disjunction nested) {called opening : Token}
    {word : String} {within : (opening :: rest).length ≤ bound}
    (before : cursor.Before tokens (opening :: rest)) (known : called ∈ tokens)
    (opens : opening.lexeme = .symbol .openParenthesis) :
    Follows tokens (Asks cursor.asked) (cursor.place + 1)
      (readNamed nested called word (opening :: rest) within)
      (Part.scan tokens (.call called word) cursor) := by
  rw [Part.scan, readNamed_call opens]
  cases Function.ofName? word with
  | none =>
      refine .rejected fun token found => ?_
      cases found
      exact known
  | some function => exact .widen (scans.argument (Nat.le_of_succ_le within) before opens)

theorem Scans.primary (scans : Scans tokens .disjunction nested) :
    Scans tokens .primary (Level.primary.reader nested) := by
  intro front cursor within before
  cases front with
  | nil =>
      rw [Part.scan_of_end before]
      exact .rejected (Rejection.names_end _)
  | cons token rest =>
      have behind := before.tail
      rw [Part.scan, bind_of_accepted (before.peek_eq 0)]
      rcases token with ⟨lexeme, position⟩
      cases lexeme with
      | integer value => exact .token before (Bool.or_false _).symm
      | double value => exact .token before (Bool.or_false _).symm
      | text value => exact .token before (Bool.or_false _).symm
      | name word =>
          change Follows tokens _ _ _ ((advance tokens >>= _) cursor)
          rw [bind_of_accepted before.advance_eq]
          simp only [Level.reader, readPrimary]
          cases constant? word with
          | some value => exact .accepted (Nat.le_refl _) behind (Bool.or_false _).symm
          | none =>
              simp only
              rw [bind_of_accepted (behind.standsSymbol_eq _)]
              cases found : afterSymbol? .openParenthesis rest with
              | none =>
                  rw [readNamed_path found]
                  exact .accepted (Nat.le_refl _) behind (Bool.or_false _).symm
              | some inner =>
                  obtain ⟨opening, rfl, opens⟩ := afterSymbol?_eq_some_iff.mp found
                  exact (scans.call behind (before.subset List.mem_cons_self) opens).mono
                    (Nat.le_succ _)
      | symbol symbol =>
          cases symbol with
          | subject =>
              change Follows tokens _ _ (.accepted _ rest _) ((advance tokens >>= _) cursor)
              rw [bind_of_accepted before.advance_eq]
              have noted : Cursor.Before ⟨cursor.place + 1, true⟩ tokens rest :=
                ⟨behind.inRange, behind.front_eq⟩
              exact .accepted (Nat.le_refl _) noted (Bool.or_true _).symm
          | openParenthesis =>
              have inner := scans (Nat.le_of_succ_le_succ within) behind
              change Follows tokens _ _ (Reading.widen (rest_le rest) _)
                ((advance tokens >>= _) cursor)
              rw [bind_of_accepted before.advance_eq]
              exact .mono (.widen (inner.closed _)) (Nat.le_succ _)
          | _ => exact .rejectAt before _

/-- Signs are scanned one after the other. -/
theorem Scans.signed (scans : Scans tokens .disjunction nested) :
    Scans tokens .signed (Level.signed.reader nested) := by
  intro front
  induction front with
  | nil =>
      intro cursor within before
      rw [Part.scan_unsigned before rfl rfl]
      exact scans.primary within before
  | cons token rest ih =>
      intro cursor within before
      by_cases minus : token.lexeme = .symbol .minus
      · rw [Level.reader, readSigned, if_pos minus, Part.scan,
          bind_of_accepted (before.standsSymbol_eq _), afterSymbol?_front minus]
        change Follows tokens _ _ _ ((advance tokens >>= _) cursor)
        rw [bind_of_accepted before.advance_eq]
        have operand := ih (Nat.le_of_succ_le within) before.tail
        refine .mono (.widen (operand.map fun value asked asks => ?_)) (Nat.le_succ _)
        rwa [Asks, usesSubject_negated]
      cases plain : UnaryTests.afterNegation? (token :: rest) with
      | none =>
          have unsigned : Unsigned (token :: rest) := by
            refine ⟨minus, fun word => ?_⟩
            rwa [UnaryTests.afterNegation?, if_pos word] at plain
          have positive : afterSymbol? .minus (token :: rest) = none := by
            rw [afterSymbol?, if_neg minus]
          rw [readSigned_unsigned unsigned, Part.scan_unsigned before positive plain]
          exact scans.primary within before
      | some inner =>
          obtain ⟨word, opening, equal, named, opens⟩ :=
            UnaryTests.afterNegation?_eq_some_iff.mp plain
          cases equal
          have positive : afterSymbol? .minus (token :: opening :: inner) = none := by
            rw [afterSymbol?, if_neg minus]
          rw [Level.reader, readSigned_complement named opens, Part.scan,
            bind_of_accepted (before.standsSymbol_eq _), positive]
          change Follows tokens _ _ _ ((opensNegation tokens >>= _) cursor)
          rw [bind_of_accepted (opensNegation_eq before), plain]
          change Follows tokens _ _ _ ((advance tokens >>= _) cursor)
          rw [bind_of_accepted before.advance_eq, bind_of_accepted before.tail.advance_eq]
          have operand := scans (Nat.le_of_succ_le (Nat.le_of_succ_le_succ within)) before.tail.tail
          exact .mono (.widen (.enclosed operand fun _ _ asks => asks))
            (Nat.le_succ_of_le (Nat.le_succ _))

/-- The note of a cursor behind the right operand of an operation is about both operands. -/
theorem Asks.join {level : Level} {operation : Expression → Expression → Expression}
    (found : level.operation? token = some operation) {left right : Expression}
    {earlier between asked : Bool} (first : Asks earlier left between)
    (second : Asks between right asked) : Asks earlier (operation left right) asked := by
  obtain ⟨operator, _, rfl⟩ := Option.map_eq_some_iff.mp found
  rw [Asks, usesSubject_join, ← Bool.or_assoc, ← first, second]

/-- The operands after a left one follow the reader of a chain. The note of the cursor is whether
the left operand uses the subject, or what was noted before it. -/
theorem Scans.more {level : Level} (scans : Scans tokens level.tighter nested) {asked : Bool} :
    ∀ (front : List Token) (within : front.length ≤ bound) {left : Expression} {cursor : Cursor},
      cursor.Before tokens front → Asks asked left cursor.asked →
        Follows tokens (Asks asked) cursor.place
          (readChain nested level.operation? left front within)
          (Part.scan tokens (.more level left) cursor)
  | [], within, left, cursor, before, asks => by
      rw [Part.scan_more_stop before rfl, readChain]
      exact .accepted (Nat.le_refl _) before asks
  | token :: rest, within, left, cursor, before, asks => by
      cases found : level.operation? token with
      | none =>
          rw [Part.scan_more_stop before found]
          simp only [readChain, found]
          exact .accepted (Nat.le_refl _) before asks
      | some operation =>
          rw [Part.scan_more_go before found, bind_of_accepted before.advance_eq,
            readChain_go found]
          have operand := scans (Nat.le_of_succ_le within) before.tail
          refine .widen (operand.andThen fun right tail shorter next beyond behind joined => ?_)
          have inside := rest_le_bound shorter (Nat.le_of_succ_le within)
          have further := Scans.more scans tail inside behind (asks.join found joined)
          exact .mono (.widen further) (Nat.le_trans (Nat.le_add_right _ 2) beyond)
termination_by front => front.length
decreasing_by exact Nat.lt_succ_of_lt shorter

theorem Scans.loop {level : Level} (loops : level.loops = true)
    (scans : Scans tokens level.tighter (level.tighter.reader nested)) :
    Scans tokens level (level.reader nested) := by
  intro front cursor within before
  rw [Level.reader_loop loops, Part.scan_loop loops, readLevel]
  refine (scans within before).andThen fun left rest shorter next beyond behind asks => ?_
  exact .mono (.widen (scans.more rest (rest_le_bound shorter within) behind asks)) beyond

theorem Scans.comparison (scans : Scans tokens .sum (Level.sum.reader nested)) :
    Scans tokens .comparison (Level.comparison.reader nested) := by
  intro front cursor within before
  rw [Level.reader, readComparison, Part.scan]
  refine (scans within before).andThen fun left rest shorter next beyond behind asks => ?_
  rw [bind_of_accepted (behind.ahead_eq _)]
  cases rest with
  | nil => exact .accepted beyond behind asks
  | cons token tail =>
      cases found : comparison? token with
      | none =>
          simp only [List.getElem?_cons_zero, Option.bind_some, found]
          exact .accepted beyond behind asks
      | some comparison =>
          simp only [List.getElem?_cons_zero, Option.bind_some, found]
          rw [bind_of_accepted behind.advance_eq]
          have inside : tail.length < front.length := Nat.lt_of_succ_lt shorter
          have right := scans (rest_le_bound inside within) behind.tail
          refine .mono (.widen (right.map fun value asked further => ?_))
            (Nat.le_trans beyond (Nat.le_add_right _ 2))
          rw [Asks, usesSubject, ← Bool.or_assoc, ← asks, further]

/-- The scans of all levels follow their readers if the reader of nested expressions is followed. -/
theorem Scans.levels (scans : Scans tokens .disjunction nested) (level : Level) :
    Scans tokens level (level.reader nested) := by
  induction level using Level.ofTighter with
  | primary => exact scans.primary
  | signed => exact scans.signed
  | comparison sum => exact sum.comparison
  | loop level loops tighter => exact tighter.loop loops

end Levels

/-- Nested expressions are scanned as they are read. -/
theorem scans_reader (tokens : List Token) (bound : Nat) :
    Scans tokens .disjunction (reader bound) := by
  induction bound with
  | zero =>
      intro front cursor within before
      obtain rfl := List.length_eq_zero_iff.mp (Nat.le_zero.mp within)
      rw [Part.scan_of_end before]
      exact .rejected (Rejection.names_end _)
  | succ bound scans => exact scans.levels .disjunction

end Scan

end DecisionTables
