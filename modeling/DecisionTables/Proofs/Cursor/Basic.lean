import DecisionTables.Proofs.Expression.Accepting
import DecisionTables.Proofs.Expression.Offsets

/-!
# Cursors

A list of tokens can be read with a cursor: a place in the list, after whose last token a mark of
the end stands. A scan looks at what stands at its cursor, moves past it or sets it back, and goes
on with other scans. Nothing about a scan says that it ends, that its cursor stays in the list or
that the cursor moves at all. This module says what the steps of a scan do, and what it means that
a scan follows a reading, whose rests are the lists of tokens from the cursor on.
-/

namespace DecisionTables

/-- A place in a list of tokens, and what a scan has noted on its way to it. -/
structure Cursor where
  place : Nat
  /-- Whether the subject has been met since this was last reset. -/
  asked : Bool

/-- Why a scan stops without a value. -/
inductive Stop where
  /-- A place is looked at where there is neither a token nor the mark of the end. -/
  | outOfRange
  | rejected (rejection : Rejection)

/-- A scan of tokens that moves a cursor. One that does not end has no outcome. -/
abbrev Scan (α : Type) := StateT Cursor (ExceptT Stop Option) α

/-- What comes of a scan at a cursor. -/
abbrev Scan.Outcome (α : Type) := ExceptT Stop Option (α × Cursor)

namespace Scan

/-- The outcome of a scan that has a value and leaves its cursor at a place. -/
def accepted {α : Type} (value : α) (next : Cursor) : Outcome α :=
  some (.ok (value, next))

/-- The outcome of a scan that rejects what it has found. -/
def refused {α : Type} (rejection : Rejection) : Outcome α :=
  some (.error (.rejected rejection))

section Bind

variable {α β : Type} {scan : Scan α} {further : α → Scan β} {cursor next : Cursor} {value : α}

theorem pure_apply : (pure value : Scan α) cursor = accepted value cursor := rfl

theorem bind_of_accepted (first : scan cursor = accepted value next) :
    (scan >>= further) cursor = further value next := by
  simp only [bind, StateT.bind, ExceptT.bind, ExceptT.mk, first, accepted, Option.bind_some,
    ExceptT.bindCont]

theorem bind_of_refused {rejection : Rejection} (first : scan cursor = refused rejection) :
    (scan >>= further) cursor = refused rejection := by
  simp only [bind, StateT.bind, ExceptT.bind, ExceptT.mk, first, refused, Option.bind_some,
    ExceptT.bindCont]
  rfl

end Bind

/-! ## Steps -/

/-- The tokens, and the mark of the end after them. -/
def marked (tokens : List Token) : List (Option Token) :=
  tokens.map some ++ [none]

def lastPlace (tokens : List Token) : Nat :=
  (marked tokens).length - 1

section Steps

variable (tokens : List Token)

/-- What stands some places after the cursor. After the end only its mark is found. -/
def peek (offset : Nat) : Scan (Option Token) := do
  let cursor ← get
  match (marked tokens)[min (cursor.place + offset) (lastPlace tokens)]? with
  | some mark => return mark
  | none => throw .outOfRange

def moveTo (place : Nat) : Scan Unit :=
  modify fun cursor => { cursor with place }

/-- Note whether the subject has been met. -/
def note (asked : Bool) : Scan Unit :=
  modify fun cursor => { cursor with asked }

/-- Move past what stands at the cursor, unless that is the mark of the end. -/
def advance : Scan (Option Token) := do
  let mark ← peek tokens 0
  if mark.isSome then moveTo ((← get).place + 1)
  return mark

/-- What the token at the cursor stands for, if it stands for anything. -/
def ahead {β : Type} (reads : Token → Option β) : Scan (Option β) :=
  return (← peek tokens 0).bind reads

/-- Whether a lexeme stands some places after the cursor. -/
def standsAt (lexeme : Lexeme) (offset : Nat) : Scan Bool :=
  return (← peek tokens offset).map Token.lexeme = some lexeme

/-- Reject what stands at the cursor. -/
def reject {α : Type} (cause : SyntaxCause) : Scan α := do
  throw (.rejected ⟨cause, ← peek tokens 0⟩)

def expect (symbol : Symbol) : Scan (Option Token) := do
  if ← standsAt tokens (.symbol symbol) 0 then advance tokens
  else reject tokens (.expectedSymbol symbol)

def expectEnd : Scan Unit := do
  if (← peek tokens 0).isSome then reject tokens .trailingInput

end Steps

variable {tokens : List Token} {cursor : Cursor}

theorem lastPlace_eq : lastPlace tokens = tokens.length := by
  simp [lastPlace, marked]

theorem note_apply (asked : Bool) : note asked cursor = accepted () { cursor with asked } := rfl

/-- Looking ahead never leaves the list: past its tokens there is the mark of the end. -/
theorem peek_apply (offset : Nat) :
    peek tokens offset cursor = accepted tokens[cursor.place + offset]? cursor := by
  have found : (marked tokens)[min (cursor.place + offset) (lastPlace tokens)]? =
      some tokens[cursor.place + offset]? := by
    rw [lastPlace_eq, marked]
    by_cases within : cursor.place + offset < tokens.length
    · rw [Nat.min_eq_left (Nat.le_of_lt within), List.getElem?_append_left (by simpa),
        List.getElem?_map, List.getElem?_eq_getElem within]
      rfl
    · have beyond := Nat.le_of_not_lt within
      rw [Nat.min_eq_right beyond, List.getElem?_append_right (by simp),
        List.getElem?_eq_none beyond]
      simp
  have looked : peek tokens offset cursor =
      (match (marked tokens)[min (cursor.place + offset) (lastPlace tokens)]? with
        | some mark => pure mark
        | none => throw Stop.outOfRange : Scan (Option Token)) cursor := rfl
  rw [looked, found]
  rfl

theorem advance_of_token {token : Token} (stands : tokens[cursor.place]? = some token) :
    advance tokens cursor = accepted (some token) { cursor with place := cursor.place + 1 } := by
  have looked : peek tokens 0 cursor = accepted (some token) cursor := by
    rw [peek_apply, Nat.add_zero, stands]
  rw [advance, bind_of_accepted looked]
  rfl

theorem advance_of_end (ended : tokens[cursor.place]? = none) :
    advance tokens cursor = accepted none cursor := by
  have looked : peek tokens 0 cursor = accepted none cursor := by
    rw [peek_apply, Nat.add_zero, ended]
  rw [advance, bind_of_accepted looked]
  rfl

end Scan

/-! ## What stands from a cursor on -/

/-- A symbol stands at the front of a list of tokens exactly if there is a list behind it. -/
theorem decide_symbol_front {symbol : Symbol} {front : List Token} :
    decide (front[0]?.map Token.lexeme = some (.symbol symbol)) =
      (afterSymbol? symbol front).isSome := by
  cases front with
  | nil => rfl
  | cons token rest =>
      simp only [List.getElem?_cons_zero, Option.map_some, Option.some.injEq, afterSymbol?]
      split <;> simp_all

/-- Whether a cursor is in range and some tokens stand from it to the end. -/
structure Cursor.Before (cursor : Cursor) (tokens front : List Token) : Prop where
  inRange : cursor.place ≤ tokens.length
  front_eq : tokens.drop cursor.place = front

namespace Cursor.Before

open Scan

variable {tokens front rest : List Token} {cursor : Cursor} {token : Token}

theorem getElem? (before : cursor.Before tokens front) (offset : Nat) :
    tokens[cursor.place + offset]? = front[offset]? := by
  rw [← before.front_eq, List.getElem?_drop]

theorem subset (before : cursor.Before tokens front) : front ⊆ tokens := by
  rw [← before.front_eq]
  exact List.drop_subset _ _

/-- Behind the first token the rest stands. -/
theorem tail (before : cursor.Before tokens (token :: rest)) :
    Cursor.Before { cursor with place := cursor.place + 1 } tokens rest := by
  have shorter : cursor.place < tokens.length := by
    have length := congrArg List.length before.front_eq
    rw [List.length_drop, List.length_cons] at length
    omega
  refine ⟨shorter, ?_⟩
  rw [← List.drop_drop, before.front_eq]
  rfl

theorem peek_eq (before : cursor.Before tokens front) (offset : Nat) :
    peek tokens offset cursor = accepted front[offset]? cursor := by
  rw [peek_apply, before.getElem?]

theorem advance_eq (before : cursor.Before tokens (token :: rest)) :
    advance tokens cursor = accepted (some token) { cursor with place := cursor.place + 1 } :=
  advance_of_token (before.getElem? 0)

theorem advance_nil (before : cursor.Before tokens []) :
    advance tokens cursor = accepted none cursor :=
  advance_of_end (before.getElem? 0)

theorem ahead_eq {β : Type} (before : cursor.Before tokens front) (reads : Token → Option β) :
    ahead tokens reads cursor = accepted (front[0]?.bind reads) cursor := by
  rw [Scan.ahead, bind_of_accepted (before.peek_eq 0)]
  rfl

theorem standsAt_eq (before : cursor.Before tokens front) (lexeme : Lexeme) (offset : Nat) :
    standsAt tokens lexeme offset cursor =
      accepted (decide (front[offset]?.map Token.lexeme = some lexeme)) cursor := by
  rw [Scan.standsAt, bind_of_accepted (before.peek_eq offset)]
  rfl

theorem standsSymbol_eq (before : cursor.Before tokens front) (symbol : Symbol) :
    standsAt tokens (.symbol symbol) 0 cursor =
      accepted (afterSymbol? symbol front).isSome cursor := by
  rw [before.standsAt_eq, decide_symbol_front]

theorem reject_eq {α : Type} (before : cursor.Before tokens front) (cause : SyntaxCause) :
    (reject tokens cause : Scan α) cursor = refused ⟨cause, front.head?⟩ := by
  rw [Scan.reject, bind_of_accepted (before.peek_eq 0), List.head?_eq_getElem?]
  rfl

theorem expect_found {symbol : Symbol} (before : cursor.Before tokens (token :: rest))
    (found : afterSymbol? symbol (token :: rest) = some rest) :
    expect tokens symbol cursor =
      accepted (some token) { cursor with place := cursor.place + 1 } := by
  rw [expect, bind_of_accepted (before.standsSymbol_eq symbol), found]
  exact before.advance_eq

theorem expect_missing {symbol : Symbol} (before : cursor.Before tokens front)
    (missing : afterSymbol? symbol front = none) :
    expect tokens symbol cursor = refused ⟨.expectedSymbol symbol, front.head?⟩ := by
  rw [expect, bind_of_accepted (before.standsSymbol_eq symbol), missing]
  exact before.reject_eq _

theorem expectEnd_nil (before : cursor.Before tokens []) :
    expectEnd tokens cursor = accepted () cursor := by
  rw [expectEnd, bind_of_accepted (before.peek_eq 0)]
  rfl

theorem expectEnd_cons (before : cursor.Before tokens (token :: rest)) :
    expectEnd tokens cursor = refused ⟨.trailingInput, some token⟩ := by
  rw [expectEnd, bind_of_accepted (before.peek_eq 0)]
  exact before.reject_eq _

theorem place_eq (before : cursor.Before tokens []) : cursor.place = tokens.length :=
  Nat.le_antisymm before.inRange (List.drop_eq_nil_iff.mp before.front_eq)

end Cursor.Before

/-! ## Scans that follow readings -/

namespace Scan

variable {α β : Type} {bound : Nat}

/-- Whether a scan of tokens comes to what a reading comes to. If the reading accepts, the scan has
the same value and leaves its cursor before the rest, at a place that is not before `first`, with a
note that suits the value. -/
inductive Follows (tokens : List Token) (suits : α → Bool → Prop) (first : Nat) :
    Reading α bound → Outcome α → Prop
  | accepted {value : α} {rest : List Token} {shorter : rest.length < bound} {next : Cursor} :
      first ≤ next.place → next.Before tokens rest → suits value next.asked →
      Follows tokens suits first (.accepted value rest shorter) (accepted value next)
  | rejected {rejection : Rejection} :
      rejection.Names tokens → Follows tokens suits first (.rejected rejection) (refused rejection)

namespace Follows

variable {tokens front : List Token} {suits : α → Bool → Prop} {fits : β → Bool → Prop}
  {first least : Nat} {reading : Reading α bound} {scan : Scan α} {cursor : Cursor}

theorem widen {larger : Nat} {smaller : bound ≤ larger} {outcome : Outcome α}
    (follows : Follows tokens suits first reading outcome) :
    Follows tokens suits first (reading.widen smaller) outcome := by
  cases follows with
  | accepted further before suited => exact .accepted further before suited
  | rejected names => exact .rejected names

theorem mono {outcome : Outcome α} (follows : Follows tokens suits first reading outcome)
    (earlier : least ≤ first) : Follows tokens suits least reading outcome := by
  cases follows with
  | accepted further before suited => exact .accepted (Nat.le_trans earlier further) before suited
  | rejected names => exact .rejected names

theorem rejectAt (before : cursor.Before tokens front) (cause : SyntaxCause) :
    Follows tokens suits first (DecisionTables.rejectAt cause front : Reading α bound)
      (reject tokens cause cursor) := by
  rw [before.reject_eq]
  exact .rejected fun token found => before.subset (List.mem_of_mem_head? found)

/-- A value that a token has by itself is left behind the token. -/
theorem token {token : Token} {rest : List Token} {value : α} {shorter : rest.length < bound}
    (before : cursor.Before tokens (token :: rest)) (suited : suits value cursor.asked) :
    Follows tokens suits (cursor.place + 1) (.accepted value rest shorter)
      ((advance tokens >>= fun _ => pure value) cursor) := by
  rw [bind_of_accepted before.advance_eq]
  exact .accepted (Nat.le_refl _) before.tail suited

/-- A scan that goes on as a reading goes on follows it to its end. -/
theorem andThen {further : α → Scan β}
    {next : α → (rest : List Token) → rest.length < bound → Reading β bound}
    (follows : Follows tokens suits first reading (scan cursor))
    (continues : ∀ value rest shorter cursor, first ≤ cursor.place → cursor.Before tokens rest →
      suits value cursor.asked →
        Follows tokens fits least (next value rest shorter) (further value cursor)) :
    Follows tokens fits least (reading.andThen next) ((scan >>= further) cursor) := by
  generalize scanned : scan cursor = outcome at follows
  cases follows with
  | accepted beyond before suited =>
      rw [bind_of_accepted scanned]
      exact continues _ _ _ _ beyond before suited
  | rejected names =>
      rw [bind_of_refused scanned]
      exact .rejected names

theorem map {image : α → β} (follows : Follows tokens suits first reading (scan cursor))
    (suited : ∀ value asked, suits value asked → fits (image value) asked) :
    Follows tokens fits first (reading.map image)
      ((scan >>= fun value => pure (image value)) cursor) := by
  rw [Reading.map_eq_andThen]
  exact follows.andThen fun value rest shorter next beyond before suits =>
    .accepted beyond before (suited value _ suits)

/-- A scan that moves past a closing symbol follows the reading that the symbol closes. -/
theorem closedBy {symbol : Symbol} {further : α → Scan β}
    {next : α → (rest : List Token) → rest.length < bound → Reading β bound}
    (follows : Follows tokens suits first reading (scan cursor))
    (continues : ∀ value rest shorter cursor, first ≤ cursor.place → cursor.Before tokens rest →
      suits value cursor.asked →
        Follows tokens fits least (next value rest shorter) (further value cursor)) :
    Follows tokens fits least ((reading.closedBy symbol).andThen next)
      ((scan >>= fun value => expect tokens symbol >>= fun _ => further value) cursor) := by
  generalize scanned : scan cursor = outcome at follows
  cases follows with
  | @accepted value rest shorter next beyond before suited =>
      rw [bind_of_accepted scanned]
      cases found : afterSymbol? symbol rest with
      | some tail =>
          obtain ⟨token, rfl, _⟩ := afterSymbol?_eq_some_iff.mp found
          rw [bind_of_accepted (before.expect_found found), Reading.closedBy_of_some found]
          exact continues _ _ _ _ (Nat.le_succ_of_le beyond) before.tail suited
      | none =>
          rw [bind_of_refused (before.expect_missing found), Reading.closedBy_of_none found]
          exact .rejected fun token stands => before.subset (List.mem_of_mem_head? stands)
  | rejected names =>
      rw [bind_of_refused scanned]
      exact .rejected names

theorem closed (symbol : Symbol) (follows : Follows tokens suits first reading (scan cursor)) :
    Follows tokens suits first (reading.closedBy symbol)
      ((scan >>= fun value => expect tokens symbol >>= fun _ => pure value) cursor) := by
  rw [← Reading.andThen_accepted (reading.closedBy symbol)]
  exact follows.closedBy fun value rest shorter next beyond before suits =>
    .accepted beyond before suits

theorem enclosed {symbol : Symbol} {image : α → β}
    (follows : Follows tokens suits first reading (scan cursor))
    (suited : ∀ value asked, suits value asked → fits (image value) asked) :
    Follows tokens fits first ((reading.closedBy symbol).map image)
      ((scan >>= fun value => expect tokens symbol >>= fun _ => pure (image value)) cursor) := by
  rw [Reading.map_eq_andThen]
  exact follows.closedBy fun value rest shorter next beyond before suits =>
    .accepted beyond before (suited value _ suits)

end Follows

end Scan

end DecisionTables
