import DecisionTables.Expression.Parser

/-!
# Accepting readings

A reading carries a proof that its rest is shorter, which changes with every bound it is seen under.
This module forgets that proof: a reading accepts a value and a rest, and each combinator of readers
accepts exactly when its parts do.
-/

namespace DecisionTables

namespace Reading

variable {α β : Type} {bound larger : Nat}

/-! ## Laws of readings -/

theorem map_eq_andThen {reading : Reading α bound} {image : α → β} :
    reading.map image =
      reading.andThen fun value rest shorter => .accepted (image value) rest shorter := by
  cases reading <;> rfl

theorem map_id {reading : Reading α bound} : reading.map (fun value => value) = reading := by
  cases reading <;> rfl

theorem andThen_accepted (reading : Reading α bound) : reading.andThen .accepted = reading := by
  cases reading <;> rfl

theorem widen_widen {largest : Nat} {reading : Reading α bound} {smaller : bound ≤ larger}
    {further : larger ≤ largest} :
    (reading.widen smaller).widen further = reading.widen (Nat.le_trans smaller further) := by
  cases reading <;> rfl

theorem map_widen_map {γ : Type} {reading : Reading α bound} {first : α → β}
    {second : β → γ} {smaller : bound ≤ larger} :
    ((reading.map first).widen smaller).map second =
      (reading.map fun value => second (first value)).widen smaller := by
  cases reading <;> rfl

/-! ## What a reading accepts -/

/-- Whether a reading accepts a value and leaves a rest. -/
def Accepts (reading : Reading α bound) (value : α) (rest : List Token) : Prop :=
  ∃ shorter, reading = .accepted value rest shorter

@[simp] theorem accepts_accepted {value other : α} {rest remaining : List Token}
    {shorter : remaining.length < bound} :
    (Reading.accepted other remaining shorter).Accepts value rest ↔
      other = value ∧ remaining = rest := by
  constructor
  · intro shown
    rcases shown with ⟨_, equal⟩
    cases equal
    exact ⟨rfl, rfl⟩
  · intro shown
    rcases shown with ⟨rfl, rfl⟩
    exact ⟨shorter, rfl⟩

@[simp] theorem not_accepts_rejected {rejection : Rejection} {value : α} {rest : List Token} :
    ¬(Reading.rejected rejection : Reading α bound).Accepts value rest := by
  intro shown
  rcases shown with ⟨_, equal⟩
  cases equal

@[simp] theorem not_accepts_rejectAt {cause : SyntaxCause} {tokens : List Token} {value : α}
    {rest : List Token} : ¬(rejectAt cause tokens : Reading α bound).Accepts value rest :=
  not_accepts_rejected

theorem Accepts.shorter {reading : Reading α bound} {value : α} {rest : List Token}
    (accepts : reading.Accepts value rest) : rest.length < bound :=
  accepts.choose

theorem Accepts.unique {reading : Reading α bound} {value other : α} {rest remaining : List Token}
    (first : reading.Accepts value rest) (second : reading.Accepts other remaining) :
    value = other ∧ rest = remaining := by
  rcases first with ⟨_, rfl⟩
  exact accepts_accepted.mp second

@[simp] theorem accepts_widen {reading : Reading α bound} {smaller : bound ≤ larger} {value : α}
    {rest : List Token} :
    (reading.widen smaller).Accepts value rest ↔ reading.Accepts value rest := by
  cases reading with
  | accepted => simp [widen]
  | rejected => simp [widen]

@[simp] theorem accepts_map {reading : Reading α bound} {image : α → β} {value : β}
    {rest : List Token} :
    (reading.map image).Accepts value rest ↔
      ∃ read, reading.Accepts read rest ∧ image read = value := by
  cases reading with
  | accepted =>
      simp only [map, accepts_accepted]
      constructor
      · intro shown
        rcases shown with ⟨rfl, rfl⟩
        exact ⟨_, ⟨rfl, rfl⟩, rfl⟩
      · intro shown
        rcases shown with ⟨_, ⟨rfl, rfl⟩, rfl⟩
        exact ⟨rfl, rfl⟩
  | rejected => simp [map]

theorem accepts_andThen {first : Reading α bound}
    {next : α → (rest : List Token) → rest.length < bound → Reading β bound} {value : β}
    {rest : List Token} :
    (first.andThen next).Accepts value rest ↔
      ∃ read middle shorter, first.Accepts read middle ∧
        (next read middle shorter).Accepts value rest := by
  cases first with
  | accepted read middle shorter =>
      simp only [andThen, accepts_accepted]
      constructor
      · intro accepts
        exact ⟨read, middle, shorter, ⟨rfl, rfl⟩, accepts⟩
      · intro shown
        rcases shown with ⟨_, _, _, ⟨rfl, rfl⟩, accepts⟩
        exact accepts
  | rejected => simp [andThen]

/-- A reading is complete if it accepts and leaves nothing. -/
theorem complete_eq_ok_iff {reading : Reading α bound} {value : α} :
    reading.complete = .ok value ↔ reading.Accepts value [] := by
  cases reading with
  | accepted read rest shorter =>
      cases rest with
      | nil => simp [complete]
      | cons token rest => simp [complete]
  | rejected => simp [complete]

end Reading

theorem afterSymbol?_eq_some_iff {symbol : Symbol} {tokens rest : List Token} :
    afterSymbol? symbol tokens = some rest ↔
      ∃ token, tokens = token :: rest ∧ token.lexeme = .symbol symbol := by
  cases tokens with
  | nil => simp [afterSymbol?]
  | cons token tail =>
      simp only [afterSymbol?]
      split
      · rename_i found
        constructor
        · intro equal
          cases equal
          exact ⟨token, rfl, found⟩
        · intro shown
          rcases shown with ⟨_, equal, _⟩
          cases equal
          rfl
      · rename_i other
        constructor
        · intro equal
          cases equal
        · intro shown
          rcases shown with ⟨_, equal, found⟩
          cases equal
          exact absurd found other

namespace Reading

variable {α : Type} {bound : Nat}

theorem closedBy_of_some {symbol : Symbol} {value : α} {rest tail : List Token}
    {shorter : rest.length < bound} (found : afterSymbol? symbol rest = some tail) :
    (Reading.accepted value rest shorter).closedBy symbol =
      .accepted value tail (Nat.lt_trans (afterSymbol?_length found) shorter) := by
  simp only [closedBy, andThen]
  split
  · rename_i other
    rw [found] at other
    cases other
    rfl
  · rename_i missing
    rw [found] at missing
    cases missing

theorem closedBy_of_none {symbol : Symbol} {value : α} {rest : List Token}
    {shorter : rest.length < bound} (missing : afterSymbol? symbol rest = none) :
    (Reading.accepted value rest shorter).closedBy symbol =
      rejectAt (.expectedSymbol symbol) rest := by
  simp only [closedBy, andThen]
  split
  · rename_i found
    rw [missing] at found
    cases found
  · rfl

@[simp] theorem accepts_closedBy {symbol : Symbol} {reading : Reading α bound} {value : α}
    {rest : List Token} :
    (reading.closedBy symbol).Accepts value rest ↔
      ∃ token, reading.Accepts value (token :: rest) ∧ token.lexeme = .symbol symbol := by
  simp only [closedBy, accepts_andThen]
  constructor
  · intro shown
    rcases shown with ⟨read, middle, shorter, first, accepts⟩
    split at accepts
    · rename_i tail found
      obtain ⟨rfl, rfl⟩ := accepts_accepted.mp accepts
      obtain ⟨token, rfl, closing⟩ := afterSymbol?_eq_some_iff.mp found
      exact ⟨token, first, closing⟩
    · exact absurd accepts not_accepts_rejectAt
  · intro shown
    rcases shown with ⟨token, first, closing⟩
    refine ⟨value, token :: rest, first.shorter, first, ?_⟩
    have found : afterSymbol? symbol (token :: rest) = some rest :=
      afterSymbol?_eq_some_iff.mpr ⟨token, rfl, closing⟩
    split
    · rename_i tail other
      rw [found] at other
      cases other
      exact accepts_accepted.mpr ⟨rfl, rfl⟩
    · rename_i missing
      rw [found] at missing
      cases missing

end Reading

/-! ## Chains of operands -/

section Chain

variable {α : Type} {bound : Nat} {operand : Reader α bound}
  {operator? : Token → Option (α → α → α)}

theorem accepts_readChain_nil {left value : α} {rest : List Token} {within : [].length ≤ bound} :
    (readChain operand operator? left [] within).Accepts value rest ↔ left = value ∧ [] = rest := by
  rw [readChain]
  exact Reading.accepts_accepted

theorem accepts_readChain_stop {left value : α} {token : Token} {tokens rest : List Token}
    {within : (token :: tokens).length ≤ bound} (stops : operator? token = none) :
    (readChain operand operator? left (token :: tokens) within).Accepts value rest ↔
      left = value ∧ token :: tokens = rest := by
  rw [readChain]
  simp only [stops, Reading.accepts_accepted]

/-- A chain goes on after an operator with an operand and the chain behind it. -/
theorem readChain_go {left : α} {token : Token} {tokens : List Token}
    {within : (token :: tokens).length ≤ bound} {operation : α → α → α}
    (goes : operator? token = some operation) :
    readChain operand operator? left (token :: tokens) within =
      ((operand tokens (Nat.le_of_succ_le within)).andThen fun right tail shorter =>
        (readChain operand operator? (operation left right) tail
          (rest_le_bound shorter (Nat.le_of_succ_le within))).widen shorter).widen
            (Nat.le_succ_of_le (Nat.le_succ _)) := by
  rw [readChain]
  simp only [goes]
  split
  · rename_i rejected
    rw [rejected]
    rfl
  · rename_i accepted
    rw [accepted, Reading.andThen, Reading.widen_widen]

theorem accepts_readChain_go {left value : α} {token : Token} {tokens rest : List Token}
    {within : (token :: tokens).length ≤ bound} {operation : α → α → α}
    (goes : operator? token = some operation) :
    (readChain operand operator? left (token :: tokens) within).Accepts value rest ↔
      ∃ right middle inside further, (operand tokens inside).Accepts right middle ∧
        (readChain operand operator? (operation left right) middle further).Accepts value rest := by
  rw [readChain_go goes]
  simp only [Reading.accepts_widen, Reading.accepts_andThen]
  constructor
  · intro shown
    rcases shown with ⟨right, middle, shorter, first, accepts⟩
    exact ⟨right, middle, _, _, first, accepts⟩
  · intro shown
    rcases shown with ⟨right, middle, inside, further, first, accepts⟩
    exact ⟨right, middle, first.shorter, first, accepts⟩

theorem accepts_readLevel {tokens rest : List Token} {within : tokens.length ≤ bound} {value : α} :
    (readLevel operand operator? tokens within).Accepts value rest ↔
      ∃ left middle further, (operand tokens within).Accepts left middle ∧
        (readChain operand operator? left middle further).Accepts value rest := by
  simp only [readLevel, Reading.accepts_andThen, Reading.accepts_widen]
  constructor
  · intro shown
    rcases shown with ⟨left, middle, shorter, first, accepts⟩
    exact ⟨left, middle, _, first, accepts⟩
  · intro shown
    rcases shown with ⟨left, middle, further, first, accepts⟩
    exact ⟨left, middle, first.shorter, first, accepts⟩

end Chain

end DecisionTables
