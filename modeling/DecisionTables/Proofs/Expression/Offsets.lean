import DecisionTables.Proofs.Expression.Layout

/-!
# Offsets in a text

Every token of a text stands before its end, and so does every character that begins no lexeme. An
error that names a token of the text or its end therefore lies in the text.
-/

namespace DecisionTables

/-- Whether a syntax error is about a text, at one of its offsets or at its end. -/
structure SyntaxError.LiesIn (error : SyntaxError) (text : String) : Prop where
  text_eq : error.text = text
  inRange : error.position ≤ text.length

/-- Whether a rejection is of one of some tokens or of the end. -/
def Rejection.Names (rejection : Rejection) (tokens : List Token) : Prop :=
  ∀ token, rejection.token = some token → token ∈ tokens

theorem Rejection.names_end {tokens : List Token} (cause : SyntaxCause) :
    Rejection.Names ⟨cause, none⟩ tokens := by
  intro token found
  cases found

namespace Lexer

variable {start : Nat} {characters : List Char} {tokens : List Token}

theorem further_le {first : Char} {rest : List Char} {lexed : Lexed}
    (taken : lexeme first rest = .ok lexed) : lexed.further ≤ rest.length :=
  (lexeme_append taken (.ofBlank beginsBlank_nil)).1

theorem position_lt_of_tokensFrom (read : tokensFrom start characters = .ok tokens) :
    ∀ token ∈ tokens, token.position < start + characters.length := by
  fun_induction tokensFrom start characters generalizing tokens with
  | case1 =>
      cases read
      exact List.forall_mem_nil _
  | case2 start first rest blank ih =>
      intro token among
      have before := ih read token among
      rw [List.length_cons]
      omega
  | case3 => cases read
  | case4 => cases read
  | case5 start first rest solid lexed taken others following ih =>
      cases read
      refine List.forall_mem_cons.mpr ⟨?_, fun token among => ?_⟩
      · rw [List.length_cons]
        exact Nat.lt_add_of_pos_right (Nat.succ_pos _)
      · have before := ih following token among
        have within := further_le taken
        rw [List.length_drop] at before
        rw [List.length_cons]
        omega

theorem position_lt_of_error {error : LexicalError} {position : Nat}
    (failed : tokensFrom start characters = .error (error, position)) :
    position < start + characters.length := by
  fun_induction tokensFrom start characters with
  | case1 => cases failed
  | case2 start first rest blank ih =>
      have before := ih failed
      rw [List.length_cons]
      omega
  | case3 start first rest solid error taken =>
      cases failed
      exact Nat.lt_add_of_pos_right (Nat.succ_pos _)
  | case4 start first rest solid lexed taken error following ih =>
      cases failed
      have before := ih following
      have within := further_le taken
      rw [List.length_drop] at before
      rw [List.length_cons]
      omega
  | case5 => cases failed

end Lexer

namespace SyntaxError

variable {text : String} {tokens : List Token} {error : SyntaxError}

theorem liesIn_of_tokenize (invalid : tokenize text = .error (.invalid error)) :
    error.LiesIn text := by
  unfold tokenize at invalid
  split at invalid
  · cases invalid
  · rename_i lexical position failed
    have before := Lexer.position_lt_of_error failed
    rw [Nat.zero_add, String.length_toList] at before
    cases lexical with
    | numeralTooLong => cases invalid
    | unterminatedText | unexpectedCharacter =>
        cases invalid
        exact ⟨rfl, Nat.le_of_lt before⟩

/-- What names a token of a text or its end lies in the text. -/
theorem liesIn_ofRejection {rejection : Rejection} (tokenized : tokenize text = .ok tokens)
    (names : rejection.Names tokens) : (ofRejection text rejection).LiesIn text := by
  refine ⟨rfl, ?_⟩
  rw [ofRejection]
  cases found : rejection.token with
  | none => exact Nat.le_refl _
  | some token =>
      have before := Lexer.position_lt_of_tokensFrom (tokenize_eq_ok_iff.mp tokenized) token
        (names token found)
      rw [Nat.zero_add, String.length_toList] at before
      exact Nat.le_of_lt before

end SyntaxError

end DecisionTables
