import Mathlib.Data.List.Forall2
import DecisionTables.Proofs.Expression.Extents

/-!
# Layout

A text is a row of words with blanks around them. Each word is read by itself, and gives one token:
the blanks say nothing but where it stands. So a text can be taken apart into words that are read
alone, and put together again with other blanks between them.
-/

namespace DecisionTables

/-! ## Words -/

/-- The characters of a lexeme, and the gap before them. -/
structure Word where
  gap : List Char
  characters : List Char
  deriving DecidableEq

/-- Words in a row, and what follows the last of them. -/
structure Layout where
  words : List Word
  ending : List Char

def AllBlank (characters : List Char) : Prop :=
  ∀ character ∈ characters, Text.isBlank character = true

instance (characters : List Char) : Decidable (AllBlank characters) :=
  decidable_of_iff (characters.all Text.isBlank = true) List.all_eq_true

/-- Whether characters by themselves are read as a lexeme and nothing else. -/
structure Spells (characters : List Char) (lexeme : Lexeme) : Prop where
  nonempty : characters ≠ []
  read : tokenize (String.ofList characters) = .ok [⟨lexeme, 0⟩]

namespace Layout

/-- The characters of words and of the gaps before them. -/
def spelled (words : List Word) : List Char :=
  words.flatMap fun word => word.gap ++ word.characters

/-- The offsets of words, the first of which comes after a gap at an offset. -/
def offsetsFrom (start : Nat) : List Word → List Nat
  | [] => []
  | word :: rest =>
      (start + word.gap.length) ::
        offsetsFrom (start + word.gap.length + word.characters.length) rest

def text (layout : Layout) : String :=
  String.ofList (spelled layout.words ++ layout.ending)

def offsets (layout : Layout) : List Nat :=
  offsetsFrom 0 layout.words

/-- Whether the gaps and the ending are blank. -/
structure Blank (layout : Layout) : Prop where
  gaps : ∀ word ∈ layout.words, AllBlank word.gap
  ending : AllBlank layout.ending

/-- Whether there is a gap between any two words. -/
def Spaced (layout : Layout) : Prop :=
  ∀ word ∈ layout.words.tail, word.gap ≠ []

instance (layout : Layout) : Decidable layout.Spaced :=
  inferInstanceAs (Decidable (∀ word ∈ layout.words.tail, word.gap ≠ []))

/-- Whether a text is a row of words with blanks around them, where each word stands for the token
at its place. -/
structure Shows (layout : Layout) (text : String) (tokens : List Token) : Prop where
  text_eq : layout.text = text
  blank : layout.Blank
  /-- Each word by itself is read as the lexeme of its token. -/
  words : List.Forall₂ Spells (layout.words.map Word.characters) (tokens.map Token.lexeme)
  /-- Each token stands at the offset of its word. -/
  positions : tokens.map Token.position = layout.offsets
  /-- Where no token is left, a reading stands at the end of the text. -/
  ending : ∀ cause, (SyntaxError.ofRejection text ⟨cause, none⟩).position =
    (spelled layout.words ++ layout.ending).length

end Layout

/-! ## The tokens of words -/

namespace Lexer

variable {start : Nat} {characters gap tail : List Char} {tokens : List Token} {lexeme : Lexeme}

theorem tokensFrom_gap (start : Nat) (tail : List Char) (blank : AllBlank gap) :
    tokensFrom start (gap ++ tail) = tokensFrom (start + gap.length) tail := by
  induction gap generalizing start with
  | nil => rfl
  | cons first gap ih =>
      obtain ⟨skipped, others⟩ := List.forall_mem_cons.mp blank
      rw [List.cons_append, tokensFrom, if_pos skipped, ih _ others, List.length_cons,
        Nat.add_assoc, Nat.add_comm 1]

theorem allBlank_of_tokensFrom (read : tokensFrom start characters = .ok []) :
    AllBlank characters := by
  fun_induction tokensFrom start characters with
  | case1 => exact List.forall_mem_nil _
  | case2 start first rest blank ih => exact List.forall_mem_cons.mpr ⟨blank, ih read⟩
  | case3 => cases read
  | case4 => cases read
  | case5 => cases read

theorem position_of_tokensFrom (read : tokensFrom start characters = .ok tokens) :
    ∀ token ∈ tokens, start ≤ token.position := by
  fun_induction tokensFrom start characters generalizing tokens with
  | case1 =>
      cases read
      exact List.forall_mem_nil _
  | case2 start first rest blank ih =>
      exact fun token among => Nat.le_of_succ_le (ih read token among)
  | case3 => cases read
  | case4 => cases read
  | case5 start first rest solid lexed found others following ih =>
      cases read
      refine List.forall_mem_cons.mpr ⟨Nat.le_refl _, fun token among => ?_⟩
      have behind := ih following token among
      omega

/-- What spells a lexeme begins with the lexeme, and goes on with blanks at most. -/
theorem spells_iff : Spells characters lexeme ↔
    ∃ first rest further, characters = first :: rest ∧ Text.isBlank first = false ∧
      Lexer.lexeme first rest = .ok ⟨lexeme, further⟩ ∧ AllBlank (rest.drop further) := by
  constructor
  · rintro ⟨nonempty, read⟩
    cases characters with
    | nil => exact absurd rfl nonempty
    | cons first rest =>
        rw [tokenize_eq_ok_iff, String.toList_ofList, tokensFrom] at read
        split at read
        · -- After a blank the token would stand at a later offset.
          have behind := position_of_tokensFrom read ⟨lexeme, 0⟩ List.mem_cons_self
          exact absurd behind (Nat.not_succ_le_zero 0)
        · rename_i solid
          split at read
          · cases read
          · rename_i lexed found
            split at read
            · cases read
            · rename_i none
              cases read
              exact ⟨first, rest, lexed.further, rfl, eq_false_of_ne_true solid, found,
                allBlank_of_tokensFrom none⟩
  · rintro ⟨first, rest, further, rfl, solid, found, blank⟩
    have none : ∀ start, tokensFrom start (rest.drop further) = .ok [] := by
      intro start
      have skipped := tokensFrom_gap start [] blank
      rwa [List.append_nil, tokensFrom] at skipped
    refine ⟨List.cons_ne_nil _ _, ?_⟩
    rw [tokenize_eq_ok_iff, String.toList_ofList]
    simp [tokensFrom, solid, found, none]

/-- Characters that are taken for a lexeme as a whole spell it. -/
theorem Takes.spells {first : Char} {rest : List Char}
    (takes : Takes first rest ⟨lexeme, rest.length⟩)
    (solid : Text.isBlank first = false) : Spells (first :: rest) lexeme := by
  refine spells_iff.mpr ⟨_, _, rest.length, rfl, solid, takes.lexeme, ?_⟩
  rw [List.drop_length]
  exact List.forall_mem_nil _

/-- A word gives its token before the tokens of what follows it. -/
theorem tokensFrom_word (word : Spells characters lexeme) (ends : Ends lexeme tail)
    (read : tokensFrom (start + characters.length) tail = .ok tokens) :
    tokensFrom start (characters ++ tail) = .ok (⟨lexeme, start⟩ :: tokens) := by
  obtain ⟨first, rest, further, rfl, solid, found, blank⟩ := spells_iff.mp word
  have after : Ends lexeme (rest.drop further ++ tail) := by
    cases gap : rest.drop further with
    | nil => exact ends
    | cons skipped others =>
        refine .ofBlank (beginsBlank_cons (blank skipped ?_))
        rw [gap]
        exact List.mem_cons_self
  obtain ⟨within, again⟩ := lexeme_append found after
  rw [← List.append_assoc, List.take_append_drop] at again
  have dropped : (rest ++ tail).drop further = rest.drop further ++ tail :=
    List.drop_append_of_le_length within
  have counted : start + 1 + further + (rest.drop further).length =
      start + (first :: rest).length := by
    change further ≤ rest.length at within
    rw [List.length_drop, List.length_cons]
    omega
  simp only [List.cons_append, tokensFrom, solid, again, dropped, tokensFrom_gap _ _ blank,
    counted, read]
  rfl

/-- A word at the end gives the last token. -/
theorem tokensFrom_lastWord (start : Nat) (word : Spells characters lexeme) :
    tokensFrom start characters = .ok [⟨lexeme, start⟩] := by
  have none : tokensFrom (start + characters.length) [] = .ok [] := by rw [tokensFrom]
  have last := tokensFrom_word word (.ofBlank beginsBlank_nil) none
  rwa [List.append_nil] at last

end Lexer

namespace Layout

open Lexer

variable {words : List Word} {ending : List Char} {lexemes : List Lexeme} {start : Nat}

theorem spelled_cons (word : Word) (rest : List Word) (ending : List Char) :
    spelled (word :: rest) ++ ending =
      word.gap ++ (word.characters ++ (spelled rest ++ ending)) := by
  simp [spelled]

/-- What follows a word begins with a blank. -/
theorem beginsBlank_spelled (gaps : ∀ word ∈ words, AllBlank word.gap)
    (spaced : ∀ word ∈ words, word.gap ≠ []) (last : AllBlank ending) :
    BeginsBlank (spelled words ++ ending) := by
  cases words with
  | nil => exact fun first front => last first (List.mem_of_head? front)
  | cons word rest =>
      obtain ⟨blank, _⟩ := List.forall_mem_cons.mp gaps
      obtain ⟨some, _⟩ := List.forall_mem_cons.mp spaced
      obtain ⟨first, gap, split⟩ := List.exists_cons_of_ne_nil some
      rw [spelled_cons, split, List.cons_append]
      exact beginsBlank_cons (blank first (split ▸ List.mem_cons_self))

/-- Words with gaps between them give their tokens, each at its offset. -/
theorem tokensFrom_words (start : Nat)
    (spelling : List.Forall₂ Spells (words.map Word.characters) lexemes)
    (gaps : ∀ word ∈ words, AllBlank word.gap) (spaced : ∀ word ∈ words.tail, word.gap ≠ [])
    (last : AllBlank ending) :
    ∃ tokens, tokensFrom start (spelled words ++ ending) = .ok tokens ∧
      tokens.map Token.lexeme = lexemes ∧ tokens.map Token.position = offsetsFrom start words := by
  induction words generalizing start lexemes with
  | nil =>
      cases spelling
      have none := tokensFrom_gap start [] last
      rw [List.append_nil, tokensFrom] at none
      exact ⟨[], none, rfl, rfl⟩
  | cons word rest ih =>
      rcases spelling with _ | @⟨_, lexeme, _, lexemes, first, others⟩
      obtain ⟨blank, gaps⟩ := List.forall_mem_cons.mp gaps
      have follows := beginsBlank_spelled gaps spaced last
      obtain ⟨tokens, following, same, placed⟩ :=
        ih (start + word.gap.length + word.characters.length) others gaps
          fun word among => spaced word (List.mem_of_mem_tail among)
      refine ⟨⟨lexeme, start + word.gap.length⟩ :: tokens, ?_, ?_, ?_⟩
      · rw [spelled_cons, tokensFrom_gap _ _ blank]
        exact tokensFrom_word first (.ofBlank follows) following
      · rw [List.map_cons, same]
      · rw [List.map_cons, placed, offsetsFrom]

/-- The words of characters that have tokens, with the gaps that stand between them. -/
structure Found (start : Nat) (characters : List Char) (tokens : List Token) (layout : Layout) :
    Prop where
  spelled_eq : spelled layout.words ++ layout.ending = characters
  blank : layout.Blank
  words : List.Forall₂ Spells (layout.words.map Word.characters) (tokens.map Token.lexeme)
  positions : tokens.map Token.position = offsetsFrom start layout.words

/-- The layout with one more character in front of everything. -/
def indent (blank : Char) : Layout → Layout
  | ⟨[], ending⟩ => ⟨[], blank :: ending⟩
  | ⟨word :: rest, ending⟩ => ⟨⟨blank :: word.gap, word.characters⟩ :: rest, ending⟩

theorem Found.indent {characters : List Char} {tokens : List Token} {layout : Layout} {first : Char}
    (found : Found (start + 1) characters tokens layout) (blank : Text.isBlank first = true) :
    Found start (first :: characters) tokens (layout.indent first) := by
  obtain ⟨words, ending⟩ := layout
  cases words with
  | nil =>
      refine ⟨?_, ⟨found.blank.gaps, ?_⟩, found.words, found.positions⟩
      · rw [← found.spelled_eq]
        rfl
      · exact List.forall_mem_cons.mpr ⟨blank, found.blank.ending⟩
  | cons word rest =>
      obtain ⟨gap, gaps⟩ := List.forall_mem_cons.mp found.blank.gaps
      refine ⟨?_, ⟨?_, found.blank.ending⟩, ?_, ?_⟩
      · rw [← found.spelled_eq]
        rfl
      · exact List.forall_mem_cons.mpr ⟨List.forall_mem_cons.mpr ⟨blank, gap⟩, gaps⟩
      · exact found.words
      · have counted : start + (word.gap.length + 1) = start + 1 + word.gap.length := by omega
        rw [found.positions, Layout.indent, offsetsFrom, offsetsFrom, List.length_cons, counted]

/-- Characters that are read are words with blanks around them. -/
theorem exists_found {characters : List Char} {tokens : List Token}
    (read : tokensFrom start characters = .ok tokens) :
    ∃ layout, Found start characters tokens layout := by
  fun_induction tokensFrom start characters generalizing tokens with
  | case1 start =>
      cases read
      exact ⟨⟨[], []⟩, rfl, ⟨List.forall_mem_nil _, List.forall_mem_nil _⟩, .nil, rfl⟩
  | case2 start first rest blank ih =>
      obtain ⟨layout, found⟩ := ih read
      exact ⟨layout.indent first, found.indent blank⟩
  | case3 => cases read
  | case4 => cases read
  | case5 start first rest solid lexed taken others following ih =>
      cases read
      obtain ⟨⟨words, ending⟩, found⟩ := ih following
      obtain ⟨within, alone⟩ := lexeme_append taken (.ofBlank beginsBlank_nil)
      rw [List.append_nil] at alone
      have word : Spells (first :: rest.take lexed.further) lexed.lexeme := by
        refine spells_iff.mpr ⟨_, _, lexed.further, rfl, eq_false_of_ne_true solid, alone, ?_⟩
        rw [List.drop_eq_nil_of_le (List.length_take_le _ _)]
        exact List.forall_mem_nil _
      have counted : start + ((rest.take lexed.further).length + 1) =
          start + 1 + lexed.further := by
        rw [List.length_take_of_le within]
        omega
      refine ⟨⟨⟨[], first :: rest.take lexed.further⟩ :: words, ending⟩, ?_, ⟨?_, ?_⟩, ?_, ?_⟩
      · rw [spelled_cons, found.spelled_eq, List.nil_append, List.cons_append,
          List.take_append_drop]
      · exact List.forall_mem_cons.mpr ⟨List.forall_mem_nil _, found.blank.gaps⟩
      · exact found.blank.ending
      · exact .cons word found.words
      · rw [List.map_cons, found.positions, offsetsFrom, List.length_nil, Nat.add_zero,
          List.length_cons, ← counted]
        rfl

end Layout

/-! ## Texts and their layouts -/

/-- What the layout of a text has to do with its tokens. -/
structure ReadByWords : Prop where
  /-- A text that is read is a row of words with blanks around them, each of which is read by itself
  as the token at its place. -/
  lossless : ∀ text tokens, tokenize text = .ok tokens →
    ∃ layout : Layout, layout.Shows text tokens
  /-- The same words with other blanks, and some between any two of them, give the same lexemes,
  each where its word now stands. -/
  relaid : ∀ text tokens, ∀ layout other : Layout, layout.Shows text tokens →
    other.words.map Word.characters = layout.words.map Word.characters → other.Blank →
    other.Spaced → ∃ shifted, tokenize other.text = .ok shifted ∧ other.Shows other.text shifted ∧
      shifted.map Token.lexeme = tokens.map Token.lexeme
  /-- No lexeme, be it a number, a text, a name or a symbol, needs a gap before or after the range
  symbol. -/
  between : ∀ left right lower upper, Spells left lower → Spells right upper →
    tokenize (String.ofList (left ++ '.' :: '.' :: right)) =
      .ok [⟨lower, 0⟩, ⟨.symbol .range, left.length⟩, ⟨upper, left.length + 2⟩]

/-- No gap is needed around the range symbol. -/
theorem tokenize_between {left right : List Char} {lower upper : Lexeme}
    (first : Spells left lower) (last : Spells right upper) :
    tokenize (String.ofList (left ++ '.' :: '.' :: right)) =
      .ok [⟨lower, 0⟩, ⟨.symbol .range, left.length⟩, ⟨upper, left.length + 2⟩] := by
  have range : Lexer.lexeme '.' ('.' :: right) = .ok ⟨.symbol .range, 1⟩ :=
    (Lexer.Takes.symbol rfl).lexeme
  have solid : Text.isBlank '.' = false := by decide
  have ends : Lexer.Ends lower ('.' :: '.' :: right) := .ofRange
  rw [tokenize_eq_ok_iff, String.toList_ofList]
  refine Lexer.tokensFrom_word first ends ?_
  simp only [Lexer.tokensFrom, solid, range, List.drop_succ_cons, List.drop_zero, Nat.zero_add,
    Lexer.tokensFrom_lastWord _ last]
  rfl

/-- Texts are read word by word, whatever blanks stand between the words. -/
theorem readByWords : ReadByWords := by
  constructor
  · intro text tokens read
    obtain ⟨layout, found⟩ := Layout.exists_found (tokenize_eq_ok_iff.mp read)
    have whole : layout.text = text := by
      rw [Layout.text, found.spelled_eq, String.ofList_toList]
    refine ⟨layout, whole, found.blank, found.words, found.positions, fun _ => ?_⟩
    rw [found.spelled_eq, String.length_toList]
    rfl
  · intro text tokens layout other shows words blank spaced
    have spelling := shows.words
    rw [← words] at spelling
    obtain ⟨shifted, read, same, placed⟩ :=
      Layout.tokensFrom_words 0 spelling blank.gaps spaced blank.ending
    have whole : tokenize other.text = .ok shifted := by
      rw [tokenize_eq_ok_iff, Layout.text, String.toList_ofList, read]
    refine ⟨shifted, whole, ⟨rfl, blank, ?_, placed, fun _ => ?_⟩, same⟩
    · rwa [same]
    · rw [Layout.text, ← String.length_ofList]
      rfl
  · intro left right lower upper first last
    exact tokenize_between first last

def crowdedComparison : Layout :=
  ⟨[⟨[], ['a', 'g', 'e']⟩, ⟨[], ['>', '=']⟩, ⟨[], ['1', '8']⟩], []⟩

def roomyComparison : Layout :=
  ⟨[⟨[], ['a', 'g', 'e']⟩, ⟨['\t', ' '], ['>', '=']⟩, ⟨['\n'], ['1', '8']⟩], [' ']⟩

def crowdedTokens : List Token :=
  [⟨.name "age", 0⟩, ⟨.symbol .atLeast, 3⟩, ⟨.integer 18, 5⟩]

open Lexer in
theorem crowdedComparison_relaid :
    crowdedComparison.Shows "age>=18" crowdedTokens ∧
      ∃ shifted, tokenize "age\t >=\n18 " = .ok shifted ∧
        roomyComparison.Shows "age\t >=\n18 " shifted ∧
        shifted.map Token.lexeme = crowdedTokens.map Token.lexeme := by
  have name : Spells ['a', 'g', 'e'] (.name "age") := (Takes.name rfl).spells (by decide)
  have atLeast : Spells ['>', '='] (.symbol .atLeast) := (Takes.symbol rfl).spells (by decide)
  have number : Spells ['1', '8'] (.integer 18) := (Takes.number rfl rfl).spells (by decide)
  have shows : crowdedComparison.Shows "age>=18" crowdedTokens :=
    ⟨rfl, ⟨by decide, by decide⟩, .cons name (.cons atLeast (.cons number .nil)), rfl,
      fun _ => rfl⟩
  exact ⟨shows, readByWords.relaid _ _ _ roomyComparison shows rfl ⟨by decide, by decide⟩
    (by decide)⟩

end DecisionTables
