import Mathlib.Data.List.Sort
import DecisionTables.Proofs.Expression.Lexemes
import DecisionTables.Proofs.Expression.Parsing
import DecisionTables.Proofs.Model.OutputValues

/-!
# Output values and their tokens

A list of output values is divided character by character, before any of them is read. The tokens of
the list say where that should happen: at the commas outside all brackets. The reader of the list
divides it there unless a quoted text holds a quotation mark. The tokens know an escaped mark, the
reader of the list takes it for the end of the text, and from there on it may take what is quoted for
what is not. The list is divided as its tokens say exactly if no comma is misjudged so.
-/

namespace DecisionTables

/-- How much deeper in brackets a lexeme leads. -/
def Lexeme.nesting : Lexeme → Int
  | .symbol .openParenthesis | .symbol .openBracket => 1
  | .symbol .closeParenthesis | .symbol .closeBracket => -1
  | _ => 0

/-- Whether a lexeme is no text with a quotation mark in it. -/
def Lexeme.Unmarked (lexeme : Lexeme) : Prop :=
  ∀ content, lexeme = .text content → '"' ∉ content.toList

namespace OutputValues

/-! ## Dividing a text -/

/-- The offsets of the commas outside all brackets, among tokens of which the first stands at a
depth. -/
def separators (depth : Int) : List Token → List Nat
  | [] => []
  | token :: rest =>
      if token.lexeme = .symbol .comma ∧ depth = 0 then token.position :: separators depth rest
      else separators (depth + token.lexeme.nesting) rest

/-- The characters between some offsets, where the first character has the offset `start`. -/
def between (start : Nat) (characters : List Char) : List Nat → List (List Char)
  | [] => [characters]
  | cut :: cuts =>
      characters.take (cut - start) :: between (cut + 1) (characters.drop (cut + 1 - start)) cuts

/-- The pieces of a text between some offsets. -/
def pieces (text : String) (cuts : List Nat) : List String :=
  (between 0 text.toList cuts).map String.ofList

/-- Pieces without the blanks at their ends. A last piece that is blank does not count. -/
def listed (pieces : List String) : List String :=
  let values := pieces.map Text.trim
  if values.getLast? = some "" then values.dropLast else values

theorem between_ne_nil {start : Nat} {characters : List Char} {cuts : List Nat} :
    between start characters cuts ≠ [] := by
  cases cuts <;> simp [between]

theorem listed_cons {first : String} {rest : List String} (more : rest ≠ []) :
    listed (first :: rest) = Text.trim first :: listed rest := by
  have values : rest.map Text.trim ≠ [] := by simpa using more
  simp only [listed, List.map_cons, List.getLast?_cons_of_ne_nil values]
  split
  · rw [List.dropLast_cons_of_ne_nil values]
  · rfl

/-! ## The commas that separate -/

theorem Nesting.after_comma (place : Nesting) : place.after ',' = place := by
  simp [Nesting.after]

/-- The offsets of the commas at which the reader of a list divides it. -/
def cuts (place : Nesting) (start : Nat) : List Char → List Nat
  | [] => []
  | character :: rest =>
      if character = ',' ∧ place.separates = true then start :: cuts place (start + 1) rest
      else cuts (place.after character) (start + 1) rest

/-- The values of a list are its pieces between the commas that separate. -/
theorem splitFrom_eq_listed (place : Nesting) (start : Nat) (current rest : List Char) :
    (splitFrom place current rest).map String.ofList =
      listed ((between start (current.reverse ++ rest)
        (cuts place (start + current.length) rest)).map String.ofList) := by
  induction rest generalizing place start current with
  | nil =>
      cases blank : (Text.trimmed current.reverse).isEmpty with
      | true => simp_all [splitFrom, cuts, between, listed, Text.trim]
      | false => simp_all [splitFrom, cuts, between, listed, Text.trim]
  | cons character rest ih =>
      rw [splitFrom, cuts]
      by_cases separates : character = ',' ∧ place.separates = true
      · rcases separates with ⟨rfl, separates⟩
        have more : (between (start + current.length + 1) rest
            (cuts place (start + current.length + 1) rest)).map String.ofList ≠ [] := by
          simpa using between_ne_nil
        have following := ih place (start + current.length + 1) []
        simp only [List.reverse_nil, List.nil_append, List.length_nil, Nat.add_zero] at following
        have dropped : (current.reverse ++ ',' :: rest).drop (current.length + 1) = rest := by
          rw [List.drop_append]
          simp
        have counted : start + current.length + 1 - start = current.length + 1 := by omega
        simp only [beq_self_eq_true, separates, Bool.and_self, if_true, and_self, List.map_cons,
          between, Nat.add_sub_cancel_left, counted, dropped, listed_cons more, following]
        simp [Text.trim]
      · have together : (character == ',' && place.separates) = false := by
          simpa [← Bool.not_eq_true] using separates
        have following := ih (place.after character) start (character :: current)
        simpa [separates, together, Nat.add_assoc] using following

theorem split_eq_listed (text : String) :
    split text = listed (pieces text (cuts .outside 0 text.toList)) :=
  splitFrom_eq_listed .outside 0 [] text.toList

theorem cuts_append (place : Nesting) (start : Nat) (front rest : List Char) :
    cuts place start (front ++ rest) =
      cuts place start front ++
        cuts (front.foldl Nesting.after place) (start + front.length) rest := by
  induction front generalizing place start with
  | nil => rfl
  | cons character front ih =>
      have counted : start + 1 + front.length = start + (front.length + 1) := by omega
      rw [List.cons_append, cuts, cuts]
      split
      · rename_i separates
        rw [ih, List.cons_append, List.foldl_cons, separates.1, Nesting.after_comma, counted,
          List.length_cons]
      · rw [ih, List.foldl_cons, counted, List.length_cons]

theorem mem_cuts_cons {place : Nesting} {start position : Nat} {character : Char}
    {rest : List Char} : position ∈ cuts place start (character :: rest) ↔
      position = start ∧ character = ',' ∧ place.separates = true ∨
        position ∈ cuts (place.after character) (start + 1) rest := by
  rw [cuts]
  split
  · rename_i separates
    rw [List.mem_cons, separates.1, Nesting.after_comma]
    simp [separates.2]
  · rename_i joins
    simp [joins]

/-- A comma separates according to the characters before it. -/
theorem mem_cuts_iff {place : Nesting} {start position : Nat} {characters : List Char} :
    position ∈ cuts place start characters ↔
      start ≤ position ∧ characters[position - start]? = some ',' ∧
        ((characters.take (position - start)).foldl Nesting.after place).separates = true := by
  induction characters generalizing place start with
  | nil => simp [cuts]
  | cons character rest ih =>
      rw [mem_cuts_cons, ih]
      rcases Nat.lt_trichotomy position start with before | rfl | behind
      · simp [Nat.not_le.mpr before, Nat.ne_of_lt before, Nat.not_le.mpr (Nat.lt_succ_of_lt before)]
      · have later : ¬position + 1 ≤ position := Nat.not_succ_le_self position
        simp [later]
      · have counted : position - start = position - (start + 1) + 1 := by omega
        rw [counted, List.getElem?_cons_succ, List.take_succ_cons, List.foldl_cons]
        simp [Nat.le_of_lt behind, Nat.succ_le_of_lt behind, Nat.ne_of_gt behind]

/-! ## Pieces tell where they were divided -/

/-- Whether offsets are those of some commas, in order. -/
structure AreCommas (start : Nat) (characters : List Char) (offsets : List Nat) : Prop where
  ascending : offsets.Pairwise (· < ·)
  commas : ∀ offset ∈ offsets, start ≤ offset ∧ characters[offset - start]? = some ','

theorem cuts_areCommas (place : Nesting) (start : Nat) (characters : List Char) :
    AreCommas start characters (cuts place start characters) := by
  constructor
  · induction characters generalizing place start with
    | nil => exact .nil
    | cons character rest ih =>
        rw [cuts]
        split
        · apply List.Pairwise.cons _ (ih place (start + 1))
          intro later among
          exact (mem_cuts_iff.mp among).1
        · exact ih (place.after character) (start + 1)
  · intro offset among
    have shown := mem_cuts_iff.mp among
    exact ⟨shown.1, shown.2.1⟩

/-- The offsets after the first are those of commas among the characters after it. -/
theorem AreCommas.tail {start first : Nat} {characters : List Char} {offsets : List Nat}
    (areCommas : AreCommas start characters (first :: offsets)) :
    AreCommas (first + 1) (characters.drop (first + 1 - start)) offsets := by
  have ordered := List.pairwise_cons.mp areCommas.ascending
  refine ⟨ordered.2, fun offset among => ?_⟩
  have behind := ordered.1 offset among
  have comma := areCommas.commas offset (List.mem_cons_of_mem _ among)
  have begins := (areCommas.commas first List.mem_cons_self).1
  refine ⟨behind, ?_⟩
  rw [List.getElem?_drop, show first + 1 - start + (offset - (first + 1)) = offset - start by omega]
  exact comma.2

/-- The offsets of commas among later characters are those of commas among all of them. -/
theorem AreCommas.of_drop {start skipped : Nat} {characters : List Char} {offsets : List Nat}
    (areCommas : AreCommas (start + skipped) (characters.drop skipped) offsets) :
    AreCommas start characters offsets := by
  refine ⟨areCommas.ascending, fun offset among => ?_⟩
  obtain ⟨behind, comma⟩ := areCommas.commas offset among
  rw [List.getElem?_drop, show skipped + (offset - (start + skipped)) = offset - start by omega]
    at comma
  exact ⟨by omega, comma⟩

theorem count_dropBlanks (characters : List Char) :
    (characters.dropWhile Text.isBlank).count ',' = characters.count ',' := by
  have none : (characters.takeWhile Text.isBlank).count ',' = 0 := by
    rw [List.count_eq_zero]
    intro among
    exact absurd (List.mem_takeWhile_imp among) (by decide)
  calc (characters.dropWhile Text.isBlank).count ','
    _ = (characters.takeWhile Text.isBlank ++ characters.dropWhile Text.isBlank).count ',' := by
        rw [List.count_append, none, Nat.zero_add]
    _ = characters.count ',' := by rw [List.takeWhile_append_dropWhile]

/-- No comma is lost with the blanks at the ends of a text. -/
theorem count_trim (text : String) :
    (Text.trim text).toList.count ',' = text.toList.count ',' := by
  rw [Text.trim, String.toList_ofList, Text.trimmed, List.count_reverse, count_dropBlanks,
    List.count_reverse, count_dropBlanks]

def commas : List String → Nat
  | [] => 0
  | text :: texts => text.toList.count ',' + commas texts

/-- The commas of a text stand in its values or divide them. -/
theorem commas_listed {start : Nat} {characters : List Char} {offsets : List Nat}
    (areCommas : AreCommas start characters offsets) :
    commas (listed ((between start characters offsets).map String.ofList)) + offsets.length =
      characters.count ',' := by
  induction offsets generalizing start characters with
  | nil =>
      have kept := count_trim (String.ofList characters)
      rw [String.toList_ofList] at kept
      rw [← kept]
      by_cases blank : Text.trim (String.ofList characters) = ""
      · simp [between, listed, commas, blank]
      · simp [between, listed, commas, blank]
  | cons first offsets ih =>
      have comma := (areCommas.commas first List.mem_cons_self)
      have following := ih areCommas.tail
      have more : (between (first + 1) (characters.drop (first + 1 - start)) offsets).map
          String.ofList ≠ [] := by
        simpa using between_ne_nil
      have counted : first + 1 - start = first - start + 1 := by omega
      have divided : characters.count ',' = (characters.take (first - start)).count ',' +
          (1 + (characters.drop (first + 1 - start)).count ',') := by
        obtain ⟨inside, found⟩ := List.getElem?_eq_some_iff.mp comma.2
        conv_lhs => rw [← List.take_append_drop (first - start) characters]
        rw [List.count_append, List.drop_eq_getElem_cons inside, found, List.count_cons_self,
          counted, Nat.add_comm 1]
      rw [between, List.map_cons, listed_cons more, divided, ← following]
      simp only [commas, List.length_cons, count_trim, String.toList_ofList]
      omega

theorem count_take_lt {characters : List Char} {first second : Nat} (before : first < second)
    (comma : characters[first]? = some ',') :
    (characters.take first).count ',' < (characters.take second).count ',' := by
  calc (characters.take first).count ','
    _ < (characters.take (first + 1)).count ',' := by simp [List.take_add_one, comma]
    _ ≤ (characters.take second).count ',' :=
        (List.take_sublist_take_left before).count_le ','

/-- A piece tells at which comma it ends. -/
theorem eq_of_trim_take {characters : List Char} {first second : Nat}
    (firstComma : characters[first]? = some ',') (secondComma : characters[second]? = some ',')
    (same : Text.trim (String.ofList (characters.take first)) =
      Text.trim (String.ofList (characters.take second))) : first = second := by
  have counted := congrArg (fun text => text.toList.count ',') same
  simp only [count_trim, String.toList_ofList] at counted
  rcases Nat.lt_trichotomy first second with before | equal | behind
  · exact absurd counted (Nat.ne_of_lt (count_take_lt before firstComma))
  · exact equal
  · exact absurd counted (Nat.ne_of_gt (count_take_lt behind secondComma))

/-- The values of a list tell at which commas it was divided. -/
theorem listed_injective {start : Nat} {characters : List Char} {first second : List Nat}
    (firstCommas : AreCommas start characters first)
    (secondCommas : AreCommas start characters second)
    (same : listed ((between start characters first).map String.ofList) =
      listed ((between start characters second).map String.ofList)) : first = second := by
  have number : first.length = second.length := by
    have counted := commas_listed firstCommas
    rw [same, ← commas_listed secondCommas] at counted
    exact Nat.add_left_cancel counted
  induction first generalizing start characters second with
  | nil => exact (List.eq_nil_of_length_eq_zero number.symm).symm
  | cons cut first ih =>
      cases second with
      | nil => cases number
      | cons other second =>
          rw [between, between, List.map_cons, List.map_cons,
            listed_cons (by simpa using between_ne_nil),
            listed_cons (by simpa using between_ne_nil), List.cons.injEq] at same
          have here := firstCommas.commas cut List.mem_cons_self
          have there := secondCommas.commas other List.mem_cons_self
          have offset := eq_of_trim_take here.2 there.2 same.1
          obtain rfl : cut = other := by omega
          rw [ih firstCommas.tail secondCommas.tail same.2 (Nat.succ.inj number)]

/-! ## The characters of a lexeme -/

/-- Whether characters lead from any unquoted place to where their lexeme does. -/
structure Leads (characters : List Char) (lexeme : Lexeme) : Prop where
  cuts_eq : ∀ depth start, cuts ⟨depth, false⟩ start characters =
    if lexeme = .symbol .comma ∧ depth = 0 then [start] else []
  place_eq : ∀ depth,
    characters.foldl Nesting.after ⟨depth, false⟩ = ⟨depth + lexeme.nesting, false⟩

theorem Nesting.after_unmarked {character : Char} (unmarked : character ∉ marks)
    (place : Nesting) : place.after character = place := by
  simp only [marks, List.mem_cons, List.not_mem_nil, or_false, not_or] at unmarked
  simp [Nesting.after, unmarked]

/-- Characters without marks lead nowhere else. -/
theorem place_unmarked {characters : List Char}
    (unmarked : ∀ character ∈ characters, character ∉ marks) (place : Nesting) (start : Nat) :
    cuts place start characters = [] ∧ characters.foldl Nesting.after place = place := by
  induction characters generalizing start with
  | nil => exact ⟨rfl, rfl⟩
  | cons character characters ih =>
      obtain ⟨plain, others⟩ := List.forall_mem_cons.mp unmarked
      have comma : character ≠ ',' := by
        rintro rfl
        exact plain List.mem_cons_self
      rw [cuts, List.foldl_cons, Nesting.after_unmarked plain, if_neg fun shown => comma shown.1]
      exact ih others (start + 1)

/-- Whether a lexeme is neither a comma nor a bracket. -/
structure Flat (lexeme : Lexeme) : Prop where
  joins : lexeme ≠ .symbol .comma
  level : lexeme.nesting = 0

theorem leads_unmarked {characters : List Char} {lexeme : Lexeme}
    (unmarked : ∀ character ∈ characters, character ∉ marks)
    (flat : Flat lexeme) : Leads characters lexeme := by
  constructor
  · intro depth start
    rw [(place_unmarked unmarked _ start).1, if_neg fun comma => flat.joins comma.1]
  · intro depth
    rw [(place_unmarked unmarked _ 0).2, flat.level, Int.add_zero]

/-- Within quotation marks nothing separates and no bracket counts. -/
theorem place_quoted {body : List Char} (closed : '"' ∉ body) (depth : Int) (start : Nat) :
    cuts ⟨depth, true⟩ start body = [] ∧ body.foldl Nesting.after ⟨depth, true⟩ = ⟨depth, true⟩ := by
  induction body generalizing start with
  | nil => exact ⟨rfl, rfl⟩
  | cons character body ih =>
      rw [List.mem_cons, not_or] at closed
      have stays : Nesting.after ⟨depth, true⟩ character = ⟨depth, true⟩ := by
        simp [Nesting.after, Ne.symm closed.1]
      rw [cuts, List.foldl_cons, stays, if_neg (by simp [Nesting.separates])]
      exact ih closed.2 (start + 1)

theorem leads_quoted {body : List Char} (closed : '"' ∉ body) (content : String) :
    Leads ('"' :: body ++ ['"']) (.text content) := by
  have opens (depth : Int) : Nesting.after ⟨depth, false⟩ '"' = ⟨depth, true⟩ := rfl
  have closes (depth : Int) : Nesting.after ⟨depth, true⟩ '"' = ⟨depth, false⟩ := rfl
  constructor
  · intro depth start
    rw [List.cons_append, cuts, if_neg fun comma => absurd comma.1 (by decide), opens, cuts_append,
      (place_quoted closed depth _).1, (place_quoted closed depth 0).2]
    simp [cuts]
  · intro depth
    rw [List.cons_append, List.foldl_cons, opens, List.foldl_append,
      (place_quoted closed depth 0).2, List.foldl_cons, closes, List.foldl_nil]
    simp [Lexeme.nesting]

theorem leads_comma : Leads [','] (.symbol .comma) := by
  constructor
  · intro depth start
    simp [cuts, Nesting.separates]
  · intro depth
    simp [Nesting.after, Lexeme.nesting]

theorem leads_bracket {bracket : Char} {lexeme : Lexeme} (other : bracket ≠ ',')
    (flat : lexeme ≠ .symbol .comma)
    (turns : ∀ depth, Nesting.after ⟨depth, false⟩ bracket = ⟨depth + lexeme.nesting, false⟩) :
    Leads [bracket] lexeme := by
  constructor
  · intro depth start
    simp [cuts, other, flat]
  · exact turns

theorem leads_symbol {first : Char} {rest : List Char} {symbol : Symbol} {further : Nat}
    (read : Lexer.symbol? (first :: rest) = some (symbol, further)) :
    further ≤ rest.length ∧ Leads (first :: rest.take further) (.symbol symbol) := by
  unfold Lexer.symbol? at read
  split at read
  case h_18 => cases read
  all_goals rename_i shown; cases shown; cases read
  all_goals first
    | exact ⟨Nat.zero_le _, leads_comma⟩
    | exact ⟨Nat.zero_le _, leads_bracket (by decide) (by simp) fun _ => rfl⟩
    | exact ⟨by simp, leads_unmarked (by simp [marks]) ⟨by simp, rfl⟩⟩

/-- No letter, no digit and no blank is a mark. -/
theorem not_mem_marks {character : Char}
    (shown : Lexer.continuesName character = true ∨ Text.isAsciiDigit character = true ∨
      character = '.' ∨ Text.isBlank character = true) : character ∉ marks := by
  have none : (marks.all fun mark => !(Lexer.continuesName mark || Text.isAsciiDigit mark ||
      mark == '.' || Text.isBlank mark)) = true := by decide
  intro among
  have unlike := List.all_eq_true.mp none character among
  simp only [Bool.not_eq_true', Bool.or_eq_false_iff, beq_eq_false_iff_ne] at unlike
  obtain ⟨⟨⟨name, digit⟩, point⟩, blank⟩ := unlike
  simp [name, digit, point, blank] at shown

/-- The characters of a lexeme lead to where the lexeme does, if it is no text with a quotation mark
in it. -/
theorem leads_lexeme {first : Char} {rest : List Char} {lexed : Lexed}
    (read : Lexer.lexeme first rest = .ok lexed) (unmarked : lexed.lexeme.Unmarked) :
    lexed.further ≤ rest.length ∧ Leads (first :: rest.take lexed.further) lexed.lexeme := by
  unfold Lexer.lexeme at read
  split at read
  · rename_i starts
    obtain ⟨number, within, shown⟩ := Lexer.number_extent starts read
    refine ⟨Nat.le_of_lt_succ within, leads_unmarked ?_ ?_⟩
    · intro character among
      exact not_mem_marks (.inr ((shown character among).imp id .inl))
    · rcases number with ⟨value, same⟩ | ⟨value, same⟩
      · rw [same]
        exact ⟨nofun, rfl⟩
      · rw [same]
        exact ⟨nofun, rfl⟩
  split at read
  · rename_i quoted
    rw [beq_iff_eq] at quoted
    split at read
    · rename_i content count closes
      cases read
      have plain : '"' ∉ content := by simpa using unmarked _ rfl
      obtain ⟨body, tail, rfl, rfl, closed⟩ := Lexer.quotedText?_extent closes plain
      refine ⟨by simp, ?_⟩
      have taken : (body ++ '"' :: tail).take (body.length + 1) = body ++ ['"'] := by
        rw [List.take_length_add_append]
        rfl
      rw [taken, quoted]
      exact leads_quoted closed _
    · cases read
  split at read
  · rename_i starts
    cases read
    obtain ⟨within, shown⟩ := Lexer.nameLength_extent rest
    refine ⟨within, leads_unmarked ?_ ⟨nofun, rfl⟩⟩
    rw [List.forall_mem_cons]
    constructor
    · apply not_mem_marks (.inl _)
      simp only [Lexer.startsName, Bool.or_eq_true] at starts
      simp only [Lexer.continuesName, Text.isAlphanumeric, Bool.or_eq_true]
      exact starts.imp .inl id
    · intro character among
      exact not_mem_marks ((shown character among).imp id fun point => .inr (.inl point))
  · split at read
    · rename_i symbol further found
      cases read
      exact leads_symbol found
    · cases read

/-! ## The tokens of a text -/

/-- Where the tokens lead in brackets. -/
def depthAfter (depth : Int) : List Token → Int
  | [] => depth
  | token :: tokens => depthAfter (depth + token.lexeme.nesting) tokens

/-- The characters of some tokens separate where the tokens do, if no text among them has a quotation
mark in it. -/
theorem cuts_eq_separators {start : Nat} {characters : List Char} {tokens : List Token}
    (read : Lexer.tokensFrom start characters = .ok tokens)
    (unmarked : ∀ token ∈ tokens, token.lexeme.Unmarked) (depth : Int) :
    cuts ⟨depth, false⟩ start characters = separators depth tokens ∧
      characters.foldl Nesting.after ⟨depth, false⟩ = ⟨depthAfter depth tokens, false⟩ := by
  -- The cases are those of the lexical analysis, of which those that fail are excluded.
  fun_induction Lexer.tokensFrom start characters generalizing tokens depth with
  | case1 start =>
      cases read
      simp [cuts, separators, depthAfter]
  | case2 start first rest blank ih =>
      have plain := not_mem_marks (.inr (.inr (.inr blank)))
      have other : ¬(first = ',' ∧ Nesting.separates ⟨depth, false⟩ = true) := by
        rintro ⟨rfl, _⟩
        exact plain List.mem_cons_self
      rw [cuts, if_neg other, List.foldl_cons, Nesting.after_unmarked plain]
      exact ih read unmarked depth
  | case3 start first rest shown error failed => cases read
  | case4 start first rest shown lexed found error failed ih => cases read
  | case5 start first rest shown lexed found tokens succeeded ih =>
      cases read
      obtain ⟨plain, others⟩ := List.forall_mem_cons.mp unmarked
      obtain ⟨within, leads⟩ := leads_lexeme found plain
      obtain ⟨followingCuts, followingPlace⟩ :=
        ih succeeded others (depth + lexed.lexeme.nesting)
      have whole : first :: rest =
          (first :: rest.take lexed.further) ++ rest.drop lexed.further := by simp
      have counted : start + (first :: rest.take lexed.further).length =
          start + 1 + lexed.further := by
        rw [List.length_cons, List.length_take_of_le within]
        omega
      constructor
      · rw [whole, cuts_append, leads.cuts_eq, leads.place_eq, counted, followingCuts, separators]
        split
        · rename_i comma
          simp [comma.1, Lexeme.nesting]
        · rfl
      · rw [whole, List.foldl_append, leads.place_eq, followingPlace, depthAfter]

theorem first_of_comma {first : Char} {rest : List Char} {lexed : Lexed}
    (read : Lexer.lexeme first rest = .ok lexed) (comma : lexed.lexeme = .symbol .comma) :
    first = ',' := by
  have unmarked : lexed.lexeme.Unmarked := fun content text => by
    rw [comma] at text
    cases text
  have divides := (leads_lexeme read unmarked).2.cuts_eq 0 0
  rw [if_pos ⟨comma, rfl⟩] at divides
  have first : 0 ∈ cuts ⟨0, false⟩ 0 (first :: rest.take lexed.further) := by
    rw [divides]
    exact List.mem_cons_self
  simpa using (mem_cuts_iff.mp first).2.1

/-- The offsets at which tokens separate are those of commas. -/
theorem separators_areCommas {start : Nat} {characters : List Char} {tokens : List Token}
    (read : Lexer.tokensFrom start characters = .ok tokens) (depth : Int) :
    AreCommas start characters (separators depth tokens) := by
  fun_induction Lexer.tokensFrom start characters generalizing tokens depth with
  | case1 start =>
      cases read
      exact ⟨.nil, fun _ among => nomatch among⟩
  | case2 start first rest blank ih => exact @AreCommas.of_drop start 1 (first :: rest) _ (ih read depth)
  | case3 start first rest shown error failed => cases read
  | case4 start first rest shown lexed found error failed ih => cases read
  | case5 start first rest shown lexed found tokens succeeded ih =>
      cases read
      have following (depth : Int) : AreCommas (start + (1 + lexed.further))
          ((first :: rest).drop (1 + lexed.further)) (separators depth tokens) := by
        rw [Nat.add_comm 1, List.drop_succ_cons, ← Nat.add_assoc, Nat.add_right_comm]
        exact ih succeeded depth
      rw [separators]
      split
      · rename_i comma
        have later := following depth
        constructor
        · apply List.Pairwise.cons _ later.ascending
          intro offset among
          have behind := (later.commas offset among).1
          change start < offset
          omega
        · rw [List.forall_mem_cons]
          refine ⟨⟨Nat.le_refl _, ?_⟩, later.of_drop.commas⟩
          rw [Nat.sub_self, List.getElem?_cons_zero, first_of_comma found comma.1]
      · exact (following _).of_drop

/-! ## The tokens of an expression -/

section Expressions

open Grammar

variable {part : Part} {tree : Tree} {token : Token} {tokens middle rest : List Token}

/-- Whether tokens before a rest separate nothing and close the brackets that they open. -/
structure Closed (tokens rest : List Token) : Prop where
  separators_eq : ∀ depth, separators depth tokens = separators depth rest
  depth_eq : ∀ depth, depthAfter depth tokens = depthAfter depth rest

theorem Closed.refl (tokens : List Token) : Closed tokens tokens :=
  ⟨fun _ => rfl, fun _ => rfl⟩

theorem Closed.trans (first : Closed tokens middle) (second : Closed middle rest) :
    Closed tokens rest :=
  ⟨fun depth => (first.separators_eq depth).trans (second.separators_eq depth),
    fun depth => (first.depth_eq depth).trans (second.depth_eq depth)⟩

theorem Flat.closed (flat : Flat token.lexeme) (rest : List Token) :
    Closed (token :: rest) rest := by
  constructor
  · intro depth
    rw [separators, if_neg fun comma => flat.joins comma.1, flat.level, Int.add_zero]
  · intro depth
    rw [depthAfter, flat.level, Int.add_zero]

theorem Flat.of_operator {level : Level} {operator : Operator}
    (found : level.operator? token.lexeme = some operator) : Flat token.lexeme := by
  constructor
  · intro comma
    rw [comma] at found
    cases level <;> cases found
  · rcases token with ⟨_ | _ | _ | _ | symbol, position⟩
    case symbol => cases symbol <;> first | rfl | (cases level <;> cases found)
    all_goals rfl

theorem Flat.of_literal {value : Value} (found : literal? token.lexeme = some value) :
    Flat token.lexeme := by
  rcases token with ⟨_ | _ | _ | _ | symbol, position⟩
  case symbol => cases found
  all_goals exact ⟨nofun, rfl⟩

theorem Flat.of_name {word : String} (named : token.lexeme = .name word) : Flat token.lexeme :=
  named ▸ ⟨nofun, rfl⟩

/-- Parentheses are closed if what they enclose is. -/
theorem Closed.enclosed {opening closing : Token}
    (opens : opening.lexeme = .symbol .openParenthesis)
    (inner : Closed tokens (closing :: rest))
    (closes : closing.lexeme = .symbol .closeParenthesis) : Closed (opening :: tokens) rest := by
  have turns : opening.lexeme.nesting = 1 ∧ closing.lexeme.nesting = -1 := by
    rw [opens, closes]
    exact ⟨rfl, rfl⟩
  have openingJoins : ¬(opening.lexeme = .symbol .comma) := by rw [opens]; exact nofun
  have closingJoins : ¬(closing.lexeme = .symbol .comma) := by rw [closes]; exact nofun
  constructor
  · intro depth
    rw [separators, if_neg fun comma => openingJoins comma.1, inner.separators_eq, separators,
      if_neg fun comma => closingJoins comma.1, turns.1, turns.2, Int.add_neg_cancel_right]
  · intro depth
    rw [depthAfter, inner.depth_eq, depthAfter, turns.1, turns.2,
      Int.add_neg_cancel_right]

/-- No comma of an expression separates, and its parentheses are closed. -/
theorem closed_of_derives (derives : Derives part tree tokens rest) : Closed tokens rest := by
  induction derives with
  | loop _ _ _ first further => exact first.trans further
  | stop => exact .refl _
  | extend found _ _ operand further =>
      exact ((Flat.of_operator found).closed _).trans (operand.trans further)
  | uncompared _ sum => exact sum
  | compared _ found _ left right =>
      exact left.trans (((Flat.of_operator found).closed _).trans right)
  | @minus _ token _ _ sign _ operand =>
      have flat : Flat token.lexeme := sign ▸ ⟨nofun, rfl⟩
      exact (flat.closed _).trans operand
  | complement named opens _ closes inner =>
      exact ((Flat.of_name named).closed _).trans (inner.enclosed opens closes)
  | unsigned _ primary => exact primary
  | literal found => exact (Flat.of_literal found).closed _
  | name named _ _ => exact (Flat.of_name named).closed _
  | call named _ opens _ closes inner =>
      exact ((Flat.of_name named).closed _).trans (inner.enclosed opens closes)
  | @subject token _ marked =>
      have flat : Flat token.lexeme := marked ▸ ⟨nofun, rfl⟩
      exact flat.closed _
  | enclosed opens _ closes inner => exact inner.enclosed opens closes

end Expressions

/-! ## Lists of expressions -/

/-- Whether a text is an expression without a quotation mark in a quoted text. -/
structure UnmarkedExpression (text : String) : Prop where
  parses : ∃ expression, Expression.parse text = .ok expression
  unmarked : ∀ tokens, tokenize text = .ok tokens → ∀ token ∈ tokens, token.lexeme.Unmarked

/-- Whether characters separate nothing and lead outside again. -/
structure Whole (characters : List Char) : Prop where
  cuts_eq : ∀ start, cuts .outside start characters = []
  place_eq : characters.foldl Nesting.after .outside = .outside

theorem UnmarkedExpression.whole {text : String} (expression : UnmarkedExpression text) :
    Whole text.toList := by
  obtain ⟨_, parsed⟩ := expression.parses
  unfold Expression.parse at parsed
  split at parsed
  · rename_i blank
    have plain : ∀ character ∈ text.toList, character ∉ marks := by
      intro character among
      exact not_mem_marks (.inr (.inr (.inr (List.all_eq_true.mp blank character among))))
    exact ⟨fun start => (place_unmarked plain .outside start).1, (place_unmarked plain .outside 0).2⟩
  split at parsed
  · cases parsed
  · rename_i tokens tokenized
    split at parsed
    · rename_i read
      obtain ⟨tree, derives, _⟩ := Grammar.read_complete_iff.mp read
      have closed := closed_of_derives derives
      obtain ⟨divides, leads⟩ := cuts_eq_separators (tokenize_eq_ok_iff.mp tokenized)
        (expression.unmarked tokens tokenized) 0
      rw [closed.separators_eq] at divides
      rw [closed.depth_eq] at leads
      refine ⟨fun start => ?_, leads⟩
      rw [List.eq_nil_iff_forall_not_mem]
      intro position among
      have nowhere : position - start ∉ cuts .outside 0 text.toList :=
        divides ▸ List.not_mem_nil
      exact nowhere (mem_cuts_iff.mpr ⟨Nat.zero_le _, (mem_cuts_iff.mp among).2⟩)
    · cases parsed

/-- Whole texts are the pieces of the list that joins them. -/
theorem between_joined {values : List String} (whole : ∀ value ∈ values, Whole value.toList)
    (some : values ≠ []) (start : Nat) :
    between start (Text.joinWith "," values).toList
      (cuts .outside start (Text.joinWith "," values).toList) = values.map String.toList := by
  induction values generalizing start with
  | nil => exact absurd rfl some
  | cons first rest ih =>
      obtain ⟨clean, others⟩ := List.forall_mem_cons.mp whole
      cases rest with
      | nil => simp [Text.joinWith, clean.cuts_eq, between]
      | cons second rest =>
          have following := ih others (List.cons_ne_nil _ _) (start + first.toList.length + 1)
          have joined : (Text.joinWith "," (first :: second :: rest)).toList =
              first.toList ++ ',' :: (Text.joinWith "," (second :: rest)).toList := by
            simp [Text.joinWith]
          have divided : cuts .outside start (Text.joinWith "," (first :: second :: rest)).toList =
              (start + first.toList.length) :: cuts .outside (start + first.toList.length + 1)
                (Text.joinWith "," (second :: rest)).toList := by
            rw [joined, cuts_append, clean.cuts_eq, clean.place_eq, cuts]
            rfl
          have counted : start + first.toList.length + 1 - start = first.toList.length + 1 := by
            omega
          rw [divided, joined, between, Nat.add_sub_cancel_left, counted,
            List.take_left, List.drop_length_add_append, List.drop_one, List.tail_cons, following]
          rfl

/-- A list of whole texts is divided into them. -/
theorem split_joined_whole {values : List String} (whole : ∀ value ∈ values, Whole value.toList) :
    split (Text.joinWith "," values) = listed values := by
  cases values with
  | nil => rfl
  | cons first rest =>
      rw [split_eq_listed, pieces, between_joined whole (List.cons_ne_nil _ _), List.map_map]
      simp [Function.comp_def]

/-! ## The division of a list -/

/-- How a list of values is divided, in terms of its tokens. -/
structure DividedByTokens (text : String) : Prop where
  /-- The list is divided as its tokens say exactly if the characters before each comma say the same
  of it as the tokens. -/
  divided_iff : ∀ tokens, tokenize text = .ok tokens →
    (split text = listed (pieces text (separators 0 tokens)) ↔
      ∀ position, text.toList[position]? = some ',' →
        (((text.toList.take position).foldl Nesting.after .outside).separates = true ↔
          position ∈ separators 0 tokens))
  /-- That is so unless a quoted text holds a quotation mark. -/
  divided : ∀ tokens, tokenize text = .ok tokens →
    (∀ token ∈ tokens, token.lexeme.Unmarked) →
      split text = listed (pieces text (separators 0 tokens))
  /-- A list of expressions, none with a quotation mark in a quoted text, is divided into them. -/
  joined : ∀ values, Text.joinWith "," values = text →
    (∀ value ∈ values, UnmarkedExpression value) → split text = listed values

/-- A list of values is divided where its tokens say, unless a quoted text holds a quotation mark and
leads to a comma being misjudged. -/
theorem dividedByTokens (text : String) : DividedByTokens text := by
  constructor
  · intro tokens tokenized
    have read := tokenize_eq_ok_iff.mp tokenized
    have first := cuts_areCommas .outside 0 text.toList
    have second := separators_areCommas read 0
    have same : split text = listed (pieces text (separators 0 tokens)) ↔
        cuts .outside 0 text.toList = separators 0 tokens := by
      rw [split_eq_listed]
      exact ⟨listed_injective first second, fun same => by rw [same]⟩
    rw [same]
    constructor
    · intro same position comma
      rw [← same, mem_cuts_iff]
      simp [comma]
    · intro alike
      apply List.Pairwise.eq_of_mem_iff first.ascending second.ascending
      intro position
      rw [mem_cuts_iff]
      constructor
      · intro shown
        exact (alike position shown.2.1).mp shown.2.2
      · intro among
        have comma := (second.commas position among).2
        exact ⟨Nat.zero_le _, comma, (alike position comma).mpr among⟩
  · intro tokens tokenized unmarked
    have same := cuts_eq_separators (tokenize_eq_ok_iff.mp tokenized) unmarked 0
    rw [split_eq_listed, ← same.1]
    rfl
  · intro values joins expressions
    rw [← joins]
    exact split_joined_whole fun value among => (expressions value among).whole

example : split "\"(,\", date(\"2024-05-01\"), 2 * (1 + 1)" =
    ["\"(,\"", "date(\"2024-05-01\")", "2 * (1 + 1)"] := by decide +kernel

/-- A quoted text that holds a quotation mark and, after that, a comma. -/
def markedText : String :=
  "\"a\\\",b\""

def markedTokens : List Token :=
  [⟨.text "a\",b", 0⟩]

/-- The quoted text is one expression without a comma outside it, and is divided at its comma. -/
theorem markedText_misdivided :
    tokenize markedText = .ok markedTokens ∧
      Expression.parse markedText = .ok (.literal (.text "a\",b")) ∧
      separators 0 markedTokens = [] ∧ DividedByTokens markedText ∧
      split markedText = ["\"a\\\"", "b\""] ∧
      split markedText ≠ listed (pieces markedText (separators 0 markedTokens)) := by
  have shown : Text.isBlankText markedText = false := by cbv
  have tokenized : tokenize markedText = .ok markedTokens := by cbv
  have read : (Expression.read markedTokens).complete = .ok (.literal (.text "a\",b")) := by cbv
  have parsed : Expression.parse markedText = .ok (.literal (.text "a\",b")) := by
    simp only [Expression.parse, shown, tokenized, read]
    rfl
  have divided : split markedText = ["\"a\\\"", "b\""] := by decide +kernel
  have whole : listed (pieces markedText []) = [markedText] := by decide +kernel
  refine ⟨tokenized, parsed, rfl, dividedByTokens markedText, divided, ?_⟩
  rw [divided, show separators 0 markedTokens = [] from rfl, whole]
  simp

end OutputValues

end DecisionTables
