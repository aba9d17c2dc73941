import DecisionTables.HitPolicy
import DecisionTables.Model.Basic

/-!
# What the attributes of a table say

A word names a hit policy, or the collecting one together with an aggregation. A second word may name
an aggregation. The two attributes of a table are recognised exactly if their words say something
together and the aggregation is not named twice.
-/

namespace DecisionTables

/-- What a word names: a hit policy or, abbreviated, the collecting one with an aggregation. -/
inductive HitPolicy.Named (word : String) : HitPolicy → Option Aggregation → Prop
  | policy {policy : HitPolicy} : ofToken? word = some policy → Named word policy none
  | abbreviated {aggregation : Aggregation} :
      Aggregation.ofShorthand? word = some aggregation → Named word .collect (some aggregation)

/-- What a word names where an aggregation may be missing. -/
inductive Aggregation.Named : String → Option Aggregation → Prop
  | missing : Named "" none
  | aggregation {word : String} {aggregation : Aggregation} :
      ofToken? word = some aggregation → Named word (some aggregation)

/-- What the words for a hit policy and for an aggregation say together: an aggregation is declared
only with the policy that collects. -/
structure HitPolicy.Says (word sign : String) (policy : HitPolicy)
    (abbreviated declared : Option Aggregation) : Prop where
  named : HitPolicy.Named word policy abbreviated
  aggregated : Aggregation.Named sign declared
  collecting : declared.isSome → policy = .collect

/-- What the attributes of a table say, where a missing hit policy is the default one. -/
def TableLogic.Says (logic : TableLogic) (default : String) :
    HitPolicy → Option Aggregation → Option Aggregation → Prop :=
  HitPolicy.Says (HitPolicy.token logic.hitPolicy default)
    (Text.upper (Text.trim (logic.aggregation.getD "")))

namespace HitPolicy

/-- No abbreviation is the name of a hit policy alone, as none of these names has two letters. -/
theorem ofToken?_of_ofShorthand? {word : String} {aggregation : Aggregation}
    (abbreviated : Aggregation.ofShorthand? word = some aggregation) : ofToken? word = none := by
  have length : word.toList.length = 2 := by
    unfold Aggregation.ofShorthand? at abbreviated
    split at abbreviated
    · rename_i letters
      rw [letters]
      rfl
    · cases abbreviated
  unfold ofToken?
  split
  case h_17 => rfl
  all_goals exact absurd length (by decide)

/-- A pair of attributes is recognised if the words say something, unless both name an aggregation.
-/
theorem parse_eq_ok_iff {policy aggregation : Option String} {default : String}
    {recognised : HitPolicy} {named : Option Aggregation} :
    parse policy aggregation default = .ok (recognised, named) ↔
      ∃ abbreviated declared,
        Says (token policy default) (Text.upper (Text.trim (aggregation.getD ""))) recognised
          abbreviated declared ∧
        (abbreviated = none ∨ declared = none) ∧ named = abbreviated.or declared := by
  unfold parse
  -- The tokens are not looked into: unfolding them would unfold the tables of letter case.
  generalize token policy default = word
  generalize Text.upper (Text.trim (aggregation.getD "")) = sign
  simp only
  constructor
  · intro parsed
    split at parsed
    · rename_i abbreviated
      split at parsed
      · rename_i empty
        obtain rfl := String.isEmpty_iff.mp empty
        cases parsed
        exact ⟨_, _, ⟨.abbreviated abbreviated, .missing, nofun⟩, .inr rfl, rfl⟩
      · cases parsed
    · split at parsed
      · cases parsed
      · rename_i plain
        split at parsed
        · rename_i empty
          obtain rfl := String.isEmpty_iff.mp empty
          cases parsed
          exact ⟨_, _, ⟨.policy plain, .missing, nofun⟩, .inl rfl, rfl⟩
        · split at parsed
          · cases parsed
          · rename_i declared
            split at parsed
            · rename_i collecting
              cases parsed
              exact ⟨_, _, ⟨.policy plain, .aggregation declared, fun _ => collecting⟩, .inl rfl,
                rfl⟩
            · cases parsed
  · intro shown
    obtain ⟨_, _, ⟨named, declared, collecting⟩, once, rfl⟩ := shown
    cases named with
    | abbreviated abbreviated =>
        cases declared with
        | missing => simp [abbreviated]
        | aggregation => simp at once
    | policy plain =>
        have unabbreviated : Aggregation.ofShorthand? word = none := by
          cases found : Aggregation.ofShorthand? word with
          | none => rfl
          | some => exact nomatch plain.symm.trans (ofToken?_of_ofShorthand? found)
        cases declared with
        | missing => simp [unabbreviated, plain]
        | aggregation declared =>
            have nonempty : sign.isEmpty = false := by
              cases empty : sign.isEmpty with
              | false => rfl
              | true =>
                  obtain rfl := String.isEmpty_iff.mp empty
                  cases declared
            obtain rfl := collecting rfl
            simp [unabbreviated, plain, nonempty, declared]

/-- An aggregation is only recognised together with the policy that collects. -/
theorem collect_of_parse {policy aggregation : Option String} {default : String}
    {recognised : HitPolicy} {named : Aggregation}
    (parsed : parse policy aggregation default = .ok (recognised, some named)) :
    recognised = .collect := by
  obtain ⟨abbreviated, declared, ⟨word, _, collecting⟩, _, same⟩ := parse_eq_ok_iff.mp parsed
  cases word with
  | abbreviated => rfl
  | policy =>
      obtain rfl : some named = declared := same
      exact collecting rfl

end HitPolicy

end DecisionTables
