import DecisionTables.Text.Blank
import DecisionTables.Text.Case
import DecisionTables.Text.Split

/-!
# Hit policies

A hit policy says how the rules that match combine into a result. It is named by a word, by a letter,
or, where values are collected, by a letter with the sign of an aggregation. Case and surplus blanks
do not matter.
-/

namespace DecisionTables

/-- How matching rules combine. -/
inductive HitPolicy where
  | unique | first | priority | any | collect | ruleOrder | outputOrder
  deriving DecidableEq

/-- How collected values are reduced to one. -/
inductive Aggregation where
  | sum | min | max | count
  deriving DecidableEq

/-- Why no hit policy is recognised. -/
inductive HitPolicyError where
  | alreadyAggregated (policy : Option String)
  | unknownPolicy (policy : Option String)
  | unknownAggregation (aggregation : String)
  | aggregationNotAllowed (aggregation : Aggregation)

namespace HitPolicy

def name : HitPolicy → String
  | .unique => "UNIQUE"
  | .first => "FIRST"
  | .priority => "PRIORITY"
  | .any => "ANY"
  | .collect => "COLLECT"
  | .ruleOrder => "RULE ORDER"
  | .outputOrder => "OUTPUT ORDER"

/-- The hit policy of a word or letter in upper case. -/
def ofToken? : String → Option HitPolicy
  | "UNIQUE" => some .unique
  | "U" => some .unique
  | "FIRST" => some .first
  | "F" => some .first
  | "PRIORITY" => some .priority
  | "P" => some .priority
  | "ANY" => some .any
  | "A" => some .any
  | "COLLECT" => some .collect
  | "C" => some .collect
  | "RULE ORDER" => some .ruleOrder
  | "RULE_ORDER" => some .ruleOrder
  | "R" => some .ruleOrder
  | "OUTPUT ORDER" => some .outputOrder
  | "OUTPUT_ORDER" => some .outputOrder
  | "O" => some .outputOrder
  | _ => none

/-- Whether a result has at most one entry. -/
def isSingle : HitPolicy → Bool
  | .unique => true
  | .first => true
  | .priority => true
  | .any => true
  | _ => false

/-- Whether the allowed values of the output columns decide. -/
def usesPriorities : HitPolicy → Bool
  | .priority => true
  | .outputOrder => true
  | _ => false

end HitPolicy

namespace Aggregation

def name : Aggregation → String
  | .sum => "SUM"
  | .min => "MIN"
  | .max => "MAX"
  | .count => "COUNT"

/-- The aggregation of a sign or word in upper case. -/
def ofToken? : String → Option Aggregation
  | "SUM" => some .sum
  | "+" => some .sum
  | "MIN" => some .min
  | "<" => some .min
  | "MAX" => some .max
  | ">" => some .max
  | "COUNT" => some .count
  | "#" => some .count
  | _ => none

/-- The aggregation that a collecting policy is written with, as in `C+`. -/
def ofShorthand? (token : String) : Option Aggregation :=
  match token.toList with
  | ['C', sign] => ofToken? (String.ofList [sign])
  | _ => none

end Aggregation

/-- The text of an attribute in an error, where a missing one is shown as such. -/
def attributeText : Option String → String
  | some text => text
  | none => "None"

def HitPolicyError.message : HitPolicyError → String
  | .alreadyAggregated policy =>
      "hit policy '" ++ attributeText policy ++ "' already names an aggregation"
  | .unknownPolicy policy => "unknown hit policy '" ++ attributeText policy ++ "'"
  | .unknownAggregation aggregation => "unknown aggregation '" ++ aggregation ++ "'"
  | .aggregationNotAllowed aggregation =>
      "aggregation '" ++ aggregation.name ++ "' is only allowed with hit policy COLLECT"

namespace HitPolicy

/-- The word by which a policy is looked up: single blanks between words, in upper case. A blank
policy is replaced by the default. -/
def token (policy : Option String) (default : String) : String :=
  let normal := Text.upper (Text.joinWith " " (Text.words (policy.getD "")))
  if normal.isEmpty then Text.upper default else normal

/-- The hit policy and the aggregation that a pair of attributes names. -/
def parse (policy aggregation : Option String) (default : String) :
    Except HitPolicyError (HitPolicy × Option Aggregation) :=
  let word := token policy default
  let aggregationWord := Text.upper (Text.trim (aggregation.getD ""))
  match Aggregation.ofShorthand? word with
  | some named =>
      if aggregationWord.isEmpty then .ok (.collect, some named)
      else .error (.alreadyAggregated policy)
  | none =>
      match ofToken? word with
      | none => .error (.unknownPolicy policy)
      | some recognised =>
          if aggregationWord.isEmpty then .ok (recognised, none)
          else
            match Aggregation.ofToken? aggregationWord with
            | none => .error (.unknownAggregation (aggregation.getD ""))
            | some named =>
                if recognised = .collect then .ok (recognised, some named)
                else .error (.aggregationNotAllowed named)

end HitPolicy

end DecisionTables
