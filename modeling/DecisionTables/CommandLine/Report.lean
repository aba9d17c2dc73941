import DecisionTables.CommandLine.Usage
import DecisionTables.Fault

/-!
# Reports

What a run of the program leaves behind: what it writes, apart from that what it writes about errors,
and how it ends.
-/

namespace DecisionTables.CommandLine

/-- How a run ends. -/
inductive Ending where
  | status (code : Nat)
  /-- A fault ends it. -/
  | fault (fault : Fault)
  deriving DecidableEq

/-- What a run leaves behind. -/
structure Report where
  output : String
  errors : String
  ending : Ending

namespace Report

/-- The exit code of a run. -/
def code (report : Report) : Nat :=
  match report.ending with
  | .status code => code
  | .fault _ => 1

def success (output : String) : Report := ⟨output, "", .status 0⟩

def failure (message : String) : Report := ⟨"", "✗ " ++ message ++ "\n", .status 1⟩

/-- A run that a fault ends before it writes anything. -/
def broken (fault : Fault) : Report := ⟨"", "", .fault fault⟩

/-- A run of a command whose line has a problem. -/
def misuse (shape : Shape) (problem : UsageProblem) : Report :=
  ⟨"", problem.report shape, .status 2⟩

/-- A report with lines that were written before it. -/
def after (output errors : String) (report : Report) : Report :=
  { report with output := output ++ report.output, errors := errors ++ report.errors }

end Report

/-- A part of a run. An error is the report of a run that ends there. -/
abbrev Step (α : Type) := Except Report α

def Step.report : Step Report → Report
  | .ok report => report
  | .error report => report

end DecisionTables.CommandLine
