/-!
# Faults

A fault is a breakdown below the language, of its arithmetic or of the reading of a source: the
language has no failure of its own for it, so it ends what is being done without naming a cell.
-/

namespace DecisionTables

/-- A breakdown that no rule of the language turns into a failure. -/
inductive Fault where
  /-- A result does not fit into the numbers it has to be given in. -/
  | outOfRange
  /-- Two values have no order. -/
  | unordered
  /-- An integer has too many digits to be read or written. -/
  | numeralTooLong
  /-- A decimal operation is not defined for its operands. -/
  | invalidDecimal
  /-- A signaling not-a-number has no double. -/
  | signalingDouble
  /-- A decimal result lies above the range of decimal numbers. -/
  | decimalOverflow
  /-- A document names an encoding that does not exist. -/
  | unknownEncoding
  /-- A document names an encoding that takes several bytes for some characters. -/
  | multibyteEncoding
  /-- A file does not hold UTF-8 text. -/
  | undecodable
  deriving DecidableEq

end DecisionTables
