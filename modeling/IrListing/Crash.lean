import IrListing.Symbol.Tool
import IrListing.Yaml.Document

namespace IrListing

/-- What nothing here makes up for: it ends a program. -/
inductive Crash
  | directoryRead
  | pathTooLong
  | pathUnnameable
  | inputUndecodable
  | document (f : Yaml.Fault)
  | tool (b : Symbol.Breakdown)
  deriving DecidableEq, Repr

end IrListing
