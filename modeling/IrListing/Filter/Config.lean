namespace IrListing.Filter

structure Config where
  debugCalls : Bool := false
  metadata : Bool := false
  comments : Bool := false
  demangle : Bool := false
  deriving DecidableEq, Repr

end IrListing.Filter
