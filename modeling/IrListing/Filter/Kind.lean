import IrListing.Metadata.Declaration
import IrListing.Text.Blank

namespace IrListing.Filter

open Text

def isOneLine (t : Text) : Bool := '\n' ∉ t.dropLast

def isComment (line : Text) : Bool :=
  startsWith [';'] (trimLeft line) && isOneLine (trimLeft line)

def isDebugCall (line : Text) : Bool :=
  startsWith "call void @llvm.dbg.".toList (trimLeft line) && isOneLine (trimLeft line)

def directiveLeads : List Text :=
  ["!llvm".toList, "source_filename = ".toList, "target datalayout = ".toList,
   "target triple = ".toList]

def isDirective (line : Text) : Bool :=
  (match Metadata.assignment? line with
    | some (_, r) => startsWith ['D', 'I'] r || startsWith ['\x7b'] r
    | none => false) || directiveLeads.any (startsWith · line)

end IrListing.Filter
