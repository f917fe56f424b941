import IrListing.Filter.Config
import IrListing.Listing.Basic
import IrListing.Settings.Check

namespace IrListing.Settings

open Check

structure FilterNames where
  debugCalls : List Text
  metadata : List Text
  comments : List Text

def filterNames : FilterNames where
  debugCalls := ["filterDebugInfo".toList, "filter_debug_info".toList]
  metadata := ["filterIRMetadata".toList, "filter_ir_metadata".toList]
  comments := ["comments".toList]

def viewNames : FilterNames where
  debugCalls := ["debugCalls".toList, "debug_calls".toList]
  metadata := ["directives".toList]
  comments := ["commentOnly".toList, "comment_only".toList]

def filterConfig (names : FilterNames) : Value → Check Filter.Config :=
  record fun es =>
    (both (field es names.debugCalls bool (.ok false))
      (both (field es names.metadata bool (.ok false))
        (both (field es names.comments bool (.ok false))
          (field es ["demangle".toList] bool (.ok false))))).map
    fun (debugCalls, metadata, comments, demangle) => { debugCalls, metadata, comments, demangle }

def location : Value → Check Source.Location :=
  record fun es =>
    (both (field es ["file".toList] (optional text) (.ok none))
      (both (field es ["line".toList] (optional whole) (.ok none))
        (field es ["column".toList] (optional whole) (.ok none)))).map
    fun (file, line, column) => { file, line, column }

def line : Value → Check Listing.Line :=
  record fun es =>
    (both (required es "text".toList text)
      (both (field es ["scope".toList] (optional text) (.ok none))
        (field es ["source".toList] (optional location) (.ok none)))).map
    fun (text, scope, source) => { text, scope, source }

def listing : Value → Check Listing.Result :=
  record fun es =>
    (both (field es ["asm".toList] (items line) (.ok []))
      (both (field es ["label_definitions".toList] (entries whole) (.ok []))
        (field es ["language_id".toList] (optional text) (.ok none)))).map
    fun (lines, labels, language) => { lines, labels, language }

end Settings

structure Settings where
  cap : Int := Listing.defaultCap
  demangler : Text := "llvm-cxxfilt".toList
  filters : Filter.Config := {}
  deriving DecidableEq, Repr

namespace Settings

open Check

def capName : Text := "max_lines_of_asm".toList

def demanglerName : Text := "demangler".toList

def ofValue : Value → Check Settings :=
  record fun es =>
    (both (field es [capName] (wholeFrom 1) (.ok ({} : Settings).cap))
      (both (field es [demanglerName] text (.ok ({} : Settings).demangler))
        (field es ["default_filters".toList] (filterConfig filterNames) (.ok {})))).map
    fun (cap, demangler, filters) => { cap, demangler, filters }

end IrListing.Settings
