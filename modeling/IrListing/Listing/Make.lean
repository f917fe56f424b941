import IrListing.Listing.Pass
import IrListing.Symbol.Rename

namespace IrListing.Listing

open IrListing.Symbol

def readable (tool : Tool) (lines : List Line) : Traced (List Line) :=
  (tool.ask (collect (lines.map (·.text)))).map fun names =>
    lines.map fun line => { line with text := rename names line.text }

structure Maker where
  cap : Int := defaultCap
  tool : Option Tool := none

namespace Maker

def lines (m : Maker) (config : Filter.Config) (text : Text) : Traced (List Line) :=
  let plain := pass config m.cap text
  if config.demangle then
    match m.tool with
    | some tool => readable tool plain
    | none => ⟨[], .error (.failure ⟨"<none>".toList, .unconfigured⟩)⟩
  else ⟨[], .ok plain⟩

def make (m : Maker) (config : Filter.Config) (text : Text) : Traced Result :=
  (m.lines config text).map fun lines => { lines, language := some language }

def makeAny (m : Maker) (config : Filter.Config) (text? : Option Text) : Traced Result :=
  match text? with
  | some text => m.make config text
  | none => ⟨[], .ok {}⟩

end Maker

end IrListing.Listing
