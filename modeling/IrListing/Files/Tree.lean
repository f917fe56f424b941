import IrListing.Files.Basic

/-! A directory held in memory, as one way to have files. -/

namespace IrListing.Files

abbrev Tree := Assoc (List Text) Entry

namespace Tree

def isDirectory (tree : Tree) (place : List Text) : Bool :=
  place = [] || tree.get? place = some .directory

def walk (tree : Tree) (above : Nat) (place : List Text) : List Text → Entry
  | [] => if tree.isDirectory place then .directory else (tree.get? place).getD .absent
  | step :: steps =>
    if !tree.isDirectory place then .absent
    else if Path.maxNameBytes < Text.byteSize step then .tooLong
    else if step ≠ ['.', '.'] then
      if above = 0 then walk tree 0 (place ++ [step]) steps else .absent
    else if place = [] then walk tree (above + 1) [] steps
    else walk tree above place.dropLast steps

def rootDirectories : List Text :=
  ["bin", "dev", "etc", "home", "lib", "media", "mnt", "opt", "proc", "root", "run", "sbin", "srv",
   "sys", "tmp", "usr", "var"].map (·.toList)

def walkRoot : List Text → Entry
  | [] => .directory
  | step :: steps =>
    if Path.maxNameBytes < Text.byteSize step then .tooLong
    else if step = ['.', '.'] then walkRoot steps
    else if step ∉ rootDirectories then .absent
    else
      match steps with
      | [] => .directory
      | next :: steps =>
        if Path.maxNameBytes < Text.byteSize next then .tooLong
        else if next = ['.', '.'] then walkRoot steps
        else .absent

def files (tree : Tree) : Files := fun path =>
  if '\x00' ∈ path then .unnameable
  else if Path.maxBytes < Text.byteSize path then .tooLong
  else if path = [] then .absent
  else if path.head? = some '/' then walkRoot (Path.steps path)
  else
    let entry := tree.walk 0 [] (Path.steps path)
    if path.getLast? = some '/' && entry.isFile then .absent else entry

def put (tree : Tree) (path : Text) (entry : Entry) : Tree :=
  let arrive (place : List Text) (step : Text) : List Text :=
    if step = ['.', '.'] then place.dropLast else place ++ [step]
  let enter (way : List Text × Tree) (step : Text) : List Text × Tree :=
    let place := arrive way.1 step
    (place, if way.2.isDirectory place then way.2 else way.2.insert place .directory)
  let steps := Path.steps path
  let (place, tree) := steps.dropLast.foldl enter ([], tree)
  match steps.getLast? with
  | some step => tree.insert (arrive place step) entry
  | none => tree

end Tree

end IrListing.Files
