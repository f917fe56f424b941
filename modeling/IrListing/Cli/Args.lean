import IrListing.Cli.Similar
import IrListing.Text.Quoted

namespace IrListing.Cli

open Text

inductive Misuse
  | noSuchOption (name : Text) (meant : List Text)
  | valueMissing (name : Text)
  | valueUnwanted (name : Text)
  | notWhole (name value : Text)
  | tooLow (name : Text) (n : Int)
  | isDirectory (name path : Text)
  | leftOver (args : List Text)
  | noCommand
  | noSuchCommand (name : Text) (meant : List Text)
  deriving DecidableEq, Repr

def hint : List Text → Text
  | [] => []
  | [name] => " Did you mean ".toList ++ quoted name ++ ['?']
  | names =>
    let sorted := names.mergeSort fun a b => String.ofList a ≤ String.ofList b
    " (Did you mean one of: ".toList ++ joined ", ".toList (sorted.map quoted) ++ "?)".toList

def Misuse.text : Misuse → Text
  | .noSuchOption name meant => "No such option ".toList ++ quoted name ++ '.' :: hint meant
  | .valueMissing name => "Option ".toList ++ quoted name ++ " requires an argument.".toList
  | .valueUnwanted name => "Option ".toList ++ quoted name ++ " does not take a value.".toList
  | .notWhole name value =>
    "Invalid value for ".toList ++ name ++ ": ".toList ++ quoted value ++
      " is not a valid integer range.".toList
  | .tooLow name n =>
    "Invalid value for ".toList ++ name ++ ": ".toList ++ ofInt n ++
      " is not in the range x>=1.".toList
  | .isDirectory name path =>
    "Invalid value for ".toList ++ name ++ ": File ".toList ++ quoted path ++
      " is a directory.".toList
  | .leftOver args =>
    (if args.length = 1 then "Got unexpected extra argument (" else
      "Got unexpected extra arguments (").toList ++ joined [' '] args ++ [')']
  | .noCommand => "Missing command.".toList
  | .noSuchCommand name meant => "No such command ".toList ++ quoted name ++ '.' :: hint meant

def Misuse.showsUsage : Misuse → Bool
  | .valueMissing _ | .valueUnwanted _ => false
  | _ => true

structure Options where
  switches : List Text
  valued : List Text
  anywhere : Bool

inductive Given
  | switch (name : Text)
  | value (name value : Text)
  deriving DecidableEq, Repr

def Given.name : Given → Text
  | .switch name | .value name _ => name

structure Parsed where
  given : List Given := []
  args : List Text := []

namespace Options

def isLong (name : Text) : Bool := startsWith ['-', '-'] name

def cluster (o : Options) : Text → Except Misuse (List Given × Option Text)
  | [] => .ok ([], none)
  | c :: t =>
    if ['-', c] ∈ o.switches then
      (o.cluster t).map fun (given, waiting) => (.switch ['-', c] :: given, waiting)
    else if ['-', c] ∈ o.valued then
      if t = [] then .ok ([], some ['-', c]) else .ok ([.value ['-', c] t], none)
    else .error (.noSuchOption ['-', c] [])

def one (o : Options) (arg : Text) : Except Misuse (List Given × Option Text) :=
  let name := arg.takeWhile (· ≠ '=')
  let attached? := (arg.dropWhile (· ≠ '=')).tail?
  if isLong name && name ∈ o.switches then
    if attached?.isSome then .error (.valueUnwanted name) else .ok ([.switch name], none)
  else if isLong name && name ∈ o.valued then
    match attached? with
    | some value => .ok ([.value name value], none)
    | none => .ok ([], some name)
  else if isLong arg then
    .error (.noSuchOption name (similar name ((o.switches ++ o.valued).filter isLong)))
  else o.cluster arg.tail

def parse (o : Options) : List Text → Except Misuse Parsed
  | [] => .ok {}
  | arg :: rest =>
    if arg = ['-', '-'] then .ok { args := rest }
    else if startsWith ['-'] arg && arg ≠ ['-'] then
      match o.one arg with
      | .error e => .error e
      | .ok (given, none) => (o.parse rest).map fun p => { p with given := given ++ p.given }
      | .ok (given, some name) =>
        match rest with
        | [] => .error (.valueMissing name)
        | value :: rest =>
          (o.parse rest).map fun p => { p with given := given ++ .value name value :: p.given }
    else if o.anywhere then (o.parse rest).map fun p => { p with args := arg :: p.args }
    else .ok { args := arg :: rest }

end Options

end IrListing.Cli
