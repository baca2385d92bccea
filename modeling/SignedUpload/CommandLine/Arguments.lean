import SignedUpload.LengthRange

/-! The words of a command line. Options may stand before, between and behind the other words, a value
may follow after an equals sign, and nothing is an option behind a double dash. -/
namespace SignedUpload.CommandLine

inductive Command where
  | checkLength (range : LengthRange) (explain : Bool) (value : String)
  | upload (multiple : Bool) (config : Option String) (files : List String)
  deriving DecidableEq, Repr

structure Switch where
  name : String
  takesValue : Bool
  deriving DecidableEq, Repr

inductive Token where
  | flag (name : String)
  | option (name value : String)
  | plain (word : String)
  deriving DecidableEq, Repr

def looksLikeOption (word : String) : Bool :=
  match word.toList with
  | '-' :: _ :: _ => true
  | _ => false

def splitOption (word : List Char) : String × Option String :=
  let name := String.ofList (word.takeWhile (· ≠ '='))
  match word.dropWhile (· ≠ '=') with
  | _ :: value => (name,some (String.ofList value))
  | [] => (name,none)

def tokens (switches : List Switch) : Option String → List String → Option (List Token)
  | none,[] => some []
  | some _,[] => none
  | some name,word :: rest =>
    if looksLikeOption word then none
    else (tokens switches none rest).map (.option name word :: ·)
  | none,word :: rest =>
    if word = "--" then some (rest.map .plain)
    else match word.toList with
      | '-' :: '-' :: body =>
        let (name,value) := splitOption body
        match switches.find? (·.name == name),value with
        | none,_ => none
        | some ⟨_,true⟩,some v => (tokens switches none rest).map (.option name v :: ·)
        | some ⟨_,true⟩,none => tokens switches (some name) rest
        | some ⟨_,false⟩,some _ => none
        | some ⟨_,false⟩,none => (tokens switches none rest).map (.flag name :: ·)
      | '-' :: _ :: _ => none
      | _ => (tokens switches none rest).map (.plain word :: ·)

def values (name : String) (found : List Token) : List String :=
  found.filterMap fun
    | .option n v => if n = name then some v else none
    | _ => none

def atMostOnce (values : List α) : Option (Option α) :=
  match values with
  | [] => some none
  | [v] => some (some v)
  | _ => none

def flagged (name : String) (found : List Token) : Option Bool :=
  (atMostOnce (found.filter (· == .flag name))).map (·.isSome)

def plainWords (found : List Token) : List String :=
  found.filterMap fun
    | .plain w => some w
    | _ => none

def numberOption (name : String) (found : List Token) : Option Nat :=
  match values name found with
  | [v] => Decimal.unsigned? Decimal.unsignedBound v.toList
  | _ => none

def checkLength? (words : List String) : Option Command := do
  let found ← tokens [⟨"min",true⟩,⟨"max",true⟩,⟨"message",false⟩] none words
  let min ← numberOption "min" found
  let max ← numberOption "max" found
  let explain ← flagged "message" found
  match plainWords found with
  | [value] => some (.checkLength ⟨min,max⟩ explain value)
  | _ => none

def upload? (words : List String) : Option Command := do
  let found ← tokens [⟨"multiple",false⟩,⟨"config",true⟩] none words
  let multiple ← flagged "multiple" found
  let config ← atMostOnce (values "config" found)
  let files := plainWords found
  if files = [] ∨ "" ∈ files ∨ config = some "" then none
  else some (.upload multiple config files)

def Command.read? : List String → Option Command
  | "check-length" :: words => checkLength? words
  | "upload" :: words => upload? words
  | _ => none

end SignedUpload.CommandLine
