import SignedUpload.Config.Environment

/-! Variables from a file of lines `NAME=value`. A value may be quoted, single quotes keep everything
as it is, and a dollar sign puts in another variable. Variables that are set already stay, and the
first line that cannot be read ends the file. -/
namespace SignedUpload.CommandLine

inductive Quote where
  | none
  | single
  | double
  | ended
  deriving DecidableEq, Repr

structure ValueReader where
  output : List Char
  quote : Quote
  escaped : Bool
  reference : Option (Bool × List Char)
  deriving DecidableEq, Repr

namespace ValueReader

def push (r : ValueReader) (c : Char) : ValueReader := { r with output := c :: r.output }

def refer (lookup : String → String) (r : ValueReader) : ValueReader :=
  match r.reference with
  | none => r
  | some (_,name) =>
    { r with
      output := (lookup (String.ofList name.reverse)).toList.reverse ++ r.output
      reference := none }

def escapedChar? (c : Char) : Option Char :=
  if c = 'n' then some '\n'
  else if ['\\','\'','"','$',' '].contains c then some c
  else none

def step (lookup : String → String) (r : ValueReader) (c : Char) : Option ValueReader :=
  if r.escaped then (escapedChar? c).map fun d => { r.push d with escaped := false }
  else if r.quote = .single then
    some (if c = '\'' then { r with quote := .none } else r.push c)
  else match r.reference with
    | some (true,name) =>
      some (if c = '\x7d' then r.refer lookup else { r with reference := some (true,c :: name) })
    | some (false,name) =>
      if c.isAlphanum then some { r with reference := some (false,c :: name) }
      else if c = '\x7b' ∧ name = [] then some { r with reference := some (true,[]) }
      else if c = '$' then some { r.refer lookup with reference := some (false,[]) }
      else some ((r.refer lookup).push c)
    | none =>
      if c = '$' then some { r with reference := some (false,[]) }
      else if c = '\\' then some { r with escaped := true }
      else if r.quote = .double then
        some (if c = '"' then { r with quote := .none } else r.push c)
      else if c = '\'' then some { r with quote := .single }
      else if c = '"' then some { r with quote := .double }
      else if c = ' ' ∨ c = '\t' then some { r with quote := .ended }
      else some (r.push c)

def run (lookup : String → String) (r : ValueReader) : List Char → Option ValueReader
  | [] => some r
  | c :: rest =>
    -- behind a blank only a comment may follow
    if r.quote = .ended then
      if c = ' ' ∨ c = '\t' then run lookup r rest
      else if c = '#' then some r
      else none
    else match step lookup r c with
      | none => none
      | some r => run lookup r rest

def finish (lookup : String → String) (r : ValueReader) : Option String :=
  if r.quote = .single ∨ r.quote = .double then none
  else match r.reference with
    | some (true,_) => none
    | _ => some (String.ofList (r.refer lookup).output.reverse)

end ValueReader

def dotenvValue? (lookup : String → String) (s : List Char) : Option String :=
  (ValueReader.run lookup ⟨[],.none,false,none⟩ s).bind (·.finish lookup)

def skipBlank (s : List Char) : List Char := s.dropWhile Text.isBlank

def dotenvKey? (s : List Char) : Option (String × List Char) :=
  match s with
  | c :: _ =>
    if c.isAlpha ∨ c = '_' then
      let inKey := fun (c : Char) => c.isAlphanum || c == '_' || c == '.'
      some (String.ofList (s.takeWhile inKey),skipBlank (s.dropWhile inKey))
    else none
  | [] => none

def equals? : List Char → Option (List Char)
  | '=' :: rest => some rest
  | _ => none

def dotenvAssignment? (s : List Char) : Option (String × List Char) := do
  let (key,rest) ← dotenvKey? s
  match equals? rest with
  | some value => some (key,skipBlank value)
  | none =>
    if key = "export" then
      let (key,rest) ← dotenvKey? rest
      let value ← equals? rest
      some (key,skipBlank value)
    else none

def set (env : Environment) (name value : String) : Environment := fun n =>
  if n = name ∧ (env.text? name).isNone then some (Utf8.encode value) else env n

def dotenvLines (known : List (String × String)) (env : Environment) : List (List Char) → Environment
  | [] => env
  | line :: rest =>
    let s := skipBlank line
    if s = [] ∨ s.head? = some '#' then dotenvLines known env rest
    else
      let lookup := fun name => ((env.text? name).or (known.lookup name)).getD ""
      let value := (dotenvAssignment? s).bind fun (key,v) =>
        if v = [] ∨ v.head? = some '#' then some (key,"")
        else (dotenvValue? lookup v).map fun v => (key,v)
      match value with
      | none => env
      | some (key,v) => dotenvLines ((key,v) :: known) (set env key v) rest

def withoutReturn (line : List Char) : List Char :=
  match line.reverse with
  | '\r' :: rest => rest.reverse
  | _ => line

def withDotenv (env : Environment) (file : Bytes) : Environment :=
  match Utf8.decode? file with
  | none => env
  | some text =>
    let s := match text.toList with
      | '\uFEFF' :: rest => rest
      | s => s
    dotenvLines [] env ((pieces '\n' s).map withoutReturn)

end SignedUpload.CommandLine
