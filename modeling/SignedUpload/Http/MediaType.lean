import SignedUpload.Text.Case

/-! Media types: two tokens with a slash between them, and parameters behind semicolons. The type, the
names of parameters and the value of a charset do not depend on letter case and are kept in lower
case. -/
namespace SignedUpload.Http

def isTokenChar (c : Char) : Bool :=
  c.isAlphanum ||
    ['!','#','$','%','&','\'','*','+','-','.','^','_','|','~',Char.ofNat 96].contains c

def isToken (s : List Char) : Bool := s ≠ [] && s.all isTokenChar

namespace MediaType

def isQuotable (c : Char) : Bool := 0x20 ≤ c.toNat && c.toNat ≠ 0x7F

def valueIn (name value : List Char) : List Char :=
  if name = "charset".toList then value.map Text.asciiLower else value

def quoted? (name : List Char) : List Char → Option (List Char × List Char)
  -- a quote that comes first belongs to the value, which is never empty
  | '"' :: first :: rest =>
    let inner := fun c => c ≠ '"' && isQuotable c
    match rest.dropWhile inner with
    | '"' :: after =>
      if isQuotable first then
        some ('"' :: valueIn name (first :: rest.takeWhile inner) ++ ['"'],after)
      else none
    | _ => none
  | _ => none

def parameters? : Nat → List Char → Option (List Char)
  | _,[] => some []
  | 0,_ => none
  | fuel + 1,' ' :: rest => (parameters? fuel rest).map (' ' :: ·)
  | fuel + 1,s =>
    let name := (s.takeWhile isTokenChar).map Text.asciiLower
    match name,s.dropWhile isTokenChar with
    | _ :: _,'=' :: '"' :: rest => do
      let (value,rest) ← quoted? name ('"' :: rest)
      let spaces := rest.takeWhile (· == ' ')
      match rest.dropWhile (· == ' ') with
      | [] => some (name ++ '=' :: value ++ spaces)
      | ';' :: rest =>
        (parameters? fuel rest).map (name ++ '=' :: value ++ spaces ++ ';' :: ·)
      | _ => none
    | _ :: _,'=' :: rest =>
      let value := valueIn name (rest.takeWhile isTokenChar)
      match value,rest.dropWhile isTokenChar with
      | _,[] => some (name ++ '=' :: value)
      | _ :: _,';' :: rest => (parameters? fuel rest).map (name ++ '=' :: value ++ ';' :: ·)
      | _,_ => none
    | _,_ => none

def read? (s : String) : Option String :=
  let lower := List.map Text.asciiLower
  let top := s.toList.takeWhile isTokenChar
  match top,s.toList.dropWhile isTokenChar with
  | _ :: _,'/' :: rest =>
    let sub := rest.takeWhile isTokenChar
    match sub,rest.dropWhile isTokenChar with
    | _,[] => some (String.ofList (lower top ++ '/' :: lower sub))
    | _ :: _,';' :: rest => (parameters? rest.length rest).map fun parameters =>
      String.ofList (lower top ++ '/' :: lower sub ++
        if parameters.all (· == ' ') then [] else ';' :: parameters)
    | _,_ => none
  | _,_ => none

end MediaType
end SignedUpload.Http
