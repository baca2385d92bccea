import SignedUpload.Json.Token

/-! Reading JSON values. Lists and objects nest at most 127 deep, and nothing but blanks follows the
value. -/
namespace SignedUpload.Json

def nextElement (first : Bool) (s : List Char) : Except Fault (Option (List Char)) :=
  match skipBlanks s with
  | [] => .error .unfinished
  | ']' :: _ => .ok none
  | ',' :: rest =>
    if first then .ok (some (',' :: rest))
    else match skipBlanks rest with
      | [] => .error .unfinished
      | ']' :: _ => .error .malformed
      | s => .ok (some s)
  | s => if first then .ok (some s) else .error .malformed

def closeList (s : List Char) : Except Fault (List Char) :=
  match skipBlanks s with
  | [] => .error .unfinished
  | ']' :: rest => .ok rest
  | _ => .error .malformed

def nextKey (first : Bool) (s : List Char) : Except Fault (Option (String × List Char)) :=
  match skipBlanks s with
  | [] => .error .unfinished
  | '}' :: _ => .ok none
  | '"' :: rest => if first then (stringBody rest).map some else .error .malformed
  | ',' :: rest =>
    if first then .error .malformed
    else match skipBlanks rest with
      | [] => .error .unfinished
      | '"' :: rest => (stringBody rest).map some
      | _ => .error .malformed
  | _ => .error .malformed

def closeObject (s : List Char) : Except Fault (List Char) :=
  match skipBlanks s with
  | [] => .error .unfinished
  | '}' :: rest => .ok rest
  | _ => .error .malformed

def colon (s : List Char) : Except Fault (List Char) :=
  match skipBlanks s with
  | [] => .error .unfinished
  | ':' :: rest => .ok rest
  | _ => .error .malformed

def elements (item : Read Value) : Nat → Bool → List Value → Read (List Value)
  | 0,_,_,_ => .error .unfinished
  | fuel + 1,first,seen,s => match nextElement first s with
    | .error f => .error f
    | .ok none => .ok (seen.reverse,s)
    | .ok (some s) => match item s with
      | .error f => .error f
      | .ok (v,rest) => elements item fuel false (v :: seen) rest

def members (item : Read Value) : Nat → Bool → List (String × Value) → Read (List (String × Value))
  | 0,_,_,_ => .error .unfinished
  | fuel + 1,first,seen,s => match nextKey first s with
    | .error f => .error f
    | .ok none => .ok (seen,s)
    | .ok (some (key,s)) => match colon s with
      | .error f => .error f
      | .ok s => match item s with
        | .error f => .error f
        | .ok (v,rest) => members item fuel false (Value.putMember key v seen) rest

def value (depth : Nat) : Read Value := fun s =>
  match skipBlanks s with
  | [] => .error .unfinished
  | 'n' :: rest => (word ['u','l','l'] rest).map (.null,·)
  | 't' :: rest => (word ['r','u','e'] rest).map (.bool true,·)
  | 'f' :: rest => (word ['a','l','s','e'] rest).map (.bool false,·)
  | '"' :: rest => (stringBody rest).map fun r => (.string r.1,r.2)
  | '[' :: rest => match depth with
    | 0 => .error .malformed
    | below + 1 => do
      let (items,rest) ← elements (value below) (rest.length + 1) true [] rest
      let rest ← closeList rest
      .ok (.array items,rest)
  | '{' :: rest => match depth with
    | 0 => .error .malformed
    | below + 1 => do
      let (found,rest) ← members (value below) (rest.length + 1) true [] rest
      let rest ← closeObject rest
      .ok (.object found,rest)
  | '-' :: rest => (numberBody true rest).map fun r => (.number r.1,r.2)
  | c :: rest =>
    if Decimal.isDigit c then (numberBody false (c :: rest)).map fun r => (.number r.1,r.2)
    else .error .malformed

def greatestDepth : Nat := 127

def whole (read : Read α) (text : String) : Except Fault α :=
  match read text.toList with
  | .error f => .error f
  | .ok (a,rest) => if skipBlanks rest = [] then .ok a else .error .malformed

def parse (text : String) : Except Fault Value := whole (value greatestDepth) text

end SignedUpload.Json
