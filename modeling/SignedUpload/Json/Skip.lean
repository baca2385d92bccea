import SignedUpload.Json.Token

/-! Passing over a JSON value that nobody reads. It must be well formed, but it may nest without
bound, its numbers may be out of range, and its escapes need not be characters. -/
namespace SignedUpload.Json

open Decimal (isDigit)

def skipStringFrom : Nat → List Char → Except Fault (List Char)
  | 0,_ => .error .unfinished
  | _ + 1,[] => .error .unfinished
  | _ + 1,'"' :: rest => .ok rest
  | _ + 1,'\\' :: [] => .error .unfinished
  | fuel + 1,'\\' :: 'u' :: rest => match hexFour rest with
    | .error f => .error f
    | .ok (_,rest) => skipStringFrom fuel rest
  | fuel + 1,'\\' :: c :: rest =>
    if (shortEscape? c).isSome then skipStringFrom fuel rest else .error .malformed
  | fuel + 1,c :: rest =>
    if c.toNat < 0x20 then .error .malformed else skipStringFrom fuel rest

def skipString (s : List Char) : Except Fault (List Char) := skipStringFrom (s.length + 1) s

def skipExponent (s : List Char) : Except Fault (List Char) :=
  let s := match s with
    | '+' :: rest => rest
    | '-' :: rest => rest
    | rest => rest
  if startsWithDigit s then .ok (s.dropWhile isDigit) else .error .malformed

def skipFraction (s : List Char) : Except Fault (List Char) :=
  if startsWithDigit s then
    match s.dropWhile isDigit with
    | [] => .ok []
    | c :: rest => if isExponentMark c then skipExponent rest else .ok (c :: rest)
  else .error .malformed

def skipNumber (s : List Char) : Except Fault (List Char) :=
  match s with
  -- a number that breaks off is malformed here, not unfinished
  | [] => .error .malformed
  | c :: rest =>
    if !isDigit c || (c == '0' && startsWithDigit rest) then .error .malformed
    else match s.dropWhile isDigit with
      | [] => .ok []
      | d :: rest =>
        if d = '.' then skipFraction rest
        else if isExponentMark d then skipExponent rest
        else .ok (d :: rest)

inductive Frame where
  | list
  | object
  deriving DecidableEq, Repr

def skipKey (s : List Char) : Except Fault (List Char) :=
  match skipBlanks s with
  | [] => .error .unfinished
  | '"' :: rest => match skipString rest with
    | .error f => .error f
    | .ok rest => match skipBlanks rest with
      | [] => .error .unfinished
      | ':' :: rest => .ok rest
      | _ => .error .malformed
  | _ => .error .malformed

inductive Stand where
  | before
  | after
  | opened
  deriving DecidableEq, Repr

def enter (frame : Frame) (s : List Char) : Except Fault (List Char) :=
  match frame with
  | .list => .ok s
  | .object => skipKey s

def skipScalar (s : List Char) : Except Fault (List Char) :=
  match s with
  | 'n' :: rest => word ['u','l','l'] rest
  | 't' :: rest => word ['r','u','e'] rest
  | 'f' :: rest => word ['a','l','s','e'] rest
  | '"' :: rest => skipString rest
  | '-' :: rest => skipNumber rest
  | c :: rest => if isDigit c then skipNumber (c :: rest) else .error .malformed
  | [] => .error .unfinished

def skipFrom : Nat → Stand → List Frame → List Char → Except Fault (List Char)
  | 0,_,_,_ => .error .unfinished
  | fuel + 1,.before,frames,s => match skipBlanks s with
    | [] => .error .unfinished
    | '[' :: rest => skipFrom fuel .opened (.list :: frames) rest
    | '{' :: rest => skipFrom fuel .opened (.object :: frames) rest
    | s => match skipScalar s with
      | .error f => .error f
      | .ok rest => skipFrom fuel .after frames rest
  | _ + 1,.after,[],s => .ok s
  | _ + 1,.opened,[],s => .ok s
  | fuel + 1,stand,frame :: frames,s => match frame,skipBlanks s with
    | _,[] => .error .unfinished
    | .list,']' :: rest => skipFrom fuel .after frames rest
    | .object,'}' :: rest => skipFrom fuel .after frames rest
    | _,c :: rest =>
      let entry := if stand = .opened then some (c :: rest) else if c = ',' then some rest else none
      match entry with
      | none => .error .malformed
      | some s => match enter frame s with
        | .error f => .error f
        | .ok s => skipFrom fuel .before (frame :: frames) s

def skipValue (s : List Char) : Except Fault (List Char) :=
  skipFrom (2 * s.length + 2) .before [] s

end SignedUpload.Json
