import SignedUpload.Http.Escape

/-! Paths of addresses: components between slashes, where dots lead to other components. -/
namespace SignedUpload.Http.Url

def unescapeDots : List Char → List Char
  | '%' :: '2' :: c :: rest =>
    if c = 'e' ∨ c = 'E' then '.' :: unescapeDots rest else '%' :: '2' :: c :: unescapeDots rest
  | c :: rest => c :: unescapeDots rest
  | [] => []

def resolveDots (kept : List (List Char)) : List (List Char) → List (List Char)
  | [] => kept.reverse
  | c :: rest =>
    let ending := if rest = [] then [[]] else []
    match unescapeDots c with
    | ['.'] => resolveDots (ending ++ kept) rest
    | ['.','.'] => resolveDots (ending ++ kept.drop 1) rest
    | _ => resolveDots (c :: kept) rest

def pathText (s : List Char) : String :=
  let inner := match s with
    | '/' :: rest => rest
    | _ => s
  "/" ++ "/".intercalate
    ((resolveDots [] (pieces '/' inner)).map (Escape.encode Escape.inPath))

def filePathText (s : List Char) : String :=
  String.ofList ('/' :: (pathText s).toList.dropWhile (· == '/'))

end SignedUpload.Http.Url
