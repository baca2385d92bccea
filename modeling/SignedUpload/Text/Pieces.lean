/-! Lists cut at a separator. -/
namespace SignedUpload

variable {α : Type} [DecidableEq α]

def pieces (separator : α) : List α → List (List α)
  | [] => [[]]
  | c :: rest =>
    if c = separator then [] :: pieces separator rest
    else match pieces separator rest with
      | [] => [[c]]
      | p :: ps => (c :: p) :: ps

def cut (separator : α) : List α → List α × List α
  | [] => ([],[])
  | c :: rest =>
    if c = separator then ([],rest)
    else let (before,after) := cut separator rest; (c :: before,after)

end SignedUpload
