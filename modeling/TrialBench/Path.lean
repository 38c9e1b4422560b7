namespace TrialBench.Path

def isAbsolute (path : String) : Bool := path.toList.head? == some '/'

-- An absolute right side takes the whole place of the left one. Nothing is
-- resolved or cleaned up, and an empty right side leaves a slash behind.
def join (left right : String) : String :=
  if isAbsolute right ∨ left = "" then right
  else if left.toList.getLast? = some '/' then left ++ right
  else left ++ "/" ++ right

def segments (path : String) : List String := path.splitOn "/"

def isIdle (segment : String) : Bool := segment == "" || segment == "."

-- The segments that a walk from the root or the working folder takes.
def steps (path : String) : List String := (segments path).filter (¬ isIdle ·)

def dropIdleEnd (segments : List String) : List String :=
  (segments.reverse.dropWhile isIdle).reverse

def unsplit (first : String) (rest : List String) : String :=
  match rest with
  | [] => if first = "" then "/" else first
  | _ => String.intercalate "/" (first :: rest)

-- The path without its last step. The root and the empty path have none.
def parent? (path : String) : Option String :=
  match segments path with
  | [] => none
  | first :: rest =>
    match dropIdleEnd rest with
    | [] => if first = "" then none else some ""
    | named => some (unsplit first (dropIdleEnd named.dropLast))

def withExtension? (path extension : String) : Option String :=
  match dropIdleEnd (segments path) with
  | [] => none
  | named =>
    if named.getLast? = some ".." then none
    else some (String.intercalate "/" named ++ "." ++ extension)

def plain (path : String) : String :=
  (if isAbsolute path then "/" else "") ++ String.intercalate "/" (steps path)

end TrialBench.Path
