namespace TrialBench.Names

-- Names met more than once, each listed once, at the place of its first repeat.
def repeatsFrom (seen listed : List String) : List String → List String
  | [] => []
  | name :: rest =>
    if name ∈ seen then
      if name ∈ listed then repeatsFrom seen listed rest
      else name :: repeatsFrom seen (name :: listed) rest
    else repeatsFrom (name :: seen) listed rest

def repeats (names : List String) : List String := repeatsFrom [] [] names

-- A list of tests is usable when no two of them share a name.
def check (names : List String) : Except (List String) Unit :=
  match repeats names with
  | [] => .ok ()
  | repeated => .error repeated

def repeatsMessage (repeated : List String) : String :=
  "duplicate test name(s): " ++ String.intercalate ", " repeated

end TrialBench.Names
