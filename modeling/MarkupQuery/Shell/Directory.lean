/-!
# Names of files and directories

A name is absolute, or says what to go through from a directory. `absoluteName?` gives the one
absolute name of what a name means, without regard to links.
-/

namespace MarkupQuery.Shell

/-- Takes a step on a way, which holds the last step first. Nothing and a dot stay where they are,
and two dots go one step back. -/
def takeStep (way : List String) (step : String) : List String :=
  if step = "" ∨ step = "." then way else if step = ".." then way.tail else step :: way

/-- The absolute name of what a name means in a directory. The empty name means nothing. -/
def absoluteName? (directory name : String) : Option String :=
  if name.isEmpty then none
  else
    let steps := if name.startsWith "/" then name.splitOn "/"
      else directory.splitOn "/" ++ name.splitOn "/"
    some ("/" ++ "/".intercalate (steps.foldl takeStep []).reverse)

def nameIn (directory name : String) : String := directory ++ "/" ++ name

end MarkupQuery.Shell
