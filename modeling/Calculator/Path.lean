import Calculator.Text.Split

/-!
Paths as text.

A path names a place by the steps that lead there, parted by slashes; it starts at the root if it
begins with a slash. Empty steps and the step `.` go nowhere, but a `.` at the front is kept: `./a`
lies in `.`, which in turn lies in the empty path, the working directory. The directories above a
path are found from its text alone, so the step `..` is a step like any other.
-/

namespace Calculator.Path

/-- Whether a step goes nowhere. -/
def isIdle (step : List Char) : Bool := step.isEmpty || step == ['.']

/-- The front of a path, which is no step, and the steps behind it. -/
def splitLead : List Char → List Char × List Char
  | '/' :: cs => (['/'], cs)
  | ['.'] => (['.'], [])
  | '.' :: '/' :: cs => (['.'], '/' :: cs)
  | cs => ([], cs)

/-- The directories above the place that `steps` lead to, nearest first. -/
def parentsOf (lead : List Char) (steps : List (List Char)) : List String :=
  match _h : Text.trimEnd isIdle steps with
  | [] => if lead = ['.'] then [""] else []
  | step :: rest =>
    let above := Text.trimEnd isIdle (step :: rest).dropLast
    String.ofList (lead ++ ['/'].intercalate above) :: parentsOf lead above
termination_by steps.length
decreasing_by
  have := Text.length_trimEnd_le isIdle steps
  have := Text.length_trimEnd_le isIdle (step :: rest).dropLast
  simp_all
  omega

/-- The directories above a path, nearest first. -/
def parents (path : String) : List String :=
  let (lead, body) := splitLead path.toList
  parentsOf lead (Text.splitAt '/' body)

/-- The path of a name in a directory. -/
def join (directory name : String) : String :=
  if directory.isEmpty || directory.toList.getLast? == some '/' then directory ++ name
  else directory ++ "/" ++ name

end Calculator.Path
