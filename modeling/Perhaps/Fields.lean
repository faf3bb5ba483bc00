/-! Named fields in order of insertion. Putting a name that is there replaces its value where it stands;
a new name goes to the end. -/
namespace Perhaps

abbrev Fields (β : Type) := List (String × β)

namespace Fields

variable {β : Type}

def get? (name : String) : Fields β → Option β
  | [] => none
  | (n, v) :: fs => if n = name then some v else get? name fs

def put (name : String) (value : β) : Fields β → Fields β
  | [] => [(name, value)]
  | (n, v) :: fs => if n = name then (n, value) :: fs else (n, v) :: put name value fs

def putIfAbsent (name : String) (value : β) (fs : Fields β) : Fields β :=
  if (fs.get? name).isSome then fs else fs.put name value

def erase (name : String) : Fields β → Fields β
  | [] => []
  | (n, v) :: fs => if n = name then erase name fs else (n, v) :: erase name fs

def ofAssignments (as : List (String × β)) : Fields β := as.foldl (fun fs a => fs.put a.1 a.2) []

theorem getPut (name other : String) (value : β) (fs : Fields β) :
    (fs.put name value).get? other = if other = name then some value else fs.get? other := by
  induction fs with
  | nil => simp [put, get?, eq_comm]
  | cons f fs ih =>
    by_cases hn : f.1 = name <;> by_cases h : f.1 = other <;> grind [put, get?]

end Fields
end Perhaps
