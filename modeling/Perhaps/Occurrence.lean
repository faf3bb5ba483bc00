/-! Occurrences. Errors, undefined numbers and containers are objects: two of them can be alike and still
not be one. An object has a number once a register holds it; one without a number is referred to from
a single place, so it is no other object. -/
namespace Perhaps

abbrev Occurrence := Option Nat

namespace Occurrence

def same : Occurrence → Occurrence → Bool
  | some m, some n => m == n
  | _, _ => false

def numbered (o : Occurrence) (n : Nat) : Occurrence := some (o.getD n)

end Occurrence
end Perhaps
