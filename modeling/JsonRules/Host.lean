/-
# JsonRules.Host -- where the values of variables come from

A host gives the value of a variable, asked with its name and with its slot if it has one.
A record looks the name up as a path; a row of values is indexed by the slot and searches
its names only for a variable without one.

A host is a pure function of the name and the slot: it cannot tell when or how often it is asked,
and the same question has the same answer throughout a run.  A closure with a state of its own could
also be asked for values.  Such hosts are left out here, and no statement about runs covers them.
-/
import JsonRules.Path

namespace JsonRules

set_option autoImplicit false

/-- Gives the value of a variable from its name and its slot. -/
abbrev Host := String → Option Nat → Option Value

namespace Host

/-- Every variable is a path into one value. -/
def record (value : Value) : Host := fun name _ => Path.resolve? value name

/-- Values in the order of a list of names. -/
def positional (names : List String) (values : List Value) : Host := fun name slot =>
  (slot.or (names.idxOf? name)).bind (values[·]?)

/-- Names with their values, of which the first counts; slots play no part. -/
def ofPairs (pairs : List (String × Value)) : Host := fun name _ => Entries.get? name pairs

end Host

end JsonRules
