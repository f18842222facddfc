/-!
# Ledgers

Values by name, in the order in which the names were first mentioned. A list of pairs is a ledger
when it has no name twice; `put` keeps it so.
-/

namespace Parlance.Ledger

variable {α : Type}

/-- Gives a name a value; a new name comes last. -/
def put : List (String × α) → String → α → List (String × α)
  | [], name, value => [(name, value)]
  | entry :: rest, name, value =>
    if entry.1 = name then (name, value) :: rest else entry :: put rest name value

/-- Puts entries one after the other, on top of a ledger. -/
def putAll (ledger entries : List (String × α)) : List (String × α) :=
  entries.foldl (fun ledger entry => put ledger entry.1 entry.2) ledger

end Parlance.Ledger
