import ProvisionGate.Toml.Number

/-!
# Tables that stand for dates and times

A table whose first key is `dateTimeKey` is the date or time that the text under this key writes,
whatever else the table holds.  Under any other member the key is a key like all others.
-/

namespace ProvisionGate.Toml

/-- The key that makes a table a date or a time. -/
def dateTimeKey : String := "$__toml_private_datetime"

/-- The date or time that a text writes, from its start to its end. -/
def Value.asDateTime? : Value → Option Value
  | .text s =>
    match dateTime? s.toList with
    | some (v, []) => some v
    | _ => none
  | _ => none

mutual

/-- The value with a date or a time in the place of every table that stands for one; none if the
member that should write it does not. -/
def Value.withDateTimes? : Value → Option Value
  | .array items => do return .array (← itemsWithDateTimes? items)
  | .table [] => some (.table [])
  | .table ((key, v) :: rest) =>
    if key = dateTimeKey then v.asDateTime?
    else do return .table ((key, ← v.withDateTimes?) :: (← membersWithDateTimes? rest))
  | v => some v

/-- The items of an array with the dates and times in them. -/
def itemsWithDateTimes? : List Value → Option (List Value)
  | [] => some []
  | v :: rest => do return (← v.withDateTimes?) :: (← itemsWithDateTimes? rest)

/-- The members of a table with the dates and times in them. -/
def membersWithDateTimes? : List (String × Value) → Option (List (String × Value))
  | [] => some []
  | (key, v) :: rest => do return (key, ← v.withDateTimes?) :: (← membersWithDateTimes? rest)

end

end ProvisionGate.Toml
