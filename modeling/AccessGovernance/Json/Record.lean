import AccessGovernance.Json.Value

/-! # Records in JSON

A record is stored as an object, or as a list of its fields in their order. An object may have
further fields, a list may not; fields at the end of a list may be absent.
-/

namespace AccessGovernance

namespace Json

def recordFields? (keys : List String) : Json → Option (List (Option Json))
  | object fields => some (keys.map fun key => fields.lookup key)
  | array items =>
      if items.length ≤ keys.length then
        some (items.map some ++ List.replicate (keys.length - items.length) none)
      else none
  | _ => none

/-- The name of an alternative without content: a text, or the key of an object that has no other
field and holds null. -/
def alternative? : Json → Option String
  | string name => some name
  | object [(name, null)] => some name
  | _ => none

end Json

end AccessGovernance
