import AccessGovernance.Error
import AccessGovernance.Policy.Tree

/-! # Compliance

A record says how it went to bring one provisioned group in line with its policy. A group without a
policy is orphaned; any error makes the record errored, with or without a policy.
-/

namespace AccessGovernance

structure ComplianceRecord where
  group : JitGroup
  provisioned : DirectoryGroup
  policy : Option Policy.Group
  error : Option AccessError
deriving DecidableEq

namespace ComplianceRecord

def isCompliant (r : ComplianceRecord) : Bool :=
  r.policy.isSome && r.error.isNone

/-- The group is provisioned, but no policy declares it. -/
def isOrphaned (r : ComplianceRecord) : Bool :=
  r.policy.isNone && r.error.isNone

def isErrored (r : ComplianceRecord) : Bool :=
  r.error.isSome

end ComplianceRecord

inductive ComplianceSummary
  | nothingToDo
  | compliant (count : Nat)
  | needsAttention (orphaned errored : Nat)
deriving DecidableEq

namespace ComplianceSummary

def ofRecords (records : List ComplianceRecord) : ComplianceSummary :=
  if records = [] then nothingToDo
  else
    let orphaned := records.countP ComplianceRecord.isOrphaned
    let errored := records.countP ComplianceRecord.isErrored
    if orphaned + errored = 0 then compliant records.length else needsAttention orphaned errored

def text : ComplianceSummary → String
  | nothingToDo => "no groups provisioned"
  | compliant count => String.ofList (decimalDigits count) ++ " groups compliant"
  | needsAttention orphaned errored =>
      String.ofList (decimalDigits (orphaned + errored)) ++ " groups need attention (" ++
        String.ofList (decimalDigits orphaned) ++ " orphaned, " ++
        String.ofList (decimalDigits errored) ++ " failed)"

end ComplianceSummary

end AccessGovernance
