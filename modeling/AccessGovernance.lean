import AccessGovernance.Catalog
import AccessGovernance.Policy.Check
import AccessGovernance.Proofs.Expiry
import AccessGovernance.Proofs.Expression.Printing
import AccessGovernance.Proofs.Identity.GroupNaming
import AccessGovernance.Proofs.Policy.ExpiryLimits
import AccessGovernance.Proofs.Policy.GroupIds
import AccessGovernance.Proofs.Policy.Inheritance
import AccessGovernance.Proofs.Policy.Monotonicity
import AccessGovernance.Proofs.Reconciliation.Sweep
import AccessGovernance.Reconciliation.Schedule
import AccessGovernance.Settings
import AccessGovernance.Proofs.Policy.CheckOutcomes
import AccessGovernance.Proofs.Expression.Dependence
import AccessGovernance.Proofs.Policy.CheckIsolation
import AccessGovernance.Proofs.Policy.InputNames
import AccessGovernance.Proofs.Catalog
import AccessGovernance.Proofs.Policy.PassageOfTime
import AccessGovernance.Proofs.Policy.Siblings
import AccessGovernance.Text.LowerCase.Forms
import AccessGovernance.Proofs.Identity.LetterCase
import AccessGovernance.Proofs.Settings.GroupDomain
import AccessGovernance.Proofs.Policy.IntegerInputs
import AccessGovernance.Proofs.Policy.PermissionLists
import AccessGovernance.Proofs.Expression.Calls
import AccessGovernance.Proofs.Policy.SiblingIndependence
import AccessGovernance.Proofs.Policy.PrincipalOrder
import AccessGovernance.Proofs.Expression.Progress
