import Portcullis.Counter.Update
import Portcullis.Reconcile.Trigger
import Portcullis.Report.Result

/-!
# The vocabulary of reports

The names and codes that reports use for states, reasons, verdicts, triggers and updates, and the
constants that generated configurations hold, in one record.
-/

namespace Portcullis

open Portcullis.Admission

def Phase.toDatum (p : Phase) : Datum :=
  .list [.text p.name, .count p.code, .flag p.isLive, .flag p.isDown]

def allVerdicts : List Verdict :=
  [.allow, .deny]

def allReasons : List Reason :=
  [.invalidAddress, .notBlacklisted, .blacklisted, .unknownListener, .checkDisabled, .whitelisted,
    .notWhitelisted, .storeError]

/-- An update as it is referred to. -/
def CounterUpdate.toDatum (u : CounterUpdate) : Datum :=
  .list [.text u.kind, .count u.id.toNat]

def vocabulary : Datum :=
  .object
    [("states", .list (Phase.all.map Phase.toDatum)),
      ("default_state", .text ({} : Supervisor).phase.name),
      ("reasons", .texts (allReasons.map Reason.name)),
      ("verdicts", .texts (allVerdicts.map Verdict.name)),
      ("triggers", .texts (Trigger.all.map Trigger.name)),
      ("updates", .list (([.block 1 0, .access 3 0] : List CounterUpdate).map
        CounterUpdate.toDatum)),
      ("sni_source", .text serverNameVariable),
      ("upstream_error_codes", .list (gatewayErrorCodes.map fun c => .count c.toNat))]

end Portcullis
