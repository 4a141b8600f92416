import ShuffleMint.Setup
import ShuffleMint.Version

/-!
# Migration

A mint of the same name and of an earlier version is brought to this version. One of this version
stays as it is; one of a later version, or of another name, is refused.
-/

namespace ShuffleMint

/-- Brings the stored version to the current one. -/
def migrate : Step Store Response := do
  let stored ← Store.require Store.contractInfo
  if stored.contract ≠ ContractInfo.current.contract then Step.reject (.general .otherContract)
  else
    match Version.ofString? stored.version, Version.ofString? ContractInfo.current.version with
    | some old, some new =>
      match old.order new with
      | .gt => Step.reject (.general .laterVersion)
      | .eq => pure (Response.silent [])
      | .lt =>
        Step.modify fun s => { s with contractInfo := some ContractInfo.current }
        pure (Response.silent
          [("action", "migrate"), ("from_version", stored.version),
            ("to_version", ContractInfo.current.version)])
    | _, _ => Step.reject (.general .unreadableVersion)

end ShuffleMint
