import ZkGovernance.Plugin.Deployment

/-!
# Installing, updating and uninstalling the plugin

`RiscVotingProtocolPluginSetup` prepares what the DAO's plugin setup processor
then applies. Installation deploys the plugin initialised with the decoded
settings, and returns no helpers and three grants: settings updates on the
plugin to the DAO, the DAO's `EXECUTE_PERMISSION` to the plugin, and proposal
creation on the plugin to a fixed account (`prepareInstallation_eq_ok`); the
test deployment's permission checks (`setupPermissions`) are the first and the
last of these grants. An update from an earlier build revokes only the upgrade
permission, which installation never grants. Uninstallation reverts unless it
is given exactly one helper, while installation reports none
(`prepareUninstallation_eq_ok`).

Applying a permission list is the work of OSx's `PermissionManager`, which is
not in the repository and is not modelled.
-/

namespace ZkGovernance

open Abi

namespace RiscVotingProtocolPluginSetup

/-- `PermissionLib.Operation`. -/
inductive Operation where
  | grant
  | revoke
  | grantWithCondition
  deriving DecidableEq, Repr

/-- The permission ids the setup names: the plugin's own, the DAO's `EXECUTE_PERMISSION_ID` and
the plugin's `UPGRADE_PLUGIN_PERMISSION_ID`. -/
inductive PermissionId where
  | plugin (permission : Permission)
  | execute
  | upgradePlugin
  deriving DecidableEq, Repr

/-- `PermissionLib.NO_CONDITION`. -/
def noCondition : Address := 0

/-- `PermissionLib.MultiTargetPermission`; its field `where`, a keyword of Lean, is `target`. -/
structure MultiTargetPermission where
  operation : Operation
  target : Address
  who : Address
  condition : Address
  permissionId : PermissionId
  deriving DecidableEq, Repr

/-- `IPluginSetup.PreparedSetupData`. -/
structure PreparedSetupData where
  helpers : List Address
  permissions : List MultiTargetPermission
  deriving DecidableEq, Repr

/-- `IPluginSetup.SetupPayload`, without the `data` no function of the setup reads. -/
structure SetupPayload where
  plugin : Address
  currentHelpers : List Address

/-- `WrongHelpersArrayLength(length)`, the only error the setup throws. -/
inductive SetupError where
  | wrongHelpersArrayLength (length : Nat)
  deriving DecidableEq, Repr

/-- `prepareInstallation(_dao, _data)`, with `_data` decoded to `settings` and the new proxy at
`plugin`: the proxy's `initialize` runs, and no helpers and three grants are returned. -/
def prepareInstallation (dao plugin : Address) (settings : VotingSettings) :
    Except Revert (PluginState × PreparedSetupData) := do
  let state ← initializePlugin settings
  pure (state,
    { helpers := []
      permissions :=
        [{ operation := .grant, target := plugin, who := dao, condition := noCondition
           permissionId := .plugin .updateVotingSettings },
         { operation := .grant, target := dao, who := plugin, condition := noCondition
           permissionId := .execute },
         { operation := .grant, target := plugin, who := proposalCreator,
           condition := noCondition, permissionId := .plugin .createProposal }] })

/-- `prepareUpdate(_dao, _fromBuild, _payload)`: an update from a build before `3` revokes the
DAO's permission to upgrade the plugin. -/
def prepareUpdate (dao : Address) (fromBuild : BitVec 16) (payload : SetupPayload) :
    Bytes × PreparedSetupData :=
  if fromBuild < 3 then
    ([], { helpers := []
           permissions :=
             [{ operation := .revoke, target := payload.plugin, who := dao,
                condition := noCondition, permissionId := .upgradePlugin }] })
  else ([], { helpers := [], permissions := [] })

/-- `prepareUninstallation(_dao, _payload)`: exactly one helper, then two revocations. -/
def prepareUninstallation (dao : Address) (payload : SetupPayload) :
    Except SetupError (List MultiTargetPermission) :=
  if payload.currentHelpers.length ≠ 1 then
    throw (.wrongHelpersArrayLength payload.currentHelpers.length)
  else
    pure
      [{ operation := .revoke, target := payload.plugin, who := dao, condition := noCondition
         permissionId := .plugin .updateVotingSettings },
       { operation := .revoke, target := dao, who := payload.plugin, condition := noCondition
         permissionId := .execute }]

/-! ## What each preparation returns -/

/-- An installation initialises the plugin and prepares no helpers and the three grants. -/
theorem prepareInstallation_eq_ok {dao plugin : Address} {settings : VotingSettings}
    {state : PluginState} {prepared : PreparedSetupData}
    (installed : prepareInstallation dao plugin settings = .ok (state, prepared)) :
    initializePlugin settings = .ok state ∧ prepared.helpers = [] ∧
      prepared.permissions =
        [{ operation := .grant, target := plugin, who := dao, condition := noCondition
           permissionId := .plugin .updateVotingSettings },
         { operation := .grant, target := dao, who := plugin, condition := noCondition
           permissionId := .execute },
         { operation := .grant, target := plugin, who := proposalCreator,
           condition := noCondition, permissionId := .plugin .createProposal }] := by
  simp only [prepareInstallation, Except.bind_eq_ok, Except.pure_eq_ok, Prod.mk.injEq] at installed
  obtain ⟨_, initialized, rfl, rfl⟩ := installed
  exact ⟨initialized, rfl, rfl⟩

/-- Uninstallation prepares its two revocations exactly when it is given one helper. -/
theorem prepareUninstallation_eq_ok {dao : Address} {payload : SetupPayload}
    {revocations : List MultiTargetPermission}
    (uninstalled : prepareUninstallation dao payload = .ok revocations) :
    payload.currentHelpers.length = 1 ∧
      revocations =
        [{ operation := .revoke, target := payload.plugin, who := dao, condition := noCondition
           permissionId := .plugin .updateVotingSettings },
         { operation := .revoke, target := dao, who := payload.plugin, condition := noCondition
           permissionId := .execute }] := by
  unfold prepareUninstallation at uninstalled
  by_cases single : payload.currentHelpers.length = 1
  · simp only [single, ne_eq, not_true_eq_false, if_false, Except.pure_eq_ok] at uninstalled
    exact ⟨single, uninstalled.symm⟩
  · simp [single] at uninstalled

end RiscVotingProtocolPluginSetup

end ZkGovernance
