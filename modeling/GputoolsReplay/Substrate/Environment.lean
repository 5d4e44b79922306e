/-
  The process environment before a session is opened (`config.rs`, `env.rs`). A program sets and
  removes variables of its own and applies configurations, in any order; `open` then reads one
  variable, and the replayer reads the others.

  * `ReplayerConfig.applyEnv`: the three variables that a configuration owns.
  * `configured_run`: after any such program, the variables say what its last configuration says,
    and every other variable is as if no configuration had ever been applied.
-/
import GputoolsReplay.Substrate.Session

namespace GputoolsReplay

/-! ## The environment -/

/-- The variables that are set, with their values. -/
abbrev Environment := String → Option String

/-- `std::env::set_var`. -/
def Environment.setVar (env : Environment) (name value : String) : Environment :=
  Function.update env name (some value)

/-- `std::env::remove_var`. -/
def Environment.removeVar (env : Environment) (name : String) : Environment :=
  Function.update env name none

/-- `UNLOCK_ENV`. -/
def unlockEnv : String := "MTLREPLAYER_LOCK_PARAM_BUFFER_SIZE_TO_MAX"

/-- `unlock_env_ok`. -/
def unlockEnvOk (env : Environment) : Except UnlockEnvError Unit := checkUnlockEnv (env unlockEnv)

/-! ## Configurations -/

structure ReplayerConfig where
  forceLoadUnusedResources : Bool
  ignoreUnusedResources : Bool
  deviceRegistryId : Option UInt64
  deriving DecidableEq, Repr

/-- `ReplayerConfig::default`. -/
def ReplayerConfig.default : ReplayerConfig where
  forceLoadUnusedResources := false
  ignoreUnusedResources := false
  deviceRegistryId := none

/-- `ReplayerConfig::apply_env`. -/
def ReplayerConfig.applyEnv (c : ReplayerConfig) (env : Environment) : Environment :=
  let env :=
    if c.forceLoadUnusedResources then env.setVar "MTLREPLAYER_FORCE_LOAD_UNUSED_RESOURCE" "1"
    else env.removeVar "MTLREPLAYER_FORCE_LOAD_UNUSED_RESOURCE"
  let env :=
    if c.ignoreUnusedResources then env.setVar "MTLREPLAYER_IGNORE_UNUSED_RESOURCE" "1"
    else env.removeVar "MTLREPLAYER_IGNORE_UNUSED_RESOURCE"
  match c.deviceRegistryId with
  | some id => env.setVar "MTLREPLAYER_OVERRIDE_DEVICE_REGISTRY_ID" id.toNat.repr
  | none => env.removeVar "MTLREPLAYER_OVERRIDE_DEVICE_REGISTRY_ID"

/-- The variables a configuration owns. -/
def ownedVars : List String :=
  ["MTLREPLAYER_FORCE_LOAD_UNUSED_RESOURCE", "MTLREPLAYER_IGNORE_UNUSED_RESOURCE",
    "MTLREPLAYER_OVERRIDE_DEVICE_REGISTRY_ID"]

/-- The owned variables are set as a configuration says: a flag to `1` or not at all, the id in
    decimal or not at all. -/
structure ReplayerConfig.Exported (c : ReplayerConfig) (env : Environment) : Prop where
  forceLoad : env "MTLREPLAYER_FORCE_LOAD_UNUSED_RESOURCE" =
    if c.forceLoadUnusedResources then some "1" else none
  ignore : env "MTLREPLAYER_IGNORE_UNUSED_RESOURCE" =
    if c.ignoreUnusedResources then some "1" else none
  device : env "MTLREPLAYER_OVERRIDE_DEVICE_REGISTRY_ID" =
    c.deviceRegistryId.map fun id => id.toNat.repr

/-- A configuration sets or clears all three, whatever they were. -/
theorem exported_applyEnv (c : ReplayerConfig) (env : Environment) :
    c.Exported (c.applyEnv env) := by
  obtain ⟨force, ignore, id⟩ := c
  constructor
  all_goals
    cases force <;> cases ignore <;> cases id <;>
      simp [ReplayerConfig.applyEnv, Environment.setVar, Environment.removeVar, Function.update]

/-- Only the owned variables change. -/
theorem applyEnv_of_notMem {name : String} (h : name ∉ ownedVars) (c : ReplayerConfig)
    (env : Environment) : c.applyEnv env name = env name := by
  simp only [ownedVars, List.mem_cons, List.not_mem_nil, or_false, not_or] at h
  obtain ⟨force, ignore, id⟩ := c
  cases force <;> cases ignore <;> cases id <;>
    simp [ReplayerConfig.applyEnv, Environment.setVar, Environment.removeVar, Function.update, h]

/-! ## Programs -/

/-- What a program does to its environment. -/
inductive EnvOp where
  | set (name value : String)
  | remove (name : String)
  /-- `Session::configure_env`, also through `Capture::configure_env`. -/
  | configure (c : ReplayerConfig)
  deriving DecidableEq, Repr

def EnvOp.apply (env : Environment) : EnvOp → Environment
  | .set name value => env.setVar name value
  | .remove name => env.removeVar name
  | .configure c => c.applyEnv env

/-- The environment after a program. -/
def Environment.after (env : Environment) (ops : List EnvOp) : Environment :=
  ops.foldl EnvOp.apply env

/-- The program's own steps. -/
def EnvOp.isOwn : EnvOp → Bool
  | .configure _ => false
  | _ => true

/-- A step that leaves the owned variables to the configurations, and applies none. -/
def EnvOp.Apart : EnvOp → Prop
  | .set name _ => name ∉ ownedVars
  | .remove name => name ∉ ownedVars
  | .configure _ => False

instance : (op : EnvOp) → Decidable op.Apart
  | .set name _ => inferInstanceAs (Decidable (name ∉ ownedVars))
  | .remove name => inferInstanceAs (Decidable (name ∉ ownedVars))
  | .configure _ => inferInstanceAs (Decidable False)

theorem apply_of_apart {op : EnvOp} (h : op.Apart) (env : Environment) {name : String}
    (hname : name ∈ ownedVars) : op.apply env name = env name := by
  cases op with
  | set name' value =>
    have hne : name ≠ name' := fun heq => h (heq ▸ hname)
    simp [EnvOp.apply, Environment.setVar, Function.update, hne]
  | remove name' =>
    have hne : name ≠ name' := fun heq => h (heq ▸ hname)
    simp [EnvOp.apply, Environment.removeVar, Function.update, hne]
  | configure c => exact absurd h id

/-- Steps apart leave the owned variables as they are. -/
theorem after_of_apart {ops : List EnvOp} (h : ∀ op ∈ ops, op.Apart) (env : Environment)
    {name : String} (hname : name ∈ ownedVars) : env.after ops name = env name := by
  induction ops generalizing env with
  | nil => rfl
  | cons op ops ih =>
    have hrest := ih (fun op' hop => h op' (List.mem_cons_of_mem _ hop)) (op.apply env)
    exact hrest.trans (apply_of_apart (h op (List.mem_cons_self ..)) env hname)

/-- A step acts alike on two environments that agree on the variables that are not owned. -/
theorem apply_congr {env env' : Environment} (h : ∀ name ∉ ownedVars, env name = env' name)
    (op : EnvOp) (hown : op.isOwn = true) :
    ∀ name ∉ ownedVars, op.apply env name = op.apply env' name := by
  intro name hname
  have heq := h name hname
  cases op with
  | set name' value =>
    show Function.update env name' _ name = Function.update env' name' _ name
    simp only [Function.update_apply, heq]
  | remove name' =>
    show Function.update env name' _ name = Function.update env' name' _ name
    simp only [Function.update_apply, heq]
  | configure c => cases hown

/-- The variables that are not owned see the program's own steps only. -/
theorem after_filter_isOwn (ops : List EnvOp) {env env' : Environment}
    (h : ∀ name ∉ ownedVars, env name = env' name) :
    ∀ name ∉ ownedVars, env.after ops name = env'.after (ops.filter EnvOp.isOwn) name := by
  induction ops generalizing env env' with
  | nil => exact h
  | cons op ops ih =>
    cases hown : op.isOwn with
    | true =>
      rw [List.filter_cons_of_pos hown]
      exact ih (apply_congr h op hown)
    | false =>
      rw [List.filter_cons_of_neg (by simp [hown])]
      apply ih
      intro name hname
      cases op with
      | configure c => exact (applyEnv_of_notMem hname c env).trans (h name hname)
      | set _ _ => cases hown
      | remove _ => cases hown

/-- After any program, whose steps behind its last configuration leave the owned variables alone:
    the owned variables are set or cleared as that configuration says, whatever was exported or
    configured before; every other variable is as the program's own steps alone make it; and so `open` finds
    the unlock variable as if nothing had been configured. -/
theorem configured_run (env : Environment) (before after : List EnvOp) (c : ReplayerConfig)
    (hafter : ∀ op ∈ after, op.Apart) :
    c.Exported (env.after (before ++ .configure c :: after)) ∧
    (∀ name ∉ ownedVars, env.after (before ++ .configure c :: after) name =
      env.after ((before ++ .configure c :: after).filter EnvOp.isOwn) name) ∧
    unlockEnvOk (env.after (before ++ .configure c :: after)) =
      unlockEnvOk (env.after ((before ++ .configure c :: after).filter EnvOp.isOwn)) := by
  have hframe : ∀ name ∉ ownedVars, env.after (before ++ .configure c :: after) name =
      env.after ((before ++ .configure c :: after).filter EnvOp.isOwn) name :=
    after_filter_isOwn _ fun name _ => rfl
  refine ⟨?_, hframe, ?_⟩
  · have hsplit : env.after (before ++ .configure c :: after) =
        (c.applyEnv (env.after before)).after after := by
      simp [Environment.after, List.foldl_append, EnvOp.apply]
    have hkept : ∀ name ∈ ownedVars, env.after (before ++ .configure c :: after) name =
        c.applyEnv (env.after before) name := fun name hname => by
      rw [hsplit, after_of_apart hafter _ hname]
    obtain ⟨hforce, hignore, hdevice⟩ := exported_applyEnv c (env.after before)
    exact ⟨(hkept _ (by simp [ownedVars])).trans hforce,
      (hkept _ (by simp [ownedVars])).trans hignore,
      (hkept _ (by simp [ownedVars])).trans hdevice⟩
  · unfold unlockEnvOk
    rw [hframe unlockEnv (by decide)]

/-- A stale export, two configurations, and the unlock variable set in between. -/
def staleExport : List EnvOp :=
  [.set "MTLREPLAYER_IGNORE_UNUSED_RESOURCE" "1", .configure ⟨false, true, some 4294968832⟩,
    .set unlockEnv "0"]

theorem configured_run_staleExport :
    (ReplayerConfig.mk true false none).Exported (Environment.after (fun _ => none)
      (staleExport ++ .configure ⟨true, false, none⟩ :: [.set "RUST_BACKTRACE" "1"])) :=
  (configured_run (fun _ => none) staleExport [.set "RUST_BACKTRACE" "1"] ⟨true, false, none⟩
    (by decide)).1

end GputoolsReplay
