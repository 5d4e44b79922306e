/-
  The offline manifest of a capture (`capture.rs`, with the feature `offline-manifest`). The bundle
  is opened when it is first needed, and what came of it is kept in a cell.

  * `Capture.openBundle` and the methods over it: the cell is the state.
  * `ManifestCall.tells`: what one call answers, once the cell is filled.
  * `one_manifest`: over any run of calls, whatever becomes of the bundle on disk, all answers are
    of one manifest, the one that the first call in need of it found.
-/
import GputoolsReplay.Hl.DescribeJoin
import GputoolsReplay.Hl.Error

namespace GputoolsReplay

/-- `gputrace_bundle::Bundle` (third party), as far as a capture asks it. -/
structure Bundle where
  textures : List TextureDescriptor
  textureCount : Nat
  recordCount : Nat
  deriving DecidableEq

/-- `texture_count()` counts `textures()`. -/
def Bundle.Counted (b : Bundle) : Prop := b.textureCount = b.textures.length

/-- `ManifestStatus`. -/
inductive ManifestStatus where
  | ok (textures : Nat)
  | noDescriptors
  | unparseable
  deriving DecidableEq, Repr

/-- `DescribedTexture`. -/
structure DescribedTexture where
  texture : Texture
  descriptor : Option TextureDescriptor
  deriving DecidableEq

/-- What the cell holds once it is filled: the bundle, or that it could not be parsed. -/
abbrev Manifest := Except Unit Bundle

/-- A method that may fill the cell. -/
abbrev WithManifest (α : Type) := StateM (Option Manifest) α

namespace Capture

-- `disk` is what `Bundle::open` would make of the bundle on disk at the time of the call
variable (disk : Except String Bundle)

/-- `Capture::open_bundle`. -/
def openBundle : WithManifest Manifest := do
  match ← get with
  | some bundle => return bundle
  | none =>
    let bundle := disk.mapError fun _ => ()
    set (some bundle)
    return bundle

/-- `Capture::manifest`. -/
def manifest : WithManifest (Option Bundle) := return (← openBundle disk).toOption

/-- `Capture::manifest_status`. -/
def manifestStatus : WithManifest ManifestStatus := do
  match ← openBundle disk with
  | .error () => return .unparseable
  | .ok b => if b.textureCount = 0 then return .noDescriptors else return .ok b.textureCount

/-- `Capture::record_count`. -/
def recordCount : WithManifest (Option Nat) := return (← manifest disk).map Bundle.recordCount

/-- `Capture::describe`. -/
def describe (texs : List Texture) : WithManifest Descriptions := do
  let descs := ((← manifest disk).map Bundle.textures).getD []
  return describeTextures texs descs

/-- `Capture::textures_described`, from what `Capture::textures` answers. -/
def texturesDescribed (textures : Except Error (List Texture)) :
    WithManifest (Except Error (List DescribedTexture)) := do
  match textures with
  | .error e => return .error e
  | .ok texs =>
    let described ← describe disk texs
    return .ok ((texs.zip described.perTexture).map fun (texture, descriptor) =>
      { texture, descriptor })

end Capture

/-! ## Runs -/

/-- A call of a method over the manifest. -/
inductive ManifestCall where
  | status
  | recordCount
  | describe (texs : List Texture)
  | texturesDescribed (textures : Except Error (List Texture))

/-- Its answer. -/
inductive ManifestAnswer where
  | status (status : ManifestStatus)
  | recordCount (count : Option Nat)
  | descriptions (descriptions : Descriptions)
  | described (result : Except Error (List DescribedTexture))
  deriving DecidableEq

/-- A call, where `Bundle::open` would answer `disk`. -/
def ManifestCall.run (disk : Except String Bundle) : ManifestCall → WithManifest ManifestAnswer
  | status => return .status (← Capture.manifestStatus disk)
  | recordCount => return .recordCount (← Capture.recordCount disk)
  | describe texs => return .descriptions (← Capture.describe disk texs)
  | texturesDescribed textures => return .described (← Capture.texturesDescribed disk textures)

/-- A run of calls, each with the bundle on disk at its time. -/
def runCalls : List (ManifestCall × Except String Bundle) → WithManifest (List ManifestAnswer)
  | [] => return []
  | (call, disk) :: calls => return (← call.run disk) :: (← runCalls calls)

/-! ## What a call answers -/

/-- The descriptors of a manifest. -/
def manifestTextures (m : Manifest) : List TextureDescriptor :=
  (m.toOption.map Bundle.textures).getD []

/-- The call needs the manifest: all do, but for one whose fetch has failed. -/
def ManifestCall.reads : ManifestCall → Bool
  | texturesDescribed (.error _) => false
  | _ => true

/-- The answer `a` to a call is what the manifest `m` says. -/
def ManifestCall.Tells (m : Manifest) (call : ManifestCall) (a : ManifestAnswer) : Prop :=
  match call with
  | status => ∃ s, a = .status s ∧ (s = .unparseable ↔ m = .error ()) ∧
      ∀ n, s = .ok n ↔ 0 < n ∧ (manifestTextures m).length = n
  | recordCount => a = .recordCount (m.toOption.map Bundle.recordCount)
  | describe texs => ∃ d, a = .descriptions d ∧ d = describeTextures texs (manifestTextures m) ∧
      d.perTexture.length = texs.length ∧
      d.perTexture.countP Option.isSome + d.unplaced.length + d.transparent.length =
        (manifestTextures m).length
  | texturesDescribed (.error e) => a = .described (.error e)
  | texturesDescribed (.ok texs) => ∃ entries, a = .described (.ok entries) ∧
      entries.map DescribedTexture.texture = texs ∧
      entries.map DescribedTexture.descriptor =
        (describeTextures texs (manifestTextures m)).perTexture

section Calls

variable {m : Manifest} {disk : Except String Bundle} {cell : Option Manifest}
  {call : ManifestCall} {calls : List (ManifestCall × Except String Bundle)}

/-- The first call in need of the manifest goes on as if the cell had been filled before. -/
theorem run_empty (hreads : call.reads = true) :
    (call.run disk).run none = (call.run disk).run (some (disk.mapError fun _ => ())) := by
  cases call with
  | status | recordCount | describe => rfl
  | texturesDescribed textures =>
    cases textures with
    | error e => cases hreads
    | ok texs => rfl

/-- A call that does not need it leaves the cell alone. -/
theorem run_unread (hreads : call.reads = false) :
    ∃ a, (call.run disk).run cell = (a, cell) ∧ ∀ m, call.Tells m a := by
  cases call with
  | status | recordCount | describe => cases hreads
  | texturesDescribed textures =>
    cases textures with
    | error e => exact ⟨_, rfl, fun _ => rfl⟩
    | ok texs => cases hreads

/-- The status is what the manifest says. -/
theorem run_status (hcounted : ∀ b, m = .ok b → b.Counted) :
    ∃ a, (ManifestCall.status.run disk).run (some m) = (a, some m) ∧
      ManifestCall.status.Tells m a := by
  cases m with
  | error u =>
    refine ⟨_, rfl, _, rfl, ⟨fun _ => rfl, fun _ => rfl⟩, fun n => ⟨nofun, fun h => ?_⟩⟩
    have hlength : 0 = n := h.2
    omega
  | ok b =>
    have hlength : b.textureCount = b.textures.length := hcounted b rfl
    have hrun : (ManifestCall.status.run disk).run (some (.ok b)) =
        (.status (if b.textureCount = 0 then .noDescriptors else .ok b.textureCount),
          some (.ok b)) := by
      by_cases hzero : b.textureCount = 0
      · simp [ManifestCall.run, Capture.manifestStatus, Capture.openBundle, hzero]
        rfl
      · simp [ManifestCall.run, Capture.manifestStatus, Capture.openBundle, hzero]
        rfl
    refine ⟨_, hrun, _, rfl, ?_, fun n => ?_⟩
    · by_cases hzero : b.textureCount = 0 <;> simp [hzero]
    · show _ ↔ 0 < n ∧ b.textures.length = n
      rw [← hlength]
      by_cases hzero : b.textureCount = 0
      · rw [if_pos hzero]
        exact ⟨nofun, fun h => by omega⟩
      · rw [if_neg hzero, ManifestStatus.ok.injEq]
        exact ⟨fun h => by omega, fun h => h.2⟩

/-- Once the cell is filled, a call answers from it and leaves it. -/
theorem run_filled (hcounted : ∀ b, m = .ok b → b.Counted) :
    ∃ a, (call.run disk).run (some m) = (a, some m) ∧ call.Tells m a := by
  cases call with
  | status => exact run_status hcounted
  | recordCount => exact ⟨_, rfl, rfl⟩
  | describe texs =>
    have hjoin := describeTextures_partition texs (manifestTextures m)
    exact ⟨_, rfl, _, rfl, rfl, hjoin.length, hjoin.count⟩
  | texturesDescribed textures =>
    cases textures with
    | error e => exact ⟨_, rfl, rfl⟩
    | ok texs =>
      have hlength := (describeTextures_partition texs (manifestTextures m)).length
      refine ⟨_, rfl, _, rfl, ?_, ?_⟩
      · rw [List.map_map]
        exact List.map_fst_zip hlength.ge
      · rw [List.map_map]
        exact List.map_snd_zip hlength.le

/-! ## What a run answers -/

theorem runCalls_cons {a : ManifestAnswer} {cell' : Option Manifest}
    (h : (call.run disk).run cell = (a, cell')) :
    (runCalls ((call, disk) :: calls)).run cell =
      (a :: ((runCalls calls).run cell').1, ((runCalls calls).run cell').2) := by
  show ((call.run disk >>= fun a => runCalls calls >>= fun as => pure (a :: as)).run cell) = _
  rw [StateT.run_bind, h]
  rfl

theorem runCalls_filled (hcounted : ∀ b, m = .ok b → b.Counted) :
    List.Forall₂ (fun call a => call.1.Tells m a) calls ((runCalls calls).run (some m)).1 ∧
      ((runCalls calls).run (some m)).2 = some m := by
  induction calls with
  | nil => exact ⟨.nil, rfl⟩
  | cons call calls ih =>
    obtain ⟨a, ha, htells⟩ := @run_filled _ call.2 call.1 hcounted
    rw [runCalls_cons ha]
    exact ⟨.cons htells ih.1, ih.2⟩

/-- Every answer of a run of calls on one capture is of one manifest, whatever becomes of the bundle
    on disk between the calls: the one that the first call in need of it found. The status counts
    its descriptors, which every description gives to the textures or sets aside, and no texture is
    lost in `textures_described`. A call whose fetch failed answers the error, and opens nothing. -/
theorem one_manifest (calls : List (ManifestCall × Except String Bundle))
    (hcounted : ∀ call ∈ calls, ∀ b, call.2 = .ok b → b.Counted) :
    ∃ m, List.Forall₂ (fun call a => call.1.Tells m a) calls ((runCalls calls).run none).1 ∧
      (((runCalls calls).run none).2 = none ∧ (∀ call ∈ calls, call.1.reads = false) ∨
        ((runCalls calls).run none).2 = some m ∧
          ∃ call, (calls.find? fun call => call.1.reads) = some call ∧
            m = call.2.mapError fun _ => ()) := by
  induction calls with
  | nil => exact ⟨.error (), .nil, Or.inl ⟨rfl, by simp⟩⟩
  | cons call calls ih =>
    cases hreads : call.1.reads with
    | true =>
      have hfound : ∀ b, (call.2.mapError fun _ => () : Manifest) = .ok b → b.Counted := by
        intro b hb
        apply hcounted call (by simp) b
        cases hdisk : call.2 with
        | error e => rw [hdisk] at hb; cases hb
        | ok b' => rw [hdisk] at hb; cases hb; rfl
      obtain ⟨a, ha, htells⟩ := @run_filled _ call.2 call.1 hfound
      rw [← run_empty hreads] at ha
      obtain ⟨hall, hcell⟩ := @runCalls_filled _ calls hfound
      refine ⟨_, ?_, Or.inr ⟨?_, call, List.find?_cons_of_pos hreads, rfl⟩⟩
      · rw [runCalls_cons ha]
        exact .cons htells hall
      · rw [runCalls_cons ha]
        exact hcell
    | false =>
      obtain ⟨a, ha, htells⟩ := @run_unread call.2 none call.1 hreads
      obtain ⟨m, hall, hcell⟩ := ih fun call' hcall' => hcounted call' (by simp [hcall'])
      refine ⟨m, ?_, ?_⟩
      · rw [runCalls_cons ha]
        exact .cons (htells m) hall
      · rw [runCalls_cons ha, List.find?_cons_of_neg (by simp [hreads])]
        rcases hcell with ⟨hcell, hnone⟩ | h
        · exact Or.inl ⟨hcell, List.forall_mem_cons.mpr ⟨hreads, hnone⟩⟩
        · exact Or.inr h

end Calls

/-- Calls while the bundle on disk changes: a fetch fails, the status finds one descriptor, and then
    the bundle is gone. -/
def changingDisk : List (ManifestCall × Except String Bundle) :=
  [(.texturesDescribed (.error .truncated), .error "no index"),
    (.status, .ok ⟨[testDescriptor 0 1 1 80 1], 1, 9⟩), (.recordCount, .error "no index"),
    (.texturesDescribed (.ok [srTex 7 1 1]), .ok ⟨[], 0, 0⟩)]

theorem one_manifest_changingDisk :
    ((runCalls changingDisk).run none).1 =
      [.described (.error .truncated), .status (.ok 1), .recordCount (some 9),
        .described (.ok [⟨srTex 7 1 1, some (testDescriptor 0 1 1 80 1)⟩])] ∧
    ∃ m, List.Forall₂ (fun call a => call.1.Tells m a) changingDisk
      ((runCalls changingDisk).run none).1 := by
  have hcounted : ∀ call ∈ changingDisk, ∀ b, call.2 = .ok b → b.Counted := by
    simp [changingDisk, Bundle.Counted]
  obtain ⟨m, hall, -⟩ := one_manifest changingDisk hcounted
  exact ⟨by decide, m, hall⟩

end GputoolsReplay
