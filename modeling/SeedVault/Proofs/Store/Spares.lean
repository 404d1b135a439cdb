/-
Stores take no random bytes. What a store does to a machine leaves the random bytes to come as
they are, whether it succeeds or not.
-/

import SeedVault.Proofs.Disk.Reading
import SeedVault.Store.File

namespace SeedVault

/-- A step on the disk changes the disk only. -/
theorem Machine.onDisk_preserves_entropy (operation : FileTree → Except DiskError FileTree) :
    Preserves entropy (ExceptT.mk fun machine => machine.onDisk operation) := by
  intro machine
  change (machine.onDisk operation).2.entropy = machine.entropy
  rw [onDisk]
  split <;> rfl

namespace Disk

theorem ensureDirectories_preserves_entropy (paths : List Path) :
    Preserves Machine.entropy (ensureDirectories paths : ExceptT DiskError (StateM Machine) Unit) :=
  @Leads.ensureDirectories Machine (fun machine after => after.entropy = machine.entropy) _
    (fun _ => rfl) (fun _ _ _ same again => again.trans same) (fun _ _ => rfl) _
    fun path _ => Machine.onDisk_preserves_entropy (·.makeDirectory path)

end Disk

namespace Store

theorem unlessMissing_leads {σ α : Type} {related : σ → σ → Prop}
    {operation : ExceptT DiskError (StateM σ) α} (refl : ∀ state, related state state)
    (trans : ∀ first second third, related first second → related second third →
      related first third)
    (leads : Leads related operation) : Leads related (unlessMissing operation) := by
  apply Leads.tryCatch trans (leads.map _)
  intro problem
  split
  · exact .pure refl _
  · exact .throw refl _

theorem unlessMissing_preserves {α γ : Type} {look : Machine → γ}
    {operation : ExceptT DiskError (StateM Machine) α} (preserves : Preserves look operation) :
    Preserves look (unlessMissing operation) :=
  Preserves.iff_leads.mpr <| unlessMissing_leads (fun _ => rfl)
    (fun _ _ _ same again => again.trans same) (Preserves.iff_leads.mp preserves)

/-- A store takes no random bytes. -/
structure Spares (store : Store (StateM Machine)) : Prop where
  get : Preserves Machine.entropy store.get
  put (vault : Vault) : Preserves Machine.entropy (store.put vault)
  clear : Preserves Machine.entropy store.clear

theorem memory_spares : (memory : Store (StateM Machine)).Spares :=
  ⟨fun _ => rfl, fun _ _ => rfl, fun _ => rfl⟩

theorem file_spares (path : Path) : (file path : Store (StateM Machine)).Spares where
  get := by
    apply Preserves.bind ((unlessMissing_preserves (Disk.readText_preserves path)).adapt _)
    intro text
    cases text with
    | none => exact .pure _
    | some text => exact (Preserves.mk_pure _).map _
  put vault := by
    apply Preserves.adapt
    apply (Disk.ensureDirectories_preserves_entropy path.ancestors).bind
    intro _
    apply (Machine.onDisk_preserves_entropy (·.openEmpty (draftPath path))).bind
    intro _
    apply (Machine.onDisk_preserves_entropy
      (·.append (draftPath path) (Text.utf8 vault.prettyText))).bind
    intro _
    apply (Machine.onDisk_preserves_entropy (·.append (draftPath path) (Text.utf8 "\n"))).bind
    intro _
    exact Machine.onDisk_preserves_entropy (·.rename (draftPath path) path)
  clear := by
    apply Preserves.adapt
    apply (unlessMissing_preserves (Machine.onDisk_preserves_entropy (·.remove path))).bind
    intro _
    exact .pure _

end Store

end SeedVault
