import KeyLog.Proofs.Volume.Sound

/-!
# What the operations on a volume keep

Whatever is done to a volume comes down to a few operations: something is put into an object, or a
text is opened, removed, renamed, or made or removed as a directory.  A property of volumes that all
of these keep is *lasting*.

* `Volume.lasting_sound`: soundness lasts.
* `Volume.lasting_le_fresh`: no number of an object is given back.
* `Lasting.append`, `resize`, `overwrite`, `openEmpty`: the operations that are made of those.
-/

namespace KeyLog
namespace Volume

/-- The operations that a session is made of keep a property of volumes. -/
structure Lasting (P : Volume → Prop) : Prop where
  put : ∀ {volume : Volume}, P volume → ∀ object held, P (volume.put object held)
  openFile : ∀ {volume : Volume}, P volume → ∀ text create, P (volume.openFile text create).2
  remove : ∀ {volume : Volume}, P volume → ∀ text, P (volume.remove text).2
  rename : ∀ {volume : Volume}, P volume → ∀ source target, P (volume.rename source target).2
  makeDirectory : ∀ {volume : Volume}, P volume → ∀ text, P (volume.makeDirectory text).2
  removeDirectory : ∀ {volume : Volume}, P volume → ∀ text, P (volume.removeDirectory text).2

/-- Soundness lasts. -/
theorem lasting_sound : Lasting Sound :=
  ⟨Sound.put, Sound.openFile, Sound.remove, Sound.rename, Sound.makeDirectory,
    Sound.removeDirectory⟩

/-- The number of the next new object never goes down. -/
theorem lasting_le_fresh (bound : Nat) : Lasting (bound ≤ ·.fresh) where
  put h _ _ := h
  openFile h text create := by
    unfold Volume.openFile
    split
    · exact h
    · exact h
    split
    · exact h
    split
    · exact h
    · exact h
    · split <;> exact h
    · split
      · exact Nat.le_succ_of_le h
      · exact h
  remove h text := by
    unfold Volume.remove
    split
    · exact h
    · exact h
    split
    · exact h
    · exact h
    · exact h
    · split <;> exact h
  rename h source target := by
    unfold Volume.rename
    repeat' split
    all_goals exact h
  makeDirectory h text := by
    unfold Volume.makeDirectory
    repeat' split
    all_goals exact h
  removeDirectory h text := by
    unfold Volume.removeDirectory
    repeat' split
    all_goals exact h

variable {P : Volume → Prop} {volume after : Volume}

/-- A property of the volume that comes with a result holds of the volume that it comes with. -/
theorem of_result {α : Type} {result : α × Volume} (h : P result.2) {value : α}
    (hresult : result = (value, after)) : P after := by
  rw [hresult] at h
  exact h

namespace Lasting

theorem append (hP : Lasting P) (h : P volume) (medium : Medium) (object position : Nat)
    (bytes : Bytes) : P (volume.append medium object position bytes).2 := by
  simp only [Volume.append]
  split
  · exact hP.put h _ _
  · exact hP.put h _ _

theorem resize (hP : Lasting P) (h : P volume) (medium : Medium) (object length : Nat) :
    P (volume.resize medium object length).2 := by
  simp only [Volume.resize]
  split
  · exact h
  · exact hP.put h _ _

theorem overwrite (hP : Lasting P) (h : P volume) (object offset : Nat) (bytes : Bytes) :
    P (volume.overwrite object offset bytes) := by
  simp only [Volume.overwrite]
  split
  · exact h
  · exact hP.put h _ _

theorem openEmpty (hP : Lasting P) (h : P volume) (text : String) : P
    (volume.openEmpty text).2 := by
  have hopen := hP.openFile h text true
  unfold Volume.openEmpty
  split
  next hresult => exact of_result hopen hresult
  next hresult => exact hP.put (of_result hopen hresult) _ _

end Lasting
end Volume

end KeyLog
