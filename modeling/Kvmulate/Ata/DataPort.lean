import Kvmulate.Ata.History

/-!
# Memory safety of the data port

`pio_inw` and `pio_outw` check neither the buffer nor the offset.  Their
accesses stay inside a buffer exactly as long as the guest transfers no more
words than its commands announced.
-/

namespace Kvmulate.Ata

open DeviceLib

/-- The buffer that a data word is moved from or to is allocated, and the two
bytes at the offset lie inside it. -/
def DataAccessInside (cont : AtaController) : Access → Prop
  | .inw address =>
      address = 0 →
        insideBuffer cont.currDev.readBuffer
            cont.currDev.readBufferOffset ∧
          cont.currDev.readBufferOffset + 2 ≤ cont.currDev.readBufferSize
  | .outw address _ =>
      address = 0 →
        insideBuffer cont.currDev.writeBuffer
            cont.currDev.writeBufferOffset ∧
          cont.currDev.writeBufferOffset + 2 ≤
            cont.currDev.writeBufferSize
  | _ => True

/-- The present device is selected, and its latest command of the direction
announced a word that has not been transferred yet. -/
def WordAnnounced (cont : AtaController) (history : History) :
    Access → Prop
  | .inw address =>
      address = 0 →
        cont.pCurrDev = .master ∧ history.wordsRead < history.readWords
  | .outw address _ =>
      address = 0 →
        cont.pCurrDev = .master ∧
          history.written.length < history.writeWords
  | _ => True

theorem dataAccessInside_iff_announced {cont : AtaController}
    {history : History} (tracks : Tracks cont history) (guest : Access) :
    DataAccessInside cont guest ↔ WordAnnounced cont history guest := by
  obtain ⟨fixed, read, write⟩ := tracks
  have readOffset := read.offset
  have readSize := read.size
  have writeOffset := write.offset
  have writeSize := write.size
  cases guest with
  | outb => exact Iff.rfl
  | inb => exact Iff.rfl
  | inw address =>
      refine imp_congr_right fun _ => ?_
      cases selected : cont.pCurrDev with
      | slave =>
          exact iff_of_false
            (fun inside => (fixed.not_inside_slave selected).1 _ inside.1)
            (by simp)
      | master =>
          rw [currDev_of_master selected, read.inside_iff]
          constructor
          · intro inside
            exact ⟨rfl, inside.1⟩
          · intro announced
            have pending := announced.2
            exact ⟨pending, by omega⟩
  | outw address val =>
      refine imp_congr_right fun _ => ?_
      cases selected : cont.pCurrDev with
      | slave =>
          exact iff_of_false
            (fun inside => (fixed.not_inside_slave selected).2 _ inside.1)
            (by simp)
      | master =>
          rw [currDev_of_master selected, write.inside_iff]
          constructor
          · intro inside
            exact ⟨rfl, inside.1⟩
          · intro announced
            have pending := announced.2
            exact ⟨pending, by omega⟩

/-- In every run from the initial state, all data words are moved inside their
buffers exactly when each of them was announced by a command. -/
theorem dataPort_inside_iff (image : List Uint8)
    (inputs : List (HostCalls × Access)) :
    StepsMeet access
        (fun cont (input : HostCalls × Access) =>
          DataAccessInside cont input.2)
        (x86AtaInit image) inputs ↔
      StepsMeet accessObserved
        (fun state (input : HostCalls × Access) =>
          WordAnnounced state.1 state.2 input.2)
        (x86AtaInit image, History.start) inputs := by
  have unobserved :
      StepsMeet accessObserved
          (fun state input => DataAccessInside state.1 input.2)
          (x86AtaInit image, History.start) inputs ↔
        StepsMeet access
          (fun cont input => DataAccessInside cont input.2)
          (x86AtaInit image) inputs :=
    stepsMeet_observed_iff fun cont (input : HostCalls × Access) =>
      DataAccessInside cont input.2
  rw [← unobserved]
  exact stepsMeet_congr related_step
    (fun related => dataAccessInside_iff_announced related _)
    (related_init image)

/-- A data word read before any command dereferences a null pointer. -/
theorem dataPort_not_always_inside :
    ¬ ∀ (image : List Uint8) (inputs : List (HostCalls × Access)),
      StepsMeet access
        (fun cont (input : HostCalls × Access) =>
          DataAccessInside cont input.2)
        (x86AtaInit image) inputs := by
  intro always
  have inside := (always [] [(HostCalls.full, .inw 0)]).1 rfl
  exact Bool.false_ne_true inside.1.1

end Kvmulate.Ata
