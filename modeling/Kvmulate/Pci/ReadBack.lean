import Kvmulate.Pci.Handler
import Kvmulate.Pci.Identity

/-!
# Reading back a configuration space

What a store leaves of the registers and of the address of a device, and that
the port handlers leave the table of the bus.
-/

namespace Kvmulate.Pci

open DeviceLib

/-! ## Stores -/

section Stores

variable {dev next : PciDev} {reg : Int} {bytes : List Uint8}

/-- A store behind the header of the bus leaves the address. -/
theorem address_of_storeConf (done : dev.storeConf reg bytes = .ok next)
    (behind : 0 ≤ reg) : next.address = dev.address := by
  unfold PciDev.storeConf at done
  obtain ⟨_, -, rest⟩ := Outcome.bind_eq_ok_iff.mp done
  obtain ⟨raw, stored, built⟩ := Outcome.bind_eq_ok_iff.mp rest
  cases built
  have list := toList_of_storeList stored
  have same : ∀ index, index < 3 →
      raw.toList.getD index 0 = dev.raw.toList.getD index 0 := by
    intro index small
    rw [list, List.getD_eq_getElem?_getD, List.getD_eq_getElem?_getD,
      List.getElem?_append_left, List.getElem?_take_of_lt (by omega)]
    rw [List.length_take, Vector.length_toList]
    unfold confSize
    omega
  unfold PciDev.address PciDev.byte
  simp only
  rw [same 0 (by omega), same 1 (by omega), same 2 (by omega)]

/-- A store returns with the bytes put where the register is. -/
theorem raw_of_storeConf (done : dev.storeConf reg bytes = .ok next) :
    -3 ≤ reg ∧
      next.raw.toList =
        dev.raw.toList.take (3 + reg).toNat ++
          (bytes ++
            dev.raw.toList.drop ((3 + reg).toNat + bytes.length)) := by
  unfold PciDev.storeConf at done
  obtain ⟨_, guarded, rest⟩ := Outcome.bind_eq_ok_iff.mp done
  obtain ⟨raw, stored, built⟩ := Outcome.bind_eq_ok_iff.mp rest
  cases built
  exact ⟨Outcome.guard_eq_ok_iff.mp guarded, toList_of_storeList stored⟩

theorem readConf_of_inside {width : Nat} (low : -3 ≤ reg)
    (high : (3 + reg).toNat + width / 8 ≤ 3 + confSize) :
    dev.readConf width reg =
      .ok (leValue width
        ((dev.raw.toList.drop (3 + reg).toNat).take (width / 8))) := by
  unfold PciDev.readConf
  rw [Outcome.guard_of low, Outcome.ok_bind, loadList_of_le high]
  rfl

/-- A dword is read back. -/
theorem readConf_of_storeConf {val : Uint32}
    (done : dev.storeConf reg (leBytes 4 val) = .ok next)
    (high : (3 + reg).toNat + 4 ≤ 3 + confSize) :
    next.readConf 32 reg = .ok val := by
  obtain ⟨low, list⟩ := raw_of_storeConf done
  have front : (dev.raw.toList.take (3 + reg).toNat).length =
      (3 + reg).toNat := by
    rw [List.length_take, Vector.length_toList]
    omega
  have part :
      (next.raw.toList.drop (3 + reg).toNat).take 4 = leBytes 4 val := by
    rw [list, List.drop_left' front,
      List.take_left' (leBytes_length 4 val)]
  rw [readConf_of_inside low high]
  change Except.ok (leValue 32 (List.take 4 _)) = _
  rw [part, leValue_leBytes val (by decide)]

/-- A store before the register leaves it. -/
theorem readConf_of_storeConf_before {width : Nat} {later : Int}
    (done : dev.storeConf reg bytes = .ok next)
    (before : reg + bytes.length ≤ later)
    (high : (3 + later).toNat + width / 8 ≤ 3 + confSize) :
    next.readConf width later = dev.readConf width later := by
  obtain ⟨low, list⟩ := raw_of_storeConf done
  have front : (dev.raw.toList.take (3 + reg).toNat).length =
      (3 + reg).toNat := by
    rw [List.length_take, Vector.length_toList]
    omega
  have same :
      next.raw.toList.drop (3 + later).toNat =
        dev.raw.toList.drop (3 + later).toNat := by
    rw [list, List.drop_append, List.drop_append, front,
      List.drop_eq_nil_of_le (by omega), List.drop_eq_nil_of_le (by omega),
      List.nil_append, List.nil_append, List.drop_drop]
    congr 1
    omega
  rw [readConf_of_inside (by omega) high,
    readConf_of_inside (by omega) high, same]

end Stores

end Kvmulate.Pci
