import Kvmulate.Lib.Bytes

/-!
# A block device

A disk maps addresses to sectors of 512 bytes.  Requests read and write
consecutive sectors, seen as little-endian words.
-/

namespace DeviceLib

abbrev Sector := Fin 512 → Byte

abbrev Disk := Nat → Sector

namespace Disk

/-- The word at a position of a sector. -/
def sectorWord (sector : Sector) (index : Fin 256) : Word :=
  sector ⟨2 * index + 1, by omega⟩ ++ sector ⟨2 * index, by omega⟩

def sectorWords (sector : Sector) : List Word :=
  List.ofFn (sectorWord sector)

/-- The words of `count` sectors from `lba`. -/
def read (disk : Disk) (lba count : Nat) : List Word :=
  (List.range count).flatMap fun index => sectorWords (disk (lba + index))

/-- Let the `count` sectors from `lba` hold the words. -/
def write (disk : Disk) (lba count : Nat) (words : List Word) : Disk :=
  fun sector byte =>
    if lba ≤ sector ∧ sector < lba + count then
      (words.flatMap wordBytes).getD (512 * (sector - lba) + byte) 0
    else disk sector byte

/-- The disk that a file holds, zero beyond its end. -/
def ofBytes (bytes : List Byte) : Disk :=
  fun sector byte => bytes.getD (512 * sector + byte) 0

theorem sectorWord_ofBytes (bytes : List Byte) (sector : Nat)
    (index : Fin 256) :
    sectorWord (ofBytes bytes sector) index =
      loadWord bytes (512 * sector + 2 * index) := rfl

theorem sectorWords_ofBytes (bytes : List Byte) (sector : Nat) :
    sectorWords (ofBytes bytes sector) =
      windowWords bytes (512 * sector) 256 := by
  apply List.ext_getElem
  · rw [sectorWords, List.length_ofFn, windowWords_length]
  · intro index bound _
    simp only [sectorWords, List.getElem_ofFn, sectorWord_ofBytes,
      windowWords, List.getElem_map, List.getElem_range]

/-- Consecutive sectors of a file are consecutive words of it. -/
theorem read_ofBytes (bytes : List Byte) (lba count : Nat) :
    (ofBytes bytes).read lba count =
      windowWords bytes (512 * lba) (256 * count) := by
  induction count with
  | zero =>
      rfl
  | succ count inductionHypothesis =>
      have more : 256 * (count + 1) = 256 * count + 256 := by
        ring
      have position :
          512 * (lba + count) = 512 * lba + 2 * (256 * count) := by
        ring
      unfold read at inductionHypothesis ⊢
      rw [List.range_succ, List.flatMap_append, inductionHypothesis,
        List.flatMap_singleton, sectorWords_ofBytes, position, more,
        windowWords_add]

/-- Overwriting whole sectors of a file writes them to its disk. -/
theorem ofBytes_overwrite (bytes : List Byte) (lba count : Nat)
    {words : List Word} (length : words.length = 256 * count) :
    ofBytes (overwrite bytes (512 * lba) (words.flatMap wordBytes)) =
      (ofBytes bytes).write lba count words := by
  have size : (words.flatMap wordBytes).length = 512 * count := by
    rw [flatMap_wordBytes_length, length]
    ring
  funext sector byte
  have small := byte.isLt
  unfold write ofBytes
  by_cases inside : lba ≤ sector ∧ sector < lba + count
  · have position :
        512 * sector + byte =
          512 * lba + (512 * (sector - lba) + byte) := by
      omega
    rw [if_pos inside, position]
    exact overwrite_getD_inside _ _ _ (by omega)
  · rw [if_neg inside]
    exact overwrite_getD_outside _ _ _ (by omega)

/-- A sector of those that were written. -/
theorem sectorWords_write (disk : Disk) {lba count sector : Nat}
    {words : List Word} (length : words.length = 256 * count)
    (inside : lba ≤ sector ∧ sector < lba + count) :
    sectorWords (disk.write lba count words sector) =
      (words.drop (256 * (sector - lba))).take 256 := by
  apply List.ext_getElem
  · rw [sectorWords, List.length_ofFn, List.length_take,
      List.length_drop]
    omega
  · intro index bound _
    rw [sectorWords, List.length_ofFn] at bound
    have within : 256 * (sector - lba) + index < words.length := by omega
    have position : 512 * (sector - lba) + 2 * index =
        2 * (256 * (sector - lba) + index) := by ring
    rw [List.getElem_take, List.getElem_drop,
      ← loadWord_flatMap_wordBytes within, ← position]
    simp only [sectorWords, List.getElem_ofFn, sectorWord, write,
      if_pos inside, loadWord, Nat.add_assoc]

/-- What was written is read back. -/
theorem read_write (disk : Disk) {lba count first some : Nat}
    {words : List Word} (length : words.length = 256 * count)
    (inside : lba ≤ first ∧ first + some ≤ lba + count) :
    (disk.write lba count words).read first some =
      (words.drop (256 * (first - lba))).take (256 * some) := by
  induction some with
  | zero => rfl
  | succ some inductionHypothesis =>
      have sector := @sectorWords_write disk lba count (first + some) words
        length (by omega)
      have start : 256 * (first + some - lba) =
          256 * (first - lba) + 256 * some := by omega
      have split : (disk.write lba count words).read first (some + 1) =
          (disk.write lba count words).read first some ++
            sectorWords (disk.write lba count words (first + some)) := by
        unfold read
        rw [List.range_succ, List.flatMap_append, List.flatMap_singleton]
      rw [split, inductionHypothesis (by omega), sector, start,
        Nat.mul_succ, List.take_add, List.drop_drop]

end Disk

/-! ## Requests -/

inductive BlockRequest where
  | read (lba count : Nat)
  | write (lba count : Nat) (words : List Word)
deriving DecidableEq, Repr

/-- The words delivered for a request, and the disk after it. -/
def BlockRequest.serve (disk : Disk) :
    BlockRequest → List Word × Disk
  | .read lba count => (disk.read lba count, disk)
  | .write lba count words => ([], disk.write lba count words)

/-- Serve requests one after the other. -/
def BlockRequest.serveAll (disk : Disk) :
    List BlockRequest → List Word × Disk
  | [] => ([], disk)
  | request :: rest =>
      let (words, next) := request.serve disk
      let (others, final) := serveAll next rest
      (words ++ others, final)

end DeviceLib
