import Kvmulate.Lib.Outcome
import Mathlib.Data.List.GetD
import Mathlib.Data.List.Range
import Mathlib.Tactic.Ring

/-!
# Bytes, little-endian words and buffers

Buffers are lists of bytes.  A window of a list is read with zeros beyond its
end, as a freshly cleared buffer or a sparse file reads.
-/

namespace DeviceLib

abbrev Byte := BitVec 8
abbrev Word := BitVec 16

/-- The two bytes of a word, low byte first. -/
def wordBytes (word : Word) : List Byte :=
  [word.setWidth 8, (word >>> 8).setWidth 8]

/-- The word at `offset`, low byte first. -/
def loadWord (buffer : List Byte) (offset : Nat) : Word :=
  buffer.getD (offset + 1) 0 ++ buffer.getD offset 0

/-- Replace the two bytes at `offset`. -/
def storeWord (buffer : List Byte) (offset : Nat) (word : Word) :
    List Byte :=
  (buffer.set offset (word.setWidth 8)).set (offset + 1)
    ((word >>> 8).setWidth 8)

@[simp]
theorem wordBytes_length (word : Word) :
    (wordBytes word).length = 2 := rfl

@[simp]
theorem flatMap_wordBytes_length (words : List Word) :
    (words.flatMap wordBytes).length = 2 * words.length := by
  induction words with
  | nil => rfl
  | cons word rest inductionHypothesis =>
      simp only [List.flatMap_cons, List.length_append,
        wordBytes_length, inductionHypothesis, List.length_cons]
      ring

/-- A word stored behind a filled part extends the filled part. -/
theorem storeWord_append (before : List Byte) (word : Word) (rest : Nat) :
    storeWord (before ++ List.replicate (2 * (rest + 1)) 0)
        before.length word =
      before ++ wordBytes word ++ List.replicate (2 * rest) 0 := by
  have unrolled :
      List.replicate (2 * (rest + 1)) (0 : Byte) =
        0 :: 0 :: List.replicate (2 * rest) 0 := by
    have count : 2 * (rest + 1) = 2 * rest + 1 + 1 := by ring
    rw [count, List.replicate_succ, List.replicate_succ]
  rw [unrolled]
  simp [storeWord, wordBytes]

/-- The value of bytes, low byte first. -/
def leValue (width : Nat) (bytes : List Byte) : BitVec width :=
  bytes.foldr
    (fun byte value => (value <<< 8) ||| byte.setWidth width) 0

/-- The first `count` bytes of a value, low byte first. -/
def leBytes {width : Nat} (count : Nat) (value : BitVec width) :
    List Byte :=
  (List.range count).map fun index =>
    (value >>> (8 * index)).setWidth 8

@[simp]
theorem leBytes_length {width : Nat} (count : Nat)
    (value : BitVec width) : (leBytes count value).length = count := by
  simp [leBytes]

/-- Eight bits of a value are those of its byte. -/
theorem getLsbD_leValue {width : Nat} (bytes : List Byte) :
    ∀ {index : Nat}, index < width →
      (leValue width bytes).getLsbD index =
        (bytes.getD (index / 8) 0).getLsbD (index % 8) := by
  induction bytes with
  | nil =>
      intro index _
      simp [leValue]
  | cons byte rest inductionHypothesis =>
      intro index inside
      have unfolded :
          leValue width (byte :: rest) =
            (leValue width rest <<< 8) ||| byte.setWidth width := rfl
      rw [unfolded, BitVec.getLsbD_or, BitVec.getLsbD_shiftLeft,
        BitVec.getLsbD_setWidth]
      by_cases low : index < 8
      · have first : index / 8 = 0 := by omega
        have position : index % 8 = index := by omega
        simp [low, inside, first, position]
      · have later : index / 8 = (index - 8) / 8 + 1 := by omega
        have position : index % 8 = (index - 8) % 8 := by omega
        have beyond : byte.getLsbD index = false :=
          BitVec.getLsbD_of_ge byte index (by omega)
        rw [inductionHypothesis (by omega), later, position]
        simp [low, inside, beyond]

/-- A value is read back from all its bytes. -/
theorem leValue_leBytes {width count : Nat} (value : BitVec width)
    (whole : width ≤ 8 * count) :
    leValue width (leBytes count value) = value := by
  apply BitVec.eq_of_getLsbD_eq
  intro index inside
  have byte : index / 8 < count := by omega
  have position : 8 * (index / 8) + index % 8 = index := by omega
  rw [getLsbD_leValue _ inside,
    List.getD_eq_getElem _ _ (by simpa using byte)]
  have small : index % 8 < 8 := by omega
  simp [leBytes, position, small]

/-- The bytes of a value are those that it was put together from. -/
theorem leBytes_leValue {width : Nat} {bytes : List Byte}
    (fits : 8 * bytes.length ≤ width) :
    leBytes bytes.length (leValue width bytes) = bytes := by
  apply List.ext_getElem
  · simp
  · intro position _ inside
    apply BitVec.eq_of_getLsbD_eq
    intro bit small
    have byte : (8 * position + bit) / 8 = position := by omega
    have low : (8 * position + bit) % 8 = bit := by omega
    simp only [leBytes, List.getElem_map, List.getElem_range,
      BitVec.getLsbD_setWidth, BitVec.getLsbD_ushiftRight]
    rw [getLsbD_leValue bytes (by omega), byte, low,
      List.getD_eq_getElem _ _ inside]
    simp [small]

/-! ## Windows -/

/-- `count` bytes from `start`, zero beyond the end of `bytes`. -/
def window (bytes : List Byte) (start count : Nat) : List Byte :=
  (List.range count).map fun index => bytes.getD (start + index) 0

@[simp]
theorem window_length (bytes : List Byte) (start count : Nat) :
    (window bytes start count).length = count := by
  simp [window]

theorem window_getD (bytes : List Byte) {start count index : Nat}
    (inside : index < count) :
    (window bytes start count).getD index 0 =
      bytes.getD (start + index) 0 := by
  rw [List.getD_eq_getElem _ _ (by simpa using inside)]
  simp [window]

theorem window_add (bytes : List Byte) (start first second : Nat) :
    window bytes start (first + second) =
      window bytes start first ++
        window bytes (start + first) second := by
  unfold window
  rw [List.range_add, List.map_append, List.map_map]
  refine congrArg _ (List.map_congr_left fun index _ => ?_)
  exact congrArg (bytes.getD · 0) (Nat.add_assoc start first index).symm

/-- A window reads as many bytes as there are, and zeros behind them. -/
theorem take_drop_append_replicate (bytes : List Byte)
    (start count : Nat) :
    (bytes.drop start).take count ++
        List.replicate
          (count - ((bytes.drop start).take count).length) 0 =
      window bytes start count := by
  apply List.ext_getElem
  · simp
  · intro index bound _
    have inside : index < count := by
      simp only [List.length_append, List.length_take, List.length_drop,
        List.length_replicate] at bound
      omega
    simp only [window, List.getElem_map, List.getElem_range,
      List.getElem_append, List.getElem_take, List.getElem_drop,
      List.getElem_replicate]
    split
    · rename_i delivered
      simp only [List.length_take, List.length_drop] at delivered
      rw [List.getD_eq_getElem _ _ (by omega)]
    · rename_i beyond
      simp only [List.length_take, List.length_drop] at beyond
      rw [List.getD_eq_default _ _ (by omega)]

/-- Inside the bytes, a window is a part of them. -/
theorem window_eq_take {bytes : List Byte} {start count : Nat}
    (inside : start + count ≤ bytes.length) :
    window bytes start count = (bytes.drop start).take count := by
  have length : ((bytes.drop start).take count).length = count := by
    rw [List.length_take, List.length_drop]
    omega
  rw [← take_drop_append_replicate, length, Nat.sub_self,
    List.replicate_zero, List.append_nil]

/-- The words of a window. -/
def windowWords (bytes : List Byte) (start count : Nat) : List Word :=
  (List.range count).map fun index => loadWord bytes (start + 2 * index)

@[simp]
theorem windowWords_length (bytes : List Byte) (start count : Nat) :
    (windowWords bytes start count).length = count := by
  simp [windowWords]

theorem windowWords_add (bytes : List Byte) (start first second : Nat) :
    windowWords bytes start (first + second) =
      windowWords bytes start first ++
        windowWords bytes (start + 2 * first) second := by
  unfold windowWords
  rw [List.range_add, List.map_append, List.map_map]
  refine congrArg _ (List.map_congr_left fun index _ => ?_)
  have position :
      start + 2 * (first + index) = start + 2 * first + 2 * index := by
    ring
  exact congrArg (loadWord bytes) position

theorem loadWord_window (bytes : List Byte) {start count offset : Nat}
    (inside : offset + 2 ≤ count) :
    loadWord (window bytes start count) offset =
      loadWord bytes (start + offset) := by
  unfold loadWord
  rw [window_getD bytes (by omega), window_getD bytes (by omega),
    Nat.add_assoc]

/-! ## Overwriting -/

/-- Put `patch` at `start`, with zeros up to there if `bytes` is shorter. -/
def overwrite (bytes : List Byte) (start : Nat) (patch : List Byte) :
    List Byte :=
  bytes.take start ++ List.replicate (start - bytes.length) 0 ++
    patch ++ bytes.drop (start + patch.length)

theorem overwrite_getD_inside (bytes : List Byte) (start : Nat)
    (patch : List Byte) {index : Nat} (inside : index < patch.length) :
    (overwrite bytes start patch).getD (start + index) 0 =
      patch.getD index 0 := by
  have filled :
      (bytes.take start ++
        List.replicate (start - bytes.length) (0 : Byte)).length =
          start := by
    simp only [List.length_append, List.length_take,
      List.length_replicate]
    omega
  unfold overwrite
  rw [List.getD_append _ _ _ _ (by
      rw [List.length_append, filled]
      omega),
    List.getD_append_right _ _ _ _ (by omega), filled,
    Nat.add_sub_cancel_left]

theorem overwrite_getD_outside (bytes : List Byte) (start : Nat)
    (patch : List Byte) {index : Nat}
    (outside : index < start ∨ start + patch.length ≤ index) :
    (overwrite bytes start patch).getD index 0 =
      bytes.getD index 0 := by
  have filled :
      (bytes.take start ++
        List.replicate (start - bytes.length) (0 : Byte)).length =
          start := by
    simp only [List.length_append, List.length_take,
      List.length_replicate]
    omega
  unfold overwrite
  rcases outside with before | behind
  · rw [List.append_assoc, List.getD_append _ _ _ _ (by omega)]
    by_cases present : index < bytes.length
    · rw [List.getD_append _ _ _ _ (by
          simp only [List.length_take]
          omega)]
      simp [List.getD_eq_getElem?_getD, before]
    · rw [List.getD_append_right _ _ _ _ (by
          simp only [List.length_take]
          omega), List.getD_eq_default bytes _ (by omega)]
      simp only [List.getD_eq_getElem?_getD, List.getElem?_replicate]
      split <;> rfl
  · rw [List.getD_append_right _ _ _ _ (by
        rw [List.length_append, filled]
        omega), List.length_append, filled]
    simp only [List.getD_eq_getElem?_getD, List.getElem?_drop]
    congr 2
    omega

/-- The words that a list of bytes was made of. -/
theorem loadWord_flatMap_wordBytes {words : List Word} {index : Nat}
    (inside : index < words.length) :
    loadWord (words.flatMap wordBytes) (2 * index) = words[index] := by
  induction words generalizing index with
  | nil => cases inside
  | cons word rest inductionHypothesis =>
      cases index with
      | zero =>
          change (word >>> 8).setWidth 8 ++ word.setWidth 8 = word
          apply BitVec.eq_of_getLsbD_eq
          intro bit small
          rw [BitVec.getLsbD_append]
          by_cases low : bit < 8
          · simp [low]
          · have high : bit - 8 < 8 := by omega
            have shifted : 8 + (bit - 8) = bit := by omega
            simp [low, high, shifted]
      | succ index =>
          have later :=
            inductionHypothesis (Nat.lt_of_succ_lt_succ inside)
          rw [List.getElem_cons_succ, ← later]
          have second : 2 * (index + 1) + 1 = 2 * index + 1 + 2 := by ring
          have first : 2 * (index + 1) = 2 * index + 2 := by ring
          unfold loadWord
          rw [second, first]
          rfl

end DeviceLib
