import Kvmulate.Lib.Bytes

/-!
# Files of the host

A descriptor stands for the content of its file and the position of the next
transfer.  The outcome of a host call is an input of the model: it may succeed
in full, transfer only a part, or fail.
-/

namespace DeviceLib

/-- An open file. -/
structure HostFile where
  data : List Byte
  pos : Nat
deriving DecidableEq, Repr

/-- How a `read` or `write` call ends. -/
inductive HostXfer where
  | full
  | short (count : Nat)
  | fail
deriving DecidableEq, Repr

/-- The outcomes of the host calls made while one guest access is served. -/
structure HostCalls where
  seekSucceeds : Bool
  xfer : HostXfer
deriving DecidableEq, Repr

/-- Every call succeeds in full. -/
def HostCalls.full : HostCalls := ⟨true, .full⟩

/-- The number of bytes that a call for `count` bytes may transfer. -/
def HostXfer.limit (count : Nat) : HostXfer → Nat
  | .full => count
  | .short limit => min limit count
  | .fail => 0

namespace HostFile

/-- `lseek64(fd, offset, SEEK_SET)`. -/
def seek (host : HostCalls) (file : HostFile) (offset : Nat) : HostFile :=
  if host.seekSucceeds then { file with pos := offset } else file

/-- `read(fd, .., count)`: the bytes delivered, at most up to the end. -/
def read (host : HostCalls) (file : HostFile) (count : Nat) :
    List Byte × HostFile :=
  let delivered :=
    (file.data.drop file.pos).take (host.xfer.limit count)
  (delivered, { file with pos := file.pos + delivered.length })

/-- `write(fd, bytes, ..)`. -/
def write (host : HostCalls) (file : HostFile) (bytes : List Byte) :
    HostFile :=
  let accepted := bytes.take (host.xfer.limit bytes.length)
  if accepted = [] then file
  else
    { data := overwrite file.data file.pos accepted
      pos := file.pos + accepted.length }

@[simp]
theorem seek_data (host : HostCalls) (file : HostFile) (offset : Nat) :
    (file.seek host offset).data = file.data := by
  unfold seek
  split <;> rfl

@[simp]
theorem seek_full (file : HostFile) (offset : Nat) :
    file.seek HostCalls.full offset = { file with pos := offset } := rfl

@[simp]
theorem read_data (host : HostCalls) (file : HostFile) (count : Nat) :
    (file.read host count).2.data = file.data := rfl

theorem read_length_le (host : HostCalls) (file : HostFile) (count : Nat) :
    (file.read host count).1.length ≤ count := by
  have limited : host.xfer.limit count ≤ count := by
    cases host.xfer with
    | full => exact Nat.le_refl count
    | short limit => exact Nat.min_le_right limit count
    | fail => exact Nat.zero_le count
  simp only [read, List.length_take, List.length_drop]
  omega

/-- A full read into a cleared buffer of `count` bytes leaves the window of
the file at its position there. -/
theorem read_full_padded (file : HostFile) (count : Nat) :
    (file.read HostCalls.full count).1 ++
        List.replicate
          (count - (file.read HostCalls.full count).1.length) 0 =
      window file.data file.pos count :=
  take_drop_append_replicate file.data file.pos count

/-- A seek to `offset` and a write of `count` bytes behind it put all of them
there. -/
def WritesAll (host : HostCalls) (file : HostFile) (offset count : Nat) :
    Prop :=
  (file.seek host offset).pos = offset ∧ host.xfer.limit count = count

instance (host : HostCalls) (file : HostFile) (offset count : Nat) :
    Decidable (file.WritesAll host offset count) :=
  inferInstanceAs (Decidable (_ ∧ _))

theorem writesAll_full (file : HostFile) (offset count : Nat) :
    file.WritesAll HostCalls.full offset count :=
  ⟨rfl, rfl⟩

theorem data_of_writesAll {host : HostCalls} {file : HostFile}
    {offset : Nat} {bytes : List Byte} (some : bytes ≠ [])
    (all : file.WritesAll host offset bytes.length) :
    ((file.seek host offset).write host bytes).data =
      overwrite file.data offset bytes := by
  obtain ⟨there, accepted⟩ := all
  simp [write, accepted, some, there]

end HostFile

end DeviceLib
