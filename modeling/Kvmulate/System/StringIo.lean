import Kvmulate.Io
import Kvmulate.System.KvmRun

/-!
# String I/O

The loops of `handle_io` in `system.c`, over the structure that the kernel
shares with the process.
-/

namespace Kvmulate.System

open DeviceLib Kvmulate.Io

variable {σ : Type}

def kvmExitIoOut : Uint8 := 1

/-! ## The loops -/

/-- The element at the cursor goes to the port. -/
def outElement (table : IoTable σ) (pStat : KvmRun) (state : σ) :
    Outcome σ :=
  if pStat.size = 1 then do
    let data ← pStat.load 1
    ioOutb table pStat.port (leValue 8 data) state
  else if pStat.size = 2 then do
    let data ← pStat.load 2
    ioOutw table pStat.port (leValue 16 data) state
  else if pStat.size = 4 then do
    let data ← pStat.load 4
    ioOutl table pStat.port (leValue 32 data) state
  else .error .abort

/-- The element at the cursor comes from the port. -/
def inElement (table : IoTable σ) (pStat : KvmRun) (state : σ) :
    Outcome (KvmRun × σ) :=
  if pStat.size = 1 then do
    let (val, next) ← ioInb table pStat.port state
    pure (← pStat.store (leBytes 1 val), next)
  else if pStat.size = 2 then do
    let (val, next) ← ioInw table pStat.port state
    pure (← pStat.store (leBytes 2 val), next)
  else if pStat.size = 4 then do
    let (val, next) ← ioInl table pStat.port state
    pure (← pStat.store (leBytes 4 val), next)
  else .error .abort

/-- `for(c=0;c<pStat->io.count;c++)`, from `c` on.  The count is read again
before each element; the mapping ends before `c` exceeds an `int`. -/
def outLoop (table : IoTable σ) (c : Nat) (pStat : KvmRun) (state : σ) :
    Outcome (Int × KvmRun × σ) :=
  if c < pStat.count.toNat then do
    let next ← outElement table pStat state
    outLoop table (c + 1) pStat.advance next
  else pure (0, pStat, state)
termination_by 0x100000000 - c
decreasing_by
  have := pStat.count.isLt
  omega

def inLoop (table : IoTable σ) (c : Nat) (pStat : KvmRun) (state : σ) :
    Outcome (Int × KvmRun × σ) :=
  if c < pStat.count.toNat then do
    let (stored, next) ← inElement table pStat state
    inLoop table (c + 1) stored.advance next
  else pure (0, pStat, state)
termination_by 0x100000000 - c
decreasing_by
  have := pStat.count.isLt
  omega

def handleIo (table : IoTable σ) (pStat : KvmRun) (state : σ) :
    Outcome (Int × KvmRun × σ) :=
  if pStat.direction = kvmExitIoOut then outLoop table 0 pStat state
  else inLoop table 0 pStat state

end Kvmulate.System
