import Kvmulate.Lib.HostFile

/-! # The integer types of `include/types.h` -/

namespace Kvmulate

abbrev Uint8 := BitVec 8
abbrev Uint16 := BitVec 16
abbrev Uint32 := BitVec 32
abbrev Uint64 := BitVec 64

end Kvmulate
