import Formulary.Files.Fault

/-!
Devices, which stand at paths as files do. Nothing is read from them, and what is written to one is
gone, or is put out, or is refused.
-/

namespace Formulary.Files

inductive Device where
  | null
  /-- There is room for nothing here. -/
  | full
  | input
  | output
  /-- What the program puts out beside that. -/
  | notes
  /-- The terminal of the program, which has none. -/
  | terminal
deriving DecidableEq, Repr

/-- Why a device cannot be opened. -/
def Device.openFault? : Device → Option FileFault
  | terminal => some .noDevice
  | _ => none

/-- Why a device does not take octets. -/
def Device.writeFault? (d : Device) (bytes : List UInt8) : Option FileFault :=
  if d = full ∧ !bytes.isEmpty then some .noSpace else d.openFault?

end Formulary.Files
