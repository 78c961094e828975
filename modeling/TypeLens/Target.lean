/-
# TypeLens.Target -- bit width of a toolchain descriptor

A descriptor such as `windows-msvc-x64` names a 64-bit target when one of the 64-bit markers
occurs in it, else a 32-bit target when one of the 32-bit markers does. The 64-bit markers come
first because `arm` occurs in `arm64`.
-/
import TypeLens.Builtin

namespace TypeLens

namespace Target

/-- Texts that mark a 64-bit target. -/
def markers64 : List Text := ["x64", "amd64", "arm64", "aarch64"].map String.toList

/-- Texts that mark a 32-bit target when no 64-bit marker occurs. -/
def markers32 : List Text := ["x86", "i386", "i686", "arm", "32"].map String.toList

/-- The form in which a descriptor is read and shown. -/
def canonical (descriptor : Text) : Text := lower (trim descriptor)

/-- The width a descriptor names, if it names one. -/
def width? (descriptor : Text) : Option Width :=
  let d := canonical descriptor
  if d.isEmpty then none
  else if markers64.any (occursIn · d) then some .bits64
  else if markers32.any (occursIn · d) then some .bits32
  else none

end Target

end TypeLens
