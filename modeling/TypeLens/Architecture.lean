/-
# TypeLens.Architecture -- the effective target

The mode decides: a forced width, the width that the toolchain descriptor names, or the width of
the host. In target mode a descriptor that names no width falls back to the host, and the label
says so.
-/
import TypeLens.Settings
import TypeLens.Target

namespace TypeLens

/-- The machine that runs the analyzer. -/
structure Host where
  machine : Text
  width : Width
deriving DecidableEq, Repr

namespace Host

/-- The width of a process with pointers of so many bytes. -/
def widthOfPointer (bytes : Int) : Width := if bytes = 8 then .bits64 else .bits32

/-- The host as detected: the machine name in lower case, or `unknown` when it has none. -/
def detect (machine : Text) (pointerBytes : Int) : Host where
  machine := if (lower machine).isEmpty then "unknown".toList else lower machine
  width := widthOfPointer pointerBytes

end Host

/-- The effective target: its width and a label for readers. -/
structure Architecture where
  width : Width
  label : Text
deriving DecidableEq, Repr

namespace Architecture

/-- The host as the target, with a note on why. -/
def ofHost (host : Host) (note : String) : Architecture :=
  ⟨host.width, host.machine ++ " (".toList ++ note.toList ++ ")".toList⟩

/-- The short name of a width in labels. -/
def widthName : Width → Text
  | .bits32 => "x32".toList
  | .bits64 => "x64".toList

/-- The target that a toolchain descriptor names, else the host. -/
def ofDescriptor (host : Host) (descriptor : Text) : Architecture :=
  let d := Target.canonical descriptor
  match Target.width? d with
  | none => ofHost host "target unavailable, host fallback"
  | some w => ⟨w, widthName w ++ " (target: ".toList ++ d ++ ")".toList⟩

/-- The effective target for a host and settings; an absent descriptor counts as empty. -/
def resolve (host : Host) (s : Settings) : Architecture :=
  match s.mode with
  | .auto => ofHost host "host"
  | .x32 => ⟨.bits32, "x32 (manual)".toList⟩
  | .x64 => ⟨.bits64, "x64 (manual)".toList⟩
  | .target => ofDescriptor host (s.descriptor.getD [])

end Architecture

end TypeLens
