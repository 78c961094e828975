/-
# TypeLens.Builtin -- the table of built-in types

Size and alignment of the fundamental types, the fixed-width integers and the system aliases, for
both bit widths. A name is looked up by its words in lower case: neither letter case nor spacing
matters, but merging or splitting words does.
-/
import TypeLens.Text.Blank
import TypeLens.Text.LowerCase

namespace TypeLens

/-! ## Bit widths -/

/-- The bit width of a target. -/
inductive Width where
  | bits32
  | bits64
deriving DecidableEq, Repr

namespace Width

/-- Whether the target is a 64-bit one. -/
def is64 : Width → Bool
  | bits32 => false
  | bits64 => true

/-- The bytes of a pointer, whatever it points to. -/
def pointerSize : Width → Nat
  | bits32 => 4
  | bits64 => 8

end Width

/-! ## Rows -/

/-- Size and alignment in bytes. -/
structure Extent where
  size : Nat
  alignment : Nat
deriving DecidableEq, Repr

/-- A built-in type: its name, its extent on either width, and what it is. -/
structure Builtin where
  name : Text
  on32 : Extent
  on64 : Extent
  description : Text
deriving DecidableEq, Repr

namespace Builtin

/-- The extent on a width. -/
def extent (b : Builtin) : Width → Extent
  | .bits32 => b.on32
  | .bits64 => b.on64

/-- A row from its columns: name, size and alignment on 32 bits, the same on 64 bits, description.
-/
def row (name : String) (size32 align32 size64 align64 : Nat) (description : String) : Builtin :=
  ⟨name.toList, ⟨size32, align32⟩, ⟨size64, align64⟩, description.toList⟩

/-- Every built-in type. -/
def table : List Builtin := [
  row "char" 1 1 1 1 "Character type, always 1 byte",
  row "signed char" 1 1 1 1 "Signed character (-128 to 127)",
  row "unsigned char" 1 1 1 1 "Unsigned character (0 to 255)",
  row "short" 2 2 2 2 "Short integer, typically 16-bit",
  row "short int" 2 2 2 2 "Short integer, typically 16-bit",
  row "unsigned short" 2 2 2 2 "Unsigned short integer",
  row "unsigned short int" 2 2 2 2 "Unsigned short integer",
  row "int" 4 4 4 4 "Standard integer, typically 32-bit",
  row "signed" 4 4 4 4 "Signed integer (same as int)",
  row "signed int" 4 4 4 4 "Signed integer, typically 32-bit",
  row "unsigned" 4 4 4 4 "Unsigned integer",
  row "unsigned int" 4 4 4 4 "Unsigned integer, typically 32-bit",
  row "long" 4 4 8 8 "Long integer (platform dependent)",
  row "long int" 4 4 8 8 "Long integer (platform dependent)",
  row "signed long" 4 4 8 8 "Signed long integer",
  row "signed long int" 4 4 8 8 "Signed long integer",
  row "unsigned long" 4 4 8 8 "Unsigned long integer",
  row "unsigned long int" 4 4 8 8 "Unsigned long integer",
  row "long long" 8 8 8 8 "Long long integer, always 64-bit",
  row "long long int" 8 8 8 8 "Long long integer, always 64-bit",
  row "signed long long" 8 8 8 8 "Signed long long integer",
  row "signed long long int" 8 8 8 8 "Signed long long integer",
  row "unsigned long long" 8 8 8 8 "Unsigned long long integer",
  row "unsigned long long int" 8 8 8 8 "Unsigned long long integer",
  row "float" 4 4 4 4 "Single precision floating point (IEEE 754)",
  row "double" 8 8 8 8 "Double precision floating point (IEEE 754)",
  row "long double" 12 4 16 16 "Extended precision floating point",
  row "bool" 1 1 1 1 "Boolean type (C++)",
  row "_Bool" 1 1 1 1 "Boolean type (C99)",
  row "wchar_t" 2 2 4 4 "Wide character type",
  row "size_t" 4 4 8 8 "Size type for array indexing",
  row "ssize_t" 4 4 8 8 "Signed size type",
  row "ptrdiff_t" 4 4 8 8 "Pointer difference type",
  row "intptr_t" 4 4 8 8 "Integer type for storing pointers",
  row "uintptr_t" 4 4 8 8 "Unsigned integer type for storing pointers",
  row "off_t" 4 4 8 8 "File offset type",
  row "time_t" 4 4 8 8 "Time type",
  row "int8_t" 1 1 1 1 "Exactly 8-bit signed integer",
  row "uint8_t" 1 1 1 1 "Exactly 8-bit unsigned integer",
  row "int16_t" 2 2 2 2 "Exactly 16-bit signed integer",
  row "uint16_t" 2 2 2 2 "Exactly 16-bit unsigned integer",
  row "int32_t" 4 4 4 4 "Exactly 32-bit signed integer",
  row "uint32_t" 4 4 4 4 "Exactly 32-bit unsigned integer",
  row "int64_t" 8 8 8 8 "Exactly 64-bit signed integer",
  row "uint64_t" 8 8 8 8 "Exactly 64-bit unsigned integer",
  row "int_fast8_t" 1 1 1 1 "Fastest type with at least 8 bits",
  row "uint_fast8_t" 1 1 1 1 "Fastest unsigned type with at least 8 bits",
  row "int_fast16_t" 4 4 8 8 "Fastest type with at least 16 bits",
  row "uint_fast16_t" 4 4 8 8 "Fastest unsigned type with at least 16 bits",
  row "int_fast32_t" 4 4 8 8 "Fastest type with at least 32 bits",
  row "uint_fast32_t" 4 4 8 8 "Fastest unsigned type with at least 32 bits",
  row "int_fast64_t" 8 8 8 8 "Fastest type with at least 64 bits",
  row "uint_fast64_t" 8 8 8 8 "Fastest unsigned type with at least 64 bits",
  row "int_least8_t" 1 1 1 1 "Smallest type with at least 8 bits",
  row "uint_least8_t" 1 1 1 1 "Smallest unsigned type with at least 8 bits",
  row "int_least16_t" 2 2 2 2 "Smallest type with at least 16 bits",
  row "uint_least16_t" 2 2 2 2 "Smallest unsigned type with at least 16 bits",
  row "int_least32_t" 4 4 4 4 "Smallest type with at least 32 bits",
  row "uint_least32_t" 4 4 4 4 "Smallest unsigned type with at least 32 bits",
  row "int_least64_t" 8 8 8 8 "Smallest type with at least 64 bits",
  row "uint_least64_t" 8 8 8 8 "Smallest unsigned type with at least 64 bits",
  row "intmax_t" 8 8 8 8 "Maximum width signed integer",
  row "uintmax_t" 8 8 8 8 "Maximum width unsigned integer"]

/-! ## Look-up -/

/-- The form under which type names are compared: trimmed, single-spaced, in lower case. -/
def normalName (name : Text) : Text := lower (collapse name)

/-- The built-in type of a name, in any letter case and spacing. -/
def find? (name : Text) : Option Builtin :=
  table.find? fun b => normalName b.name = normalName name

end Builtin

end TypeLens
