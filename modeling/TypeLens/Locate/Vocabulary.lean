/-
# TypeLens.Locate.Vocabulary -- the words of built-in type expressions

Qualifiers, storage classes, base specifiers, aliases and aggregate keywords. The order is that in
which a reader tries them at a place.
-/
import TypeLens.Text.Basic

namespace TypeLens

/-- The keywords of type expressions, in the order in which they are tried. -/
def vocabulary : List Text := [
  "signed", "unsigned", "const", "volatile", "static", "extern", "register", "short",
  "long", "char", "int", "float", "double", "bool", "_Bool", "wchar_t", "int8_t", "int16_t",
  "int32_t", "int64_t", "uint8_t", "uint16_t", "uint32_t", "uint64_t", "size_t",
  "ptrdiff_t", "intptr_t", "uintptr_t", "int_fast8_t", "int_fast16_t", "int_fast32_t",
  "int_fast64_t", "uint_fast8_t", "uint_fast16_t", "uint_fast32_t", "uint_fast64_t",
  "int_least8_t", "int_least16_t", "int_least32_t", "int_least64_t", "uint_least8_t",
  "uint_least16_t", "uint_least32_t", "uint_least64_t", "intmax_t", "uintmax_t", "struct",
  "union", "enum", "class", "void"].map String.toList

end TypeLens
