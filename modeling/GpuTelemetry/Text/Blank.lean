import GpuTelemetry.Text.Range

/-!
Blank characters: the Unicode property White_Space.
-/

namespace GpuTelemetry.Text

def blankRanges : Ranges :=
  [(0x09, 0x0D), (0x20, 0x20), (0x85, 0x85), (0xA0, 0xA0), (0x1680, 0x1680), (0x2000, 0x200A),
    (0x2028, 0x2029), (0x202F, 0x202F), (0x205F, 0x205F), (0x3000, 0x3000)]

def isBlank (c : Char) : Bool := blankRanges.has c

def trimStart (s : List Char) : List Char := s.dropWhile isBlank

def trim (s : List Char) : List Char := (trimStart (trimStart s).reverse).reverse

end GpuTelemetry.Text
