import GpuTelemetry.Json
import GpuTelemetry.Text.Printable

namespace GpuTelemetry.Text.Quoted

def codePoint (c : Char) : List Char :=
  ['\\', 'u', '\x7b'] ++ Nat.toDigits 16 c.toNat ++ ['\x7d']

def escape (c : Char) : List Char :=
  if c = '\x00' then ['\\', '0']
  else if c = '\t' then ['\\', 't']
  else if c = '\n' then ['\\', 'n']
  else if c = '\r' then ['\\', 'r']
  else if c = '"' then ['\\', '"']
  else if c = '\\' then ['\\', '\\']
  else if isPrintable c && !isExtending c then [c]
  else codePoint c

def quote (s : String) : String := String.ofList ('"' :: s.toList.flatMap escape ++ ['"'])

end GpuTelemetry.Text.Quoted
