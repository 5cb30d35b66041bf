import Doip.Text.Blank
import Doip.Text.Hex
import Doip.Text.Numeral
import Doip.Text.Utf8

/-! Logical addresses and request bytes as they are written on a command line. -/

namespace Doip.CommandLine

/-- Why a text is no logical address; blanks around the text do not count. -/
structure AddressFault where
  text : String
  fault : Numeral.Fault
deriving DecidableEq, Repr

def AddressFault.message (f : AddressFault) : String :=
  s!"invalid logical address {Quoted.text f.text}: {f.fault.message}"

/-- The base and the digits of an address: hexadecimal behind `0x` or in front of `h`, else decimal. -/
def addressDigits (cs : List Char) : Nat × List Char :=
  match cs with
  | '0' :: 'x' :: digits => (16, digits)
  | '0' :: 'X' :: digits => (16, digits)
  | _ => if cs.getLast? = some 'h' then (16, cs.dropLast) else (10, cs)

def readAddress (text : String) : Except AddressFault Address :=
  let cs := Blank.trim text.toList
  let (base, digits) := addressDigits cs
  match Numeral.read base 0xFFFF digits with
  | .ok n => .ok (UInt16.ofNat n)
  | .error fault => .error ⟨String.ofList cs, fault⟩

inductive PayloadFault
  | notHex (digits : String) (fault : Hex.Fault)
  | empty
deriving DecidableEq, Repr

def stripMarks : List Char → List Char
  | '0' :: 'x' :: cs => stripMarks cs
  | cs => cs

def payloadDigits (texts : List String) : List Char :=
  (texts.flatMap fun t => Blank.words t.toList).flatMap stripMarks

def readPayload (texts : List String) : Except PayloadFault Bytes :=
  let digits := payloadDigits texts
  match Hex.decode (Utf8.encode digits) with
  | .error fault => .error (.notHex (String.ofList digits) fault)
  | .ok [] => .error .empty
  | .ok bs => .ok bs

end Doip.CommandLine
