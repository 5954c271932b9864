import TunnelRelay.Bytes
import TunnelRelay.Error

/-!
Instructions and their wire form.

An instruction is an opcode and its arguments. On the wire each element stands behind its length
in codepoints: `4.size,1.0,4.1024,3.768;`. The empty opcode belongs to the tunnel itself and is
never sent to guacd.
-/

namespace TunnelRelay

structure Instruction where
  opcode : String
  args : List String
  deriving DecidableEq, Repr

namespace Instruction

def internalOpcode : String := ""

/-- The command of an internal instruction that asks for an answer. -/
def pingCommand : String := "ping"

/-- An instruction from its elements, opcode first; `none` if there are none. -/
def ofElements? : List String → Option Instruction
  | [] => none
  | opcode :: args => some ⟨opcode, args⟩

/-- The opcode and the arguments, in wire order. -/
def elements (instruction : Instruction) : List String :=
  instruction.opcode :: instruction.args

@[simp] theorem ofElements?_elements (instruction : Instruction) :
    ofElements? instruction.elements = some instruction := rfl

def internal (args : List String) : Instruction :=
  ⟨internalOpcode, args⟩

def error (message : String) (status : Status) : Instruction :=
  ⟨"error", [message, toString status.guacamoleCode]⟩

/-- The answer to a ping. -/
def pong (nonce : String) : Instruction :=
  internal [pingCommand, nonce]

def isInternal (instruction : Instruction) : Bool :=
  instruction.opcode == internalOpcode

def encodeElement (element : String) : String :=
  toString element.length ++ "." ++ element

def encode (instruction : Instruction) : String :=
  ",".intercalate (instruction.elements.map encodeElement) ++ ";"

def wire (instruction : Instruction) : Bytes :=
  Bytes.ofText instruction.encode

end Instruction

def endOfInstructions : String := "0.;"

end TunnelRelay
