import TunnelRelay.Error
import TunnelRelay.Instruction

/-!
Filters of instructions.

A filter sees every instruction that passes, in order, and forwards it, perhaps changed, or
drops it, or fails. It may remember what it has seen.
-/

namespace TunnelRelay

/-- What a filter does with one instruction, and what it remembers from then on. -/
abbrev Filter (φ : Type) := φ → Instruction → Except RelayError (Option Instruction) × φ

/-- Keeps the tunnel's own instructions away from guacd. Its memory are the answers owed to pings,
in the order of the pings. -/
def internalFilter : Filter (List Instruction) := fun replies instruction =>
  if instruction.isInternal then
    match instruction.args with
    | command :: nonce :: _ =>
      if command = Instruction.pingCommand then
        (.ok none, replies ++ [Instruction.pong nonce])
      else (.ok none, replies)
    | _ => (.ok none, replies)
  else (.ok (some instruction), replies)

/-!
### Simple filters

Any function of instructions is a filter that remembers nothing. The relay has no use for the ones
below, one for each thing that a filter can do with an instruction; they are there to see what
writers and readers do with other filters than `internalFilter`.
-/

namespace Filter

variable {φ : Type}

def pure (forward : Instruction → Except RelayError (Option Instruction)) : Filter φ :=
  fun memory instruction => (forward instruction, memory)

def pass : Filter φ :=
  pure fun instruction => .ok (some instruction)

def upper : Filter φ :=
  pure fun instruction =>
    .ok (some { instruction with opcode := instruction.opcode.map Char.toUpper })

def reversed : Filter φ :=
  pure fun instruction => .ok (some { instruction with args := instruction.args.reverse })

def dropping (opcode : String) : Filter φ :=
  pure fun instruction => .ok (if instruction.opcode = opcode then none else some instruction)

def rejecting (opcode : String) : Filter φ :=
  pure fun instruction =>
    if instruction.opcode = opcode then
      .error (Status.clientForbidden.toError (opcode ++ " rejected."))
    else .ok (some instruction)

end Filter

end TunnelRelay
