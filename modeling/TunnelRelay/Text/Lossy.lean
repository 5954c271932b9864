import TunnelRelay.Bytes

/-!
Texts of bytes that may not be UTF-8.

What is no UTF-8 becomes U+FFFD: one for each byte that starts nothing, and one for each sequence
that starts well and breaks off.
-/

namespace TunnelRelay.Text

/-- What may follow the first byte of a codepoint: how many bytes, and the bounds of the first of
them. -/
structure Continuation where
  count : Nat
  low : UInt8 := 0x80
  high : UInt8 := 0xbf

def continuation? (lead : UInt8) : Option Continuation :=
  if lead ≤ 0x7f then some { count := 0 }
  else if 0xc2 ≤ lead ∧ lead ≤ 0xdf then some { count := 1 }
  else if lead = 0xe0 then some { count := 2, low := 0xa0 }
  else if lead = 0xed then some { count := 2, high := 0x9f }
  else if 0xe1 ≤ lead ∧ lead ≤ 0xef then some { count := 2 }
  else if lead = 0xf0 then some { count := 3, low := 0x90 }
  else if lead = 0xf4 then some { count := 3, high := 0x8f }
  else if 0xf1 ≤ lead ∧ lead ≤ 0xf3 then some { count := 3 }
  else none

def Continuation.run (expected : Continuation) (bytes : Bytes) : Bytes :=
  match expected.count, bytes with
  | 0, _ | _, [] => []
  | more + 1, second :: rest =>
    if expected.low ≤ second ∧ second ≤ expected.high then
      second :: (rest.take more).takeWhile fun byte => 0x80 ≤ byte && byte ≤ 0xbf
    else []

def codepoint (lead : UInt8) (rest : Bytes) : Char :=
  let bits := match rest.length with
    | 0 => lead.toNat
    | 1 => lead.toNat - 0xc0
    | 2 => lead.toNat - 0xe0
    | _ => lead.toNat - 0xf0
  Char.ofNat (rest.foldl (fun value byte => value * 64 + (byte.toNat - 0x80)) bits)

/-- Stands for what is no text. -/
def replacement : Char := '\uFFFD'

def lossyChars (bytes : Bytes) : List Char :=
  match bytes with
  | [] => []
  | lead :: rest =>
    match continuation? lead with
    | none => replacement :: lossyChars rest
    | some expected =>
      let run := expected.run rest
      (if run.length = expected.count then codepoint lead run else replacement)
        :: lossyChars (rest.drop run.length)
termination_by bytes.length
decreasing_by all_goals simp only [List.length_cons, List.length_drop]; omega

def lossy (bytes : Bytes) : String :=
  String.ofList (lossyChars bytes)

end TunnelRelay.Text
