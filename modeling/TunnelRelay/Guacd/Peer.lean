import TunnelRelay.Stream.Link

/-!
guacd's end of a link that is part of something larger.

What guacd writes may make room for more of it once the rest of the world has gone on, and what
guacd reads may let the world write more. A `Peer` says where the link is and how the world goes
on.
-/

namespace TunnelRelay.Guacd

/-- How guacd reaches its end of a link within a world. -/
structure Peer (ω : Type) where
  link : ω → Link
  put : Link → ω → ω
  /-- Lets everything else go on until nothing more can happen. -/
  settle : ω → ω
  /-- At least as many bytes as the world may still write without further help. -/
  backlog : ω → Nat

inductive Fed where
  | taken
  /-- Some of the bytes did not fit; they are given up. -/
  | blocked
  | failed (fault : IoFault)
  deriving DecidableEq, Repr

namespace Peer

variable {ω : Type}

/-- guacd writes bytes, as far as the world takes them. -/
def feed (peer : Peer ω) (data : Bytes) (world : ω) : Fed × ω :=
  match data with
  | [] => (.taken, world)
  | byte :: bytes =>
    match (peer.link world).guacdWrite (byte :: bytes) with
    | (.ready (.error fault), _) => (.failed fault, world)
    | (.parked, _) | (.ready (.ok 0), _) => (.blocked, world)
    | (.ready (.ok (count + 1)), link) =>
      peer.feed (bytes.drop count) (peer.settle (peer.put link world))
termination_by data.length
decreasing_by simp only [List.length_cons, List.length_drop]; omega

/-- guacd reads until nothing comes, at most `rounds` times; the flag tells whether the stream has
ended. -/
def collectWithin (peer : Peer ω) : (rounds : Nat) → ω → (Bytes × Bool) × ω
  | 0, world => (([], false), world)
  | rounds + 1, world =>
    let (data, ended, link) := (peer.link world).guacdRead
    let world := peer.settle (peer.put link world)
    if data.isEmpty then (([], ended), world)
    else
      let ((more, ended), world) := peer.collectWithin rounds world
      ((data ++ more, ended), world)

/-- guacd reads everything that can be read, while the world goes on. -/
def collect (peer : Peer ω) (world : ω) : (Bytes × Bool) × ω :=
  peer.collectWithin (peer.backlog world + (peer.link world).toGuacd.buffer.length + 1) world

def close (peer : Peer ω) (world : ω) : ω :=
  peer.settle (peer.put (peer.link world).guacdClose world)

end Peer

end TunnelRelay.Guacd
