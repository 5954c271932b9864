import TunnelRelay.Http.Quality

/-!
Choosing the compression of an answer.

`Accept-Encoding` lists codings with qualities. The first coding of the best quality is chosen
among those that are supported and not refused.
-/

namespace TunnelRelay.Http

inductive ContentEncoding where
  | gzip
  | deflate
  | identity
  deriving DecidableEq, Repr

namespace ContentEncoding

/-- The value of the `Content-Encoding` header, if there is one. -/
def headerValue? : ContentEncoding → Option String
  | gzip => some "gzip"
  | deflate => some "deflate"
  | identity => none

structure Entry where
  coding : String
  quality : Quality
  deriving DecidableEq, Repr

/-- Reads one entry. The quality is the first parameter that starts with `q=`; an entry without
one, or with one that is no number, has quality one. -/
def Entry.parse (text : List Char) : Entry :=
  match Text.splitOn ';' text with
  | [] => ⟨"", .one⟩
  | coding :: parameters =>
    let quality := parameters.findSome? fun parameter =>
      Text.after? ['q', '='] (Text.trim parameter)
    ⟨String.ofList (Text.lower (Text.trim coding)),
      (quality.bind fun value => Quality.parse? (Text.trim value)).getD .one⟩

def ofCoding? (coding : String) : Option ContentEncoding :=
  if coding = "gzip" ∨ coding = "x-gzip" ∨ coding = "*" then some gzip
  else if coding = "deflate" then some deflate
  else none

/-- What an entry offers: a supported encoding and a positive quality. -/
def Entry.offer? (entry : Entry) : Option (ContentEncoding × Int) := do
  let encoding ← ofCoding? entry.coding
  let quality ← entry.quality.positive?
  return (encoding, quality)

/-- The better of the best offer so far and one more; a tie keeps the earlier one. -/
def better (best : ContentEncoding × Int) (entry : Entry) : ContentEncoding × Int :=
  match entry.offer? with
  | some offer => if best.2 < offer.2 then offer else best
  | none => best

def choose (entries : List Entry) : ContentEncoding :=
  (entries.foldl better (identity, 0)).1

/-- The encoding that the value of an `Accept-Encoding` header asks for. -/
def negotiate (accept : Option String) : ContentEncoding :=
  match accept with
  | none => identity
  | some accept => choose ((Text.splitOn ',' accept.toList).map Entry.parse)

end ContentEncoding

end TunnelRelay.Http
