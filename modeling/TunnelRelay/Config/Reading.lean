import TunnelRelay.Config
import TunnelRelay.Yaml.Typed

/-!
Reading a configuration from a YAML file.

Unknown fields are passed over, and missing ones keep their defaults. A file that is no text
cannot be read, one that has no such form cannot be parsed, and what is read must be valid.
-/

namespace TunnelRelay

open Yaml

inductive LoadError where
  | unreadable (path : String) (fault : IoFault)
  | unparsable (path : String)
  | invalid (cause : Invalid)
  deriving DecidableEq, Repr

def LoadError.chain : LoadError → List String
  | unreadable path fault => ["Failed to read config file: " ++ path, fault.message]
  | unparsable path => ["Failed to parse config file: " ++ path]
  | invalid cause => [cause.message]

def IoFault.notText : IoFault :=
  ⟨.invalidData, some "stream did not contain valid UTF-8"⟩

namespace RelayConfig

def wordLimit : Nat := UInt64.size - 1

def readGuacd? (document : Document) (node : Node) : Option GuacdEndpoint := do
  let fields ← document.fields?
    ["host", "port", "ssl", "ca_file", "connect_timeout_secs"] node
  let standard : GuacdEndpoint := {}
  return {
    host := ← field? fields "host" standard.host document.text?
    port := ← field? fields "port" standard.port (document.natural? 65535)
    ssl := ← field? fields "ssl" standard.ssl document.boolean?
    caFile := ← field? fields "ca_file" (some standard.caFile) document.optionalText?
    connectTimeoutSecs := ← field? fields "connect_timeout_secs" standard.connectTimeoutSecs
      (document.natural? wordLimit) }

/-- Reads a section with a single field, which is a number. -/
def readNumber? (document : Document) (name : String) (absent : Nat) (node : Node) :
    Option Nat := do
  let fields ← document.fields? [name] node
  field? fields name absent (document.natural? wordLimit)

/-- Reads a connection. Only its protocol has no default. -/
def readConnection? (document : Document) (node : Node) : Option Guacd.ConnectionSpec := do
  let fields ← document.fields? ["protocol", "parameters"] node
  return {
    protocol := ← field? fields "protocol" none document.text?
    parameters := ← field? fields "parameters" (some []) (document.dictionary? document.text?) }

def ofDocument? (document : Document) : Option RelayConfig := do
  let fields ← match document.root with
    | none => some []
    | some root =>
      document.fields? ["listen", "guacd", "http_tunnel", "websocket", "connections"] root
  let standard : RelayConfig := {}
  return {
    listen := ← field? fields "listen" standard.listen fun node =>
      (document.text? node).bind SocketAddress.ofText?
    guacd := ← field? fields "guacd" standard.guacd (readGuacd? document)
    idleTimeoutSecs := ← field? fields "http_tunnel" standard.idleTimeoutSecs
      (readNumber? document "idle_timeout_secs" standard.idleTimeoutSecs)
    bufferSize := ← field? fields "websocket" standard.bufferSize
      (readNumber? document "buffer_size" standard.bufferSize)
    connections := ← field? fields "connections" standard.connections
      (document.dictionary? (readConnection? document)) }

def ofText? (text : String) : Option RelayConfig :=
  (Document.ofText? text).bind ofDocument?

/-- Loads a configuration from what a file holds, or from why it cannot be read. -/
def load (path : String) (content : Except IoFault Bytes) : Except LoadError RelayConfig := do
  let bytes ← content.mapError (.unreadable path)
  match Bytes.toText? bytes with
  | none => throw (.unreadable path .notText)
  | some text =>
    match ofText? text with
    | none => throw (.unparsable path)
    | some config =>
      match config.fault? with
      | none => return config
      | some cause => throw (.invalid cause)

end RelayConfig

end TunnelRelay
