import TunnelRelay.CommandLine
import TunnelRelay.Config.Location
import TunnelRelay.Config.Reading
import TunnelRelay.Guacd.Connector

/-!
Starting a relay: the command line, the configuration, the connector, and the address.

The first step that fails ends the program. The steps are the same whatever the host is, so they
are written for any of them.
-/

namespace TunnelRelay

def IoFault.noSuchFile : IoFault :=
  ⟨.notFound, some "No such file or directory (os error 2)"⟩

def IoFault.addressInUse : IoFault :=
  ⟨.addrInUse, some "Address already in use (os error 98)"⟩

def IoFault.isDirectory : IoFault :=
  ⟨.other, some "Is a directory (os error 21)"⟩

def IoFault.addressNotAvailable : IoFault :=
  ⟨.addrNotAvailable, some "Cannot assign requested address (os error 99)"⟩

def IoFault.networkUnreachable : IoFault :=
  ⟨.networkUnreachable, some "Network is unreachable (os error 101)"⟩

structure Host (m : Type → Type) where
  read : (path : String) → m (Except IoFault Bytes)
  home : Option String
  bind : SocketAddress → m (Except IoFault Unit)

/-- A machine that has nothing but files in its working directory and in its home directory, and
whose only addresses are its own; one port is taken. -/
def Host.ofFiles (working home : List (String × Bytes)) (taken : UInt16) : Host Id where
  read path :=
    match (path.splitOn "/").filter (· ≠ "."), path with
    | [], _ | _, "/" => .error .isDirectory
    | parts, _ =>
      let files := working ++ home.map fun (name, content) => ("~/" ++ name, content)
      ((files.lookup ("/".intercalate parts)).map .ok).getD (.error .noSuchFile)
  home := "~"
  bind address :=
    if !address.isLocal then .error .addressNotAvailable
    else if address.port = taken then .error .addressInUse
    else .ok ()

inductive Outcome where
  | usage (error : UsageError)
  | failed (chain : List String)
  | serving (config : RelayConfig) (connector : Guacd.Connector)
  deriving DecidableEq, Repr

def Outcome.exitCode : Outcome → Nat
  | usage error => error.exitCode
  | failed _ => 1
  | serving .. => 0

variable {m : Type → Type} [Monad m]

def Host.firstFile? (host : Host m) : List String → m (Option String)
  | [] => return none
  | path :: paths => do
    match ← host.read path with
    | .ok _ => return some path
    | .error _ => host.firstFile? paths

/-- The file with the configuration, where the command line names none. -/
def Host.findConfig (host : Host m) : m (Option String) :=
  host.firstFile? (configPaths host.home)

/-- The roots to trust with a configuration, if it needs a file for them. -/
def Host.connector (host : Host m) (config : RelayConfig) :
    m (Except Tls.TrustError Guacd.Connector) := do
  match config.guacd.caFile with
  | some path =>
    let content ← host.read path
    return Guacd.Connector.ofConfig config fun path => Tls.Trust.ofFile path content
  | none => return Guacd.Connector.ofConfig config fun _ => .ok .publicRoots

def Host.serve (host : Host m) (options : Options) (config : RelayConfig) : m Outcome := do
  let config := { config with listen := options.listen.getD config.listen }
  match ← host.connector config with
  | .error cause => return .failed ("Failed to set up guacd connector" :: cause.chain)
  | .ok connector =>
    match ← host.bind config.listen with
    | .error fault => return .failed ["Failed to bind " ++ config.listen.text, fault.message]
    | .ok () => return .serving config connector

def Host.start (host : Host m) (arguments : List String) : m Outcome := do
  match Options.ofArguments arguments with
  | .error error => return .usage error
  | .ok options =>
    let path ← match options.config with
      | some path => pure (some path)
      | none => host.findConfig
    match path with
    | none => host.serve options {}
    | some path =>
      match RelayConfig.load path (← host.read path) with
      | .error error => return .failed error.chain
      | .ok config => host.serve options config

end TunnelRelay
