import TunnelRelay.Startup

/-!
The command of the relay: reads files, and tells how the start ends.
-/

namespace TunnelRelay

def ioFault : IO.Error → IoFault
  | .noFileOrDirectory .. => .noSuchFile
  | error => ⟨.other, some (toString error)⟩

/-- The machine that the command runs on. Any address can be had of it: the command tells what a
relay would serve and opens no socket. -/
def thisHost (home : Option String) : Host IO where
  read path := do
    try
      let content ← IO.FS.readBinFile path
      return .ok content.data.toList
    catch error => return .error (ioFault error)
  home
  bind _ := return .ok ()

def usageText : String :=
  "\n".intercalate [
    "Usage: guactunnel-relay [OPTIONS]",
    "",
    "Options:",
    "  -c, --config <CONFIG>  Config file (default: guactunnel.yml in the working or home directory)",
    "  -l, --listen <LISTEN>  Address to listen on, overriding the config file",
    "  -v, --verbose          Enable debug logging",
    "  -h, --help             Print help",
    "  -V, --version          Print version"]

/-- An error and what it was caused by, one to a line. -/
def report : List String → String
  | [] => ""
  | [message] => "Error: " ++ message
  | message :: causes =>
    let lines := causes.zipIdx.map fun (cause, number) =>
      if causes.length = 1 then "    " ++ cause else "    " ++ toString number ++ ": " ++ cause
    "\n".intercalate (("Error: " ++ message) :: "" :: "Caused by:" :: lines)

end TunnelRelay

open TunnelRelay

def main (arguments : List String) : IO UInt32 := do
  let outcome ← (thisHost (← IO.getEnv "HOME")).start arguments
  match outcome with
  | .usage .displayVersion => IO.println "guactunnel-relay 0.1.0"
  | .usage .displayHelp => IO.println usageText
  | .usage _ => IO.eprintln usageText
  | .failed chain => IO.eprintln (report chain)
  | .serving config connector =>
    IO.println ("GuacTunnel Relay on " ++ config.listen.text ++ " (guacd: " ++ connector.address
      ++ (if connector.trust.isSome then ", TLS" else "") ++ ", "
      ++ toString config.connections.length ++ " connections)")
  return outcome.exitCode.toUInt32
