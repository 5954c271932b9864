/-!
Where a configuration is looked for when the command line names none.
-/

namespace TunnelRelay

/-- The names of configuration files, the preferred ones first. -/
def configNames : List String :=
  ["guactunnel.yml", "guactunnel.yaml", ".guactunnel.yml", ".guactunnel.yaml"]

/-- The paths to try: names in the working directory, then in the home directory if there is one. -/
def configPaths (home : Option String) : List String :=
  configNames ++ home.toList.flatMap fun home => configNames.map fun name => home ++ "/" ++ name

end TunnelRelay
