import Handoff.Host.Basic

set_option autoImplicit false

/-! # The tool-versions manifest

The version manager reads the manifest that a variable names. The launcher binds that variable, so
that the delegate and all that it starts use the versions of the build. -/

namespace Handoff

/-- The variable by which the version manager finds its manifest. -/
def manifestVariable : String := "ASDF_TOOL_VERSIONS_FILENAME"

/-- The manifest of the build. -/
def manifestPath : String := ".cf/tool-versions"

/-- The variables with the manifest of the build selected. -/
def Env.selectManifest (env : Env) : Env := env.set manifestVariable manifestPath

/-- The host after the manifest is selected in the variables of the process, unless it is selected
    in `separate` ones. -/
def Host.selectManifest (host : Host) (separate : Option Env) : Host :=
  match separate with
  | none => { host with env := host.env.selectManifest }
  | some _ => host

/-- The manifest is selected, whatever the variable was bound to. -/
theorem Env.get?_selectManifest (env : Env) (name : String) :
    env.selectManifest.get? name =
      if manifestVariable = name then some manifestPath else env.get? name :=
  Table.get?_set env manifestVariable manifestPath name

end Handoff
