import IconAssets.Catalog.Layout
import IconAssets.Platform.Resolve

/-!
# Requests to a catalog compiler

What is compiled, where the result goes, and for which target; and the arguments that tell the
platform's own compiler so.
-/

namespace IconAssets
namespace Compile

/-- A request to compile a catalog. -/
structure Request where
  catalog : Path
  bundle : Path
  target : Platform.Target
  deriving DecidableEq, Repr

/-- What a compiler answers. -/
structure Verdict where
  /-- Whether the bundle has been compiled. -/
  compiled : Bool
  /-- What the compiler had to say. -/
  diagnostics : Text
  deriving DecidableEq, Repr

/-- A program that compiles catalogs: its name, and the arguments in front of those of a
request. -/
structure Tool where
  program : Text
  leading : List Text
  deriving DecidableEq, Repr

/-- The platform's own compiler. -/
def Tool.standard : Tool := ⟨"xcrun".toList, ["actool".toList]⟩

/-- A program that is run as it is. -/
def Tool.ofProgram (program : Text) : Tool := ⟨program, []⟩

/-- The file inside a bundle for what the compiler would add to a property list. -/
def partialInfoName : Text := "assetcatalog_generated_info.plist".toList

/-- The arguments of a request. -/
def Tool.arguments (tool : Tool) (r : Request) : List Text :=
  tool.leading ++
    [r.catalog.text, "--compile".toList, r.bundle.text, "--platform".toList, r.target.platform,
      "--minimum-deployment-target".toList, r.target.deploymentTarget,
      "--output-partial-info-plist".toList, (r.bundle.child partialInfoName).text,
      "--notices".toList, "--warnings".toList, "--errors".toList, "--output-format".toList,
      "human-readable-text".toList]

end Compile
end IconAssets
