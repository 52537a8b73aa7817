import BenchTree.CommandLine
import BenchTree.Config
import BenchTree.Shape

/-!
# Settings

The command line takes precedence over the configuration, and the configuration over what holds
when neither says anything. Modules are worked on in parallel if either of the two asks for it.
-/

namespace BenchTree

/-- What a run goes by. -/
structure Settings where
  shape : Shape
  backends : List Backend
  parallel : Bool
  deriving DecidableEq, Repr

/-- The settings of a command line and of a configuration, if one was read. -/
def CommandLine.resolve (command : CommandLine) (config : Option Config) : Settings :=
  let given := (config.bind Config.generate).getD GenerateConfig.empty
  { shape :=
      { filesPerModule := (command.files.or given.files).getD Shape.default.filesPerModule
        fanout := (command.deps.or given.deps).getD Shape.default.fanout
        modules := (command.modules.or given.modules).getD Shape.default.modules }
    backends :=
      if command.backends = [] then given.backends.getD Backend.all else command.backends
    parallel := command.jobs || given.jobs.getD false }

end BenchTree
