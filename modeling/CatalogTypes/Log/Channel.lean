/-!
# Channels of log lines

Every part of a run writes its lines under a name of its own.
-/

namespace CatalogTypes.Log

/-- A part of a run that writes lines. -/
inductive Channel where
  | command
  | generator
  | transformation
  | columnTypes
  | imports
  | constraints
  | selection
  | sqlite
  | postgres
  | address
  | envFile
deriving DecidableEq, Repr

namespace Channel

/-- The name that the lines of a channel bear. -/
def name : Channel → String
  | command => "codegen.cli"
  | generator => "codegen.generator"
  | transformation => "codegen.transformer"
  | columnTypes => "codegen.type_mapper"
  | imports => "codegen.imports"
  | constraints => "introspection.check_constraints"
  | selection => "introspection.introspector"
  | sqlite => "introspection.dialects.sqlite"
  | postgres => "introspection.dialects.postgres"
  | address => "introspection.connection"
  | envFile => "dotenv.main"

/-- Whether the lines of a channel carry the context as data. -/
def carriesContext : Channel → Bool
  | command | generator => true
  | _ => false

end Channel

end CatalogTypes.Log
