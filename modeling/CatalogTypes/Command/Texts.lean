import CatalogTypes.Text.Blank

/-!
# Texts of the command

What the command says about itself: its name and version, the summary of its options, and the help.
-/

namespace CatalogTypes.Command

/-- The name of the command. -/
def commandName : String := "schema-typegen"

/-- The version of the command. -/
def version : String := "0.3.1"

/-- The lines with a line feed after each. -/
def unlines (lines : List String) : String := Text.joinWith "\n" lines ++ "\n"

/-- What is written when the version is asked for. -/
def versionText : String := commandName ++ " " ++ version ++ "\n"

/-- The summary of the options. -/
def usageText : String :=
  unlines [
    "usage: schema-typegen [-h] [--url URL] [--dialect \x7bpostgres,sqlite\x7d]",
    "                      [--env-file ENV_FILE] [--out-file OUT_FILE] [--print]",
    "                      [--camel-case] [--type-mapping TYPE_MAPPING]",
    "                      [--overrides OVERRIDES]",
    "                      [--custom-imports CUSTOM_IMPORTS]",
    "                      [--include-pattern INCLUDE_PATTERN]",
    "                      [--exclude-pattern EXCLUDE_PATTERN] [--exclude-views]",
    "                      [--partitions] [--value-imports] [--verify]",
    "                      [--config CONFIG]",
    "                      [--log-level \x7bdebug,info,warning,error,silent\x7d]",
    "                      [--version]"]

/-- The description of the command and its options. -/
def descriptionText : String :=
  unlines [
    "Generate TypeScript table types from a database schema",
    "",
    "options:",
    "  -h, --help            show this help message and exit",
    "  --url URL             Connection string or env(KEY) expression (default:",
    "                        \"env(DATABASE_URL)\")",
    "  --dialect \x7bpostgres,sqlite\x7d",
    "                        Database dialect (inferred from the URL when omitted)",
    "  --env-file ENV_FILE   Environment file to load (default: ./.env when",
    "                        present)",
    "  --out-file OUT_FILE   File to write the generated types to",
    "  --print               Print the generated types to stdout",
    "  --camel-case          Use camelCase property keys",
    "  --type-mapping TYPE_MAPPING",
    "                        JSON object mapping data types to TypeScript types,",
    "                        e.g. '\x7b\"timestamptz\": \"Temporal.Instant\"\x7d'",
    "  --overrides OVERRIDES",
    "                        JSON object mapping \"table.column\" to a TypeScript",
    "                        type",
    "  --custom-imports CUSTOM_IMPORTS",
    "                        JSON object mapping type names to \"module\" or",
    "                        \"module#Export\"",
    "  --include-pattern INCLUDE_PATTERN",
    "                        Only include tables matching this glob pattern",
    "  --exclude-pattern EXCLUDE_PATTERN",
    "                        Exclude tables matching this glob pattern",
    "  --exclude-views       Skip views",
    "  --partitions          Include partition tables (PostgreSQL)",
    "  --value-imports       Emit \"import\" instead of \"import type\"",
    "  --verify              Fail if the output file is not up-to-date instead of",
    "                        writing it",
    "  --config CONFIG       JSON config file; command line flags take precedence",
    "  --log-level \x7bdebug,info,warning,error,silent\x7d",
    "                        Log level (default: info)",
    "  --version             show program's version number and exit",
    "",
    "Examples:",
    "  schema-typegen --url ./app.db --out-file src/db.d.ts",
    "  schema-typegen --dialect postgres --camel-case --print",
    "  schema-typegen --out-file src/db.d.ts --verify",
    "",
    "Environment Variables:",
    "  DATABASE_URL          Connection string read by the default --url",
    "  SCHEMA_TYPEGEN_*      Any option, e.g. SCHEMA_TYPEGEN_CAMEL_CASE=true",
    "  LOG_FORMAT            \"json\" for structured log output",
    "        "]

/-- What is written when help is asked for. -/
def helpText : String := usageText ++ "\n" ++ descriptionText

end CatalogTypes.Command
