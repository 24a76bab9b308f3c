import EntitySql.Literal
import EntitySql.Text.Truncated
import EntitySql.Json.Reading

/-!
# Configuration of an executor

The configuration says whether and how statements are logged, and may force a dialect.  It can be
read from a JSON object of the fields by name, or from a JSON array of the fields in their order.
Fields that are not given keep their defaults.

## Main definitions

* `LogLevel`, `Config` : the levels of log events, and the configuration.
* `Config.standard` : the defaults.
* `Config.ofText?` : the configuration that a JSON text describes.
-/

namespace EntitySql

open Json Text

/-- The levels of log events. -/
inductive LogLevel where
  | error
  | warn
  | info
  | debug
  | trace
deriving DecidableEq

/-- The label of a level in the log. -/
def LogLevel.label : LogLevel → String
  | error => "ERROR"
  | warn => "WARN"
  | info => "INFO"
  | debug => "DEBUG"
  | trace => "TRACE"

/-- The level with a given name in a configuration. -/
def LogLevel.ofName? (name : String) : Option LogLevel :=
  if name = "error" then some error
  else if name = "warn" then some warn
  else if name = "info" then some info
  else if name = "debug" then some debug
  else if name = "trace" then some trace
  else none

/-- The dialect with a given name in a configuration. -/
def Dialect.ofName? (name : String) : Option Dialect :=
  if name = "t_sql" then some tSql else if name = "postgres" then some postgres else none

/-- The configuration of an executor. -/
structure Config where
  /-- Whether statements are logged before they run. -/
  logSql : Bool
  /-- The level at which they are logged. -/
  logLevel : LogLevel
  /-- The number of bytes to which a logged statement is cut, if there is a limit. -/
  maxSqlLength : Option Nat
  /-- The dialect to use instead of the one that the provider has. -/
  dialect : Option Dialect
deriving DecidableEq

namespace Config

/-- The defaults. -/
def standard : Config :=
  ⟨true, .debug, some 200, none⟩

/-- The text of a statement in the log. -/
def loggedSql (c : Config) (sql : String) : String :=
  truncated c.maxSqlLength sql

/-! ### Reading -/

/-- The fields that a text gives. -/
structure Given where
  logSql : Option Bool
  logLevel : Option LogLevel
  maxSqlLength : Option (Option Nat)
  dialect : Option (Option Dialect)

/-- No field. -/
def Given.none : Given :=
  ⟨.none, .none, .none, .none⟩

/-- The configuration with the given fields and the defaults of the others. -/
def ofGiven (g : Given) : Config :=
  ⟨g.logSql.getD standard.logSql, g.logLevel.getD standard.logLevel,
    g.maxSqlLength.getD standard.maxSqlLength, g.dialect.getD standard.dialect⟩

/-- A truth value. -/
def readFlag? : Document → Option Bool
  | .bool b => some b
  | _ => Option.none

/-- A name: a string, or an object with the name as its only member, which is null. -/
def readName? : Document → Option String
  | .string units => (textOf? units).map String.ofList
  | .object [(units, .null)] => (textOf? units).map String.ofList
  | _ => Option.none

/-- An integer from 0 to `2 ^ 64 - 1`, written without fraction and exponent. -/
def readLength? : Document → Option Nat
  | .number n =>
      if n.negative ∨ n.fraction.isSome ∨ n.exponent.isSome then Option.none
      else if ofDigits n.whole < Nat.pow 2 64 then some (ofDigits n.whole) else Option.none
  | _ => Option.none

/-- Null, or what another reader finds. -/
def readNullable? {α : Type} (read : Document → Option α) : Document → Option (Option α)
  | .null => some Option.none
  | d => (read d).map some

/-- The level that a document gives. -/
def readLevel? (d : Document) : Option LogLevel :=
  (readName? d).bind LogLevel.ofName?

/-- The dialect that a document gives, or null. -/
def readDialect? : Document → Option (Option Dialect) :=
  readNullable? fun d => (readName? d).bind Dialect.ofName?

/-- The given fields with one more, which must not be given already.  Unknown names are skipped. -/
def readMember? (g : Given) (name : String) (d : Document) : Option Given :=
  if name = "log_sql" then
    if g.logSql.isSome then Option.none
    else (readFlag? d).map fun b => { g with logSql := some b }
  else if name = "log_level" then
    if g.logLevel.isSome then Option.none
    else (readLevel? d).map fun l => { g with logLevel := some l }
  else if name = "max_sql_length" then
    if g.maxSqlLength.isSome then Option.none
    else (readNullable? readLength? d).map fun n => { g with maxSqlLength := some n }
  else if name = "dialect" then
    if g.dialect.isSome then Option.none
    else (readDialect? d).map fun x => { g with dialect := some x }
  else some g

/-- The fields that the members of an object give. -/
def readMembers? : Given → List (List StringUnit × Document) → Option Given
  | g, [] => some g
  | g, (units, d) :: rest => do
      let name ← textOf? units
      let g ← readMember? g (String.ofList name) d
      readMembers? g rest

/-- The names of the fields in their order. -/
def fieldNames : List String :=
  ["log_sql", "log_level", "max_sql_length", "dialect"]

/-- The fields that the items of an array give; there must be no more items than names. -/
def readItems? : Given → List String → List Document → Option Given
  | g, _, [] => some g
  | _, [], _ :: _ => Option.none
  | g, name :: names, d :: rest => do
      let g ← readMember? g name d
      readItems? g names rest

/-- The configuration that a JSON document describes. -/
def ofDocument? : Document → Option Config
  | .object members => (readMembers? Given.none members).map ofGiven
  | .array items => (readItems? Given.none fieldNames items).map ofGiven
  | _ => Option.none

/-- The configuration that a JSON text describes. -/
def ofText? (s : String) : Option Config :=
  (Document.ofText? s.toList).bind ofDocument?

end Config

end EntitySql
