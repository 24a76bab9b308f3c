import EntitySql.Value.Conversion

/-!
# Errors

Everything that can go wrong between a description of a query and the entities it returns.

## Main definitions

* `Error` : the errors, by cause.
* `Error.kind`, `Error.message` : the name of its kind, and the wording of an error.
* `Error.forColumn` : a conversion error told of its column.
* `Error.ofDatabase` : an error that the database reports, by its SQL state.
-/

namespace EntitySql

/-- What a connection error was caused by: the driver, a failure known by its text, or an error of
this library. -/
inductive Cause (ε : Type) where
  | driver
  | described (text : String)
  | failure (e : ε)

/-- The errors of describing, compiling, binding, running and mapping a statement. -/
inductive Error where
  /-- A node of an expression that has no meaning where it stands, by its kind. -/
  | unsupportedExpression (kind : String)
  /-- An operator that does not compare, by its name. -/
  | unsupportedOperator (name : String)
  /-- A chain of members that leads neither to a column nor to a captured value. -/
  | unsupportedMember (expression : String)
  /-- A projection that is no list of columns. -/
  | unsupportedProjection (expression : String)
  | missingKey (entity : String)
  | notInitialized
  | nullArgument (argument : String)
  | connection (text : String) (cause : Option (Cause Error))
  | conversion (column text : String)
  /-- A failure of the driver or the server without a kind of its own.  The report that comes with
  it is that of the driver, into which nothing here looks, so it is left out. -/
  | query
  | uniqueViolation (text : String)
  | foreignKeyViolation (text : String)
  | checkViolation (text : String)
  | validation (text : String)

namespace Error

/-- The wording of an error.  For a failure without a kind of its own the report of the driver
follows, behind a colon. -/
def message : Error → String
  | unsupportedExpression kind => "Expression type " ++ kind ++ " is not supported"
  | unsupportedOperator name => "Operation " ++ name ++ " is not supported"
  | unsupportedMember e => "The member expression '" ++ e ++ "' is not supported"
  | unsupportedProjection e => "The column selector expression '" ++ e ++ "' is not valid"
  | missingKey entity => "No key field defined for entity " ++ entity
  | notInitialized => "The query has not been initialized; compile a select statement first"
  | nullArgument argument => "Argument '" ++ argument ++ "' cannot be null"
  | connection text _ => "Connection error: " ++ text
  | conversion column text => "Conversion error on column '" ++ column ++ "': " ++ text
  | query => "Query error"
  | uniqueViolation text => "Unique constraint violation: " ++ text
  | foreignKeyViolation text => "Foreign key violation: " ++ text
  | checkViolation text => "Check constraint violation: " ++ text
  | validation text => "Validation error: " ++ text

/-- The name of the kind of an error. -/
def kind : Error → String
  | unsupportedExpression _ => "UnsupportedExpression"
  | unsupportedOperator _ => "UnsupportedOperator"
  | unsupportedMember _ => "UnsupportedMemberExpression"
  | unsupportedProjection _ => "UnsupportedProjectionShape"
  | missingKey _ => "MissingKeyField"
  | notInitialized => "QueryNotInitialized"
  | nullArgument _ => "NullArgument"
  | connection _ _ => "Connection"
  | conversion _ _ => "Conversion"
  | query => "Query"
  | uniqueViolation _ => "UniqueViolation"
  | foreignKeyViolation _ => "ForeignKeyViolation"
  | checkViolation _ => "CheckViolation"
  | validation _ => "Validation"

/-- Whether the compiler refused an expression. -/
def isUnsupported : Error → Bool
  | unsupportedExpression _ | unsupportedOperator _ | unsupportedMember _
  | unsupportedProjection _ => true
  | _ => false

/-- Whether opening, closing or reaching the connection failed. -/
def isConnection : Error → Bool
  | connection _ _ => true
  | _ => false

/-- Whether the database found a key twice. -/
def isUniqueViolation : Error → Bool
  | uniqueViolation _ => true
  | _ => false

/-- A conversion error told of its column; any other error is left alone. -/
def forColumn (column : String) : Error → Error
  | conversion _ text => conversion column text
  | e => e

/-- The error of a failed conversion in a column. -/
def ofFailure (column : String) (failure : ConversionFailure) : Error :=
  conversion column failure.message

end Error

/-- What a database reports about a statement that failed. -/
structure DatabaseError where
  /-- The five characters of the SQL state. -/
  state : String
  text : String
  constraint : Option String

/-- The error that a report of the database stands for.  Violations of a constraint have kinds of
their own and name the constraint. -/
def Error.ofDatabase (report : DatabaseError) : Error :=
  let named := report.constraint.getD "unknown" ++ ": " ++ report.text
  if report.state = "23505" then .uniqueViolation named
  else if report.state = "23503" then .foreignKeyViolation named
  else if report.state = "23514" then .checkViolation named
  else .query

end EntitySql
