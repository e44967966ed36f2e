import RegistryTokens.Failure
import RegistryTokens.Text.CommaList

/-!
# Dialects and their drivers

An address begins with the name of a dialect, to which a driver may be added after a plus sign. Only
some dialects are known, and of their drivers only some are installed. A dialect has parts that are
no drivers: asking for one of these, for an unknown name and for a driver that is not installed are
different faults.
-/

set_option autoImplicit false

namespace RegistryTokens.Engine

inductive Dialect where
  | sqlite
  | postgresql
  | mysql
  | mariadb
  | oracle
  | mssql
  deriving DecidableEq, Repr

structure Driver where
  name : String
  installed : Bool
  deriving DecidableEq, Repr

namespace Dialect

def all : List Dialect := [sqlite, postgresql, mysql, mariadb, oracle, mssql]

def name : Dialect → String
  | sqlite => "sqlite"
  | postgresql => "postgresql"
  | mysql => "mysql"
  | mariadb => "mariadb"
  | oracle => "oracle"
  | mssql => "mssql"

def ofName? (name : String) : Option Dialect := all.find? fun d => d.name == name

def isFileBased (d : Dialect) : Bool := d = sqlite

def missing : Dialect → List String
  | sqlite => ["aiosqlite", "pysqlcipher"]
  | postgresql => ["psycopg", "psycopg_async", "asyncpg", "pg8000", "psycopg2cffi"]
  | mysql | mariadb => [
    "mysqldb", "pymysql", "mysqlconnector", "mariadbconnector", "pyodbc", "aiomysql", "asyncmy",
    "cymysql"]
  | oracle => ["oracledb", "oracledb_async", "cx_oracle"]
  | mssql => ["pyodbc", "pymssql", "aioodbc", "mssqlpython"]

def installed : Dialect → List String
  | sqlite => ["pysqlite"]
  | postgresql => ["psycopg2"]
  | _ => []

def drivers (d : Dialect) : List Driver :=
  d.installed.map (⟨·, true⟩) ++ d.missing.map (⟨·, false⟩)

def standard : Dialect → Driver
  | sqlite => ⟨"pysqlite", true⟩
  | postgresql => ⟨"psycopg", false⟩
  | mysql | mariadb => ⟨"mysqldb", false⟩
  | oracle => ⟨"oracledb", false⟩
  | mssql => ⟨"pyodbc", false⟩

def commonParts : List String := [
  "__all__", "__annotations__", "__builtins__", "__cached__", "__class__", "__delattr__",
  "__dict__", "__dir__", "__doc__", "__eq__", "__file__", "__format__", "__ge__",
  "__getattribute__", "__getstate__", "__gt__", "__hash__", "__init__", "__init_subclass__",
  "__le__", "__loader__", "__lt__", "__name__", "__ne__", "__new__", "__package__", "__path__",
  "__reduce__", "__reduce_ex__", "__repr__", "__setattr__", "__sizeof__", "__spec__", "__str__",
  "__subclasshook__"]

/-- The parts of a dialect that are no drivers: modules, statements and types of columns. One that
borrows from another dialect has only what can be borrowed. -/
def parts : Dialect → List String
  | sqlite => commonParts ++ [
    "dialect", "dml", "json", "Insert", "insert", "BLOB", "BOOLEAN", "CHAR", "DATE", "DATETIME",
    "DECIMAL", "FLOAT", "INTEGER", "JSON", "NUMERIC", "REAL", "SMALLINT", "TEXT", "TIME",
    "TIMESTAMP", "VARCHAR"]
  | postgresql => commonParts ++ [
    "dialect", "_psycopg_common", "array", "arraylib", "bitstring", "dml", "ext", "hstore", "json",
    "named_types", "operators", "pg_catalog", "ranges", "types", "ModuleType", "All", "Any",
    "ARRAY", "BIGINT", "BOOLEAN", "CHAR", "DATE", "DOMAIN", "DOUBLE_PRECISION", "FLOAT",
    "INTEGER", "NUMERIC", "REAL", "SMALLINT", "TEXT", "UUID", "VARCHAR", "Insert", "insert",
    "aggregate_order_by", "array_agg", "distinct_on", "ExcludeConstraint", "phraseto_tsquery",
    "plainto_tsquery", "to_tsquery", "to_tsvector", "ts_headline", "websearch_to_tsquery",
    "HSTORE", "JSON", "JSONB", "JSONPATH", "CreateDomainType", "CreateEnumType", "DropDomainType",
    "DropEnumType", "ENUM", "NamedType", "AbstractMultiRange", "AbstractRange",
    "AbstractSingleRange", "DATEMULTIRANGE", "DATERANGE", "INT4MULTIRANGE", "INT4RANGE",
    "INT8MULTIRANGE", "INT8RANGE", "MultiRange", "NUMMULTIRANGE", "NUMRANGE", "Range",
    "TSMULTIRANGE", "TSRANGE", "TSTZMULTIRANGE", "TSTZRANGE", "BIT", "BitString", "BYTEA", "CIDR",
    "CITEXT", "INET", "INTERVAL", "MACADDR", "MACADDR8", "MONEY", "OID", "REGCLASS", "REGCONFIG",
    "TIME", "TIMESTAMP", "TSQUERY", "TSVECTOR"]
  | mysql => commonParts ++ [
    "dialect", "_mariadb_shim", "dml", "enumerated", "expression", "json", "mariadb", "reflection",
    "reserved_words", "types", "BIGINT", "BINARY", "BIT", "BLOB", "BOOLEAN", "CHAR", "DATE",
    "DATETIME", "DECIMAL", "DOUBLE", "ENUM", "FLOAT", "INTEGER", "JSON", "LONGBLOB", "LONGTEXT",
    "MEDIUMBLOB", "MEDIUMINT", "MEDIUMTEXT", "NCHAR", "NUMERIC", "NVARCHAR", "REAL", "SET",
    "SMALLINT", "TEXT", "TIME", "TIMESTAMP", "TINYBLOB", "TINYINT", "TINYTEXT", "VARBINARY",
    "VARCHAR", "YEAR", "Insert", "insert", "limit", "match", "INET4", "INET6"]
  | mariadb => [
    "_mariadb_shim", "dml", "enumerated", "expression", "json", "mariadb", "provision",
    "reflection", "reserved_words", "types"]
  | oracle => commonParts ++ [
    "dialect", "dictionary", "json", "types", "vector", "ModuleType", "BFILE", "BINARY_DOUBLE",
    "BINARY_FLOAT", "BLOB", "BOOLEAN", "CHAR", "CLOB", "DATE", "DOUBLE_PRECISION", "FLOAT",
    "INTERVAL", "JSON", "LONG", "NCHAR", "NCLOB", "NUMBER", "NVARCHAR", "NVARCHAR2", "RAW", "REAL",
    "ROWID", "SparseVector", "TIMESTAMP", "VARCHAR", "VARCHAR2", "VECTOR", "VectorDistanceType",
    "VectorIndexConfig", "VectorIndexType", "VectorStorageFormat", "VectorStorageType"]
  | mssql => commonParts ++ [
    "dialect", "information_schema", "json", "BIGINT", "BINARY", "BIT", "CHAR", "DATE", "DATETIME",
    "DATETIME2", "DATETIMEOFFSET", "DECIMAL", "DOUBLE_PRECISION", "FLOAT", "IMAGE", "INTEGER",
    "JSON", "MONEY", "NCHAR", "NTEXT", "NUMERIC", "NVARCHAR", "REAL", "ROWVERSION",
    "SMALLDATETIME", "SMALLINT", "SMALLMONEY", "SQL_VARIANT", "TEXT", "TIME", "TIMESTAMP",
    "TINYINT", "UNIQUEIDENTIFIER", "VARBINARY", "VARCHAR", "XML", "try_cast"]

def standardNames : Dialect → List String
  | mariadb => ["base", "__init__"]
  | _ => ["base"]

def readDriver (d : Dialect) (name : String) : Answer Driver :=
  let named :=
    if d.standardNames.contains name then some d.standard
    else d.drivers.find? fun r => r.name == name
  match named with
  | some driver => .ok driver
  | none =>
    .error (.broke (if d.parts.contains name then .missingAttribute else .unknownDialect))

end Dialect

/-- The dialect and the driver of a name, separated by a plus sign. -/
def readDialect (name : List Char) : Answer (Dialect × Driver) := do
  let known (cs : List Char) : Answer Dialect :=
    Answer.ofOption (.broke .unknownDialect) (Dialect.ofName? (String.ofList cs))
  match Text.CommaList.cells '+' name with
  | [dialect] => do
    let d ← known dialect
    pure (d, d.standard)
  | [dialect, driver] => do
    let d ← known dialect
    pure (d, ← d.readDriver (String.ofList driver))
  | _ => throw (.broke (.badValue none))

end RegistryTokens.Engine
