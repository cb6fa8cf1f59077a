import ProcedureAudit.Database.Session

/-!
# Fixture statements

The fixture tables, their columns, and the three kinds of statements that fill them: a row is
inserted, the rows of a user are deleted, or the rows of a token are deleted.
-/

namespace ProcedureAudit.Fixture

/-- A fixture table. -/
inductive Table where
  | accounts
  | emails
  | sessionTokens
  | unverifiedTokens
  | devices
  | keyFetchTokens
  | passwordChangeTokens
  | passwordForgotTokens
  | accountResetTokens
deriving DecidableEq, Repr

/-- How the columns of a table are laid out in a statement. -/
inductive ColumnLayout where
  /-- All columns on the line of the table. -/
  | inline (columns : List String)
  /-- The columns on lines of their own. -/
  | block (lines : List (List String))
deriving DecidableEq, Repr

/-- The columns of a layout, in order. -/
def ColumnLayout.columns : ColumnLayout → List String
  | .inline columns => columns
  | .block lines => lines.flatten

namespace Table

/-- The name of a table. -/
def name : Table → Text
  | .accounts => "accounts"
  | .emails => "emails"
  | .sessionTokens => "sessionTokens"
  | .unverifiedTokens => "unverifiedTokens"
  | .devices => "devices"
  | .keyFetchTokens => "keyFetchTokens"
  | .passwordChangeTokens => "passwordChangeTokens"
  | .passwordForgotTokens => "passwordForgotTokens"
  | .accountResetTokens => "accountResetTokens"

/-- The columns of a table in their layout. -/
def layout : Table → ColumnLayout
  | .accounts =>
    .block
      [ ["uid", "normalizedEmail", "email", "emailCode", "emailVerified", "kA", "wrapWrapKb"],
        ["authSalt", "verifierVersion", "verifyHash", "verifierSetAt", "createdAt", "locale"] ]
  | .emails =>
    .block
      [ [ "normalizedEmail", "email", "uid", "emailCode", "isVerified", "isPrimary", "verifiedAt",
          "createdAt" ] ]
  | .sessionTokens =>
    .block
      [ ["tokenId", "tokenData", "uid", "createdAt", "uaBrowser", "uaBrowserVersion"],
        ["uaOS", "uaOSVersion", "uaDeviceType", "lastAccessTime"] ]
  | .unverifiedTokens => .inline ["tokenId", "tokenVerificationId", "uid", "mustVerify"]
  | .devices => .inline ["uid", "id", "sessionTokenId", "name", "type", "createdAt"]
  | .keyFetchTokens => .inline ["tokenId", "authKey", "uid", "keyBundle", "createdAt"]
  | .passwordChangeTokens => .inline ["tokenId", "tokenData", "uid", "createdAt"]
  | .passwordForgotTokens =>
    .inline ["tokenId", "tokenData", "uid", "passCode", "createdAt", "tries"]
  | .accountResetTokens => .inline ["tokenId", "tokenData", "uid", "createdAt"]

/-- The columns of a table, in order. -/
def columns (table : Table) : List String :=
  table.layout.columns

end Table

/-- A fixture statement. -/
inductive Statement where
  /-- Insert a row, given by the values of all columns. -/
  | insert (table : Table) (row : List Value)
  /-- Delete the rows of a user. -/
  | deleteUser (table : Table) (user : Value)
  /-- Delete the rows of a token. -/
  | deleteToken (table : Table) (token : Value)
deriving DecidableEq, Repr

namespace Statement

/-- Parts separated by commas. -/
def commaList (parts : List Text) : Text :=
  Text.joinWith [',', ' '] parts

/-- One parameter mark for each column. -/
def marks (columns : List String) : Text :=
  commaList (columns.map fun _ => ['%', 's'])

/-- Lines that are indented twice and separated by commas. -/
def indentedLines (lines : List (List String)) : Text :=
  Text.joinWith [',', '\n'] (lines.map fun columns =>
    "        ".toList ++ commaList (columns.map String.toList))

/-- The text that inserts a row. -/
def insertText (table : Table) : Text :=
  let opening := "\n    INSERT INTO ".toList ++ table.name ++ [' ', '(']
  let closing := [')', '\n']
  match table.layout with
  | .inline columns =>
    opening ++ commaList (columns.map String.toList) ++ ")\n    VALUES (".toList ++
      marks columns ++ closing
  | .block lines =>
    opening ++ '\n' :: indentedLines lines ++ "\n    ) VALUES (".toList ++
      marks lines.flatten ++ closing

/-- The text that deletes the rows with a value in a column. -/
def deleteText (table : Table) (column : Text) : Text :=
  "DELETE FROM ".toList ++ table.name ++ " WHERE ".toList ++ column ++ " = %s".toList

/-- The statement as it is sent to a server. -/
def request : Statement → Request
  | .insert table row => { sql := insertText table, parameters := row }
  | .deleteUser table user => { sql := deleteText table "uid", parameters := [user] }
  | .deleteToken table token => { sql := deleteText table "tokenId", parameters := [token] }

end Statement

end ProcedureAudit.Fixture
