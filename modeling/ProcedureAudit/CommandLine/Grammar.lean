import ProcedureAudit.Text.Basic

/-!
# Commands and switches

The command line names a command, possibly within a group of commands.  Every command understands
a few switches, and some of these take a value.
-/

namespace ProcedureAudit.CommandLine

/-- A switch. -/
inductive Switch where
  | help
  | config
  | address
  | root
  | callerFile
  | ignoreFile
  | recordCount
  | procedure
  | normalize
deriving DecidableEq, Repr

namespace Switch

/-- The ways to write a switch. -/
def spellings : Switch → List Text
  | .help => ["-h".toList, "--help".toList]
  | .config => ["--config".toList]
  | .address => ["--dsn".toList]
  | .root => ["--source-root".toList]
  | .callerFile => ["--caller-file".toList]
  | .ignoreFile => ["--ignore-file".toList]
  | .recordCount => ["--records".toList]
  | .procedure => ["--procedure".toList]
  | .normalize => ["--normalize".toList]

/-- Whether a switch takes a value. -/
def takesValue : Switch → Bool
  | .help => false
  | .normalize => false
  | _ => true

end Switch

/-- A command. -/
inductive Command where
  /-- Audit the procedures of interest. -/
  | run
  /-- Print the statements of a source file. -/
  | scan
  /-- List the procedures of interest with their files. -/
  | procedures
  /-- Ask the server for its version. -/
  | ping
deriving DecidableEq, Repr

/-- A group of commands. -/
inductive Group where
  | program
  | database
deriving DecidableEq, Repr

/-- What a word of the command line can lead to. -/
inductive Scope where
  | group (inner : Group)
  | command (leaf : Command)
deriving DecidableEq, Repr

namespace Command

/-- The words that lead to a command. -/
def title : Command → Text
  | .run => "sproc-explain run"
  | .scan => "sproc-explain scan"
  | .procedures => "sproc-explain procedures"
  | .ping => "sproc-explain db ping"

/-- The switches of a command. -/
def switches : Command → List Switch
  | .run => [.help, .config, .address, .root, .callerFile, .ignoreFile, .recordCount]
  | .scan => [.help, .procedure, .normalize]
  | .procedures => [.help, .config, .root, .callerFile]
  | .ping => [.help, .config, .address]

/-- Whether a command works on a file that is named without a switch. -/
def takesFile : Command → Bool
  | .scan => true
  | _ => false

end Command

namespace Group

/-- The words that lead to a group. -/
def title : Group → Text
  | .program => "sproc-explain"
  | .database => "sproc-explain db"

/-- The name of the word that selects from a group. -/
def choiceName : Group → Text
  | .program => "cmd"
  | .database => "dbcmd"

/-- The words that select from a group, and what they lead to. -/
def choices : Group → List (Text × Scope)
  | .program =>
    [ ("run".toList, .command .run), ("scan".toList, .command .scan),
      ("procedures".toList, .command .procedures), ("db".toList, .group .database) ]
  | .database => [("ping".toList, .command .ping)]

end Group

namespace Scope

/-- The words that lead to a scope. -/
def title : Scope → Text
  | .group inner => inner.title
  | .command leaf => leaf.title

/-- The switches of a scope; a group has none but the one for help. -/
def switches : Scope → List Switch
  | .group _ => [.help]
  | .command leaf => leaf.switches

end Scope

end ProcedureAudit.CommandLine
