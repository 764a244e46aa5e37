import Rebac.Client.Settings
import Rebac.Log.Setup
import Rebac.Text
import Rebac.Value.Choice

set_option autoImplicit false

/-!
# Configurations

What a deployment needs, the files that it names, and how a configuration is validated.
-/

/-!
## Files

A tree of files and directories, with a working directory in it, and what a path leads to. A path is
followed name by name, from the root if it begins with a slash and else from the working directory,
and every name but the last has to lead to a directory.
-/

namespace Rebac

/-- What a path can lead to: a file of some size, or a directory. -/
inductive FileNode
  | file (size : Nat)
  | directory
deriving DecidableEq

/-- The files and directories of a machine and the working directory, each by the names that lead to
it from the root, outermost name first. A directory that holds something need not be listed. -/
structure FileTree where
  nodes : List (List String × FileNode) := []
  workingDirectory : List String := []

namespace FileTree

/-- The greatest size of a name in bytes. -/
def maxName : Nat := 255

/-- The greatest size of a path in bytes. -/
def maxPath : Nat := 4095

/-- The node to which names lead from the root. The root and the working directory exist. -/
def node? (t : FileTree) (names : List String) : Option FileNode :=
  if names.isPrefixOf t.workingDirectory then some .directory
  else
    match t.nodes.find? (fun n => n.1 == names) with
    | some n => some n.2
    | none => if t.nodes.any (fun n => names.isPrefixOf n.1) then some .directory else none

/-- The place to which a name leads from a directory, by the names of both, innermost first. -/
def enter (name : String) (here : List String) : Option (List String) :=
  -- A slash at the end asks for a directory, and so does a single dot.
  if name.isEmpty || name == "." then some here
  -- Nothing lies above the root.
  else if name == ".." then some here.tail
  else if name.utf8ByteSize ≤ maxName then some (name :: here)
  else none

/-- The node to which names lead from a place, whose names are given innermost first. -/
def follow (t : FileTree) : List String → List String → Option FileNode
  | here, [] => t.node? here.reverse
  | here, name :: rest =>
      match t.node? here.reverse with
      | some .directory =>
          match enter name here with
          | some there => t.follow there rest
          | none => none
      | _ => none

/-- The names in a path. -/
def pathNames (path : String) : List String :=
  (Text.pieces (· == '/') path.toList).map String.ofList

/-- The node to which a path leads. -/
def find? (t : FileTree) (path : String) : Option FileNode :=
  if path.isEmpty || path.toList.contains '\x00' || maxPath < path.utf8ByteSize then none
  else
    match pathNames path with
    | "" :: rest => t.follow [] rest
    | names => t.follow t.workingDirectory.reverse names

end FileTree

end Rebac

/-!
## Configurations

A configuration bundles what a deployment needs: connection settings, a tenant, a schema or the path
of a schema file, how to seed, and how to log. Validation reports the first setting at fault and
contacts no server.
-/

namespace Rebac

/-- How a tenant is seeded: a file of relationships and a mode. -/
structure SeedingSettings where
  seedFile : Value := .none
  mode : Value := .seedingMode .append

/-- A configuration. Connection settings that are none at all are left out. -/
structure Configuration where
  client : Option ConnectionSettings
  schema : Value
  tenant : Value := .none
  seeding : Option SeedingSettings := none
  logging : Option LogSettings := none

namespace Configuration

/-- Connection settings have an endpoint, if only an empty one. -/
def checkClient (client : Option ConnectionSettings) : Except ConfigFault Unit :=
  match client.bind (·.endpoint) with
  | some _ => pure ()
  | none => throw .clientEndpoint

/-- A tenant is left out or a text that is not blank. -/
def checkTenant (tenant : Value) : Except ConfigFault Unit :=
  match tenant with
  | .none => pure ()
  | .text s => if Text.allBlank s.toList then throw .tenant else pure ()
  | _ => throw .tenant

/-- A path leads to something that is called a schema file and is not empty. -/
def checkPath (files : FileTree) (path : String) : Except ConfigFault Unit :=
  match files.find? path with
  | none => throw (.schemaNotFound path)
  | some node =>
      if !schemaFileEnding.toList.isSuffixOf path.toList then throw (.schemaExtension path)
      else if node = .file 0 then throw (.schemaEmpty path)
      else pure ()

/-- A schema is a schema of this library or the path of a schema file. -/
def checkSchema (files : FileTree) (schema : Value) : Except ConfigFault Unit :=
  if !schema.truthy then throw .noSchema
  else
    match schema with
    | .schema _ => pure ()
    | .text path => checkPath files path
    | _ => throw .schemaKind

/-- A seed file is left out or named, and the mode is one. -/
def checkSeeding (s : SeedingSettings) : Except ConfigFault Unit :=
  match s.seedFile with
  -- The file itself is read only when it is seeded.
  | .none | .text _ =>
      match SeedingMode.ofValue? s.mode with
      | some _ => pure ()
      | none => throw .seedingMode
  | _ => throw .seedFile

/-- The level is the name of a level, and the format is one. -/
def checkLogging (s : LogSettings) : Except ConfigFault Unit :=
  match LogLevel.ofName? s.level.display with
  | none => throw (.logLevel s.level)
  | some _ =>
      match s.format with
      | .text f => if (LogFormat.ofName? f).isSome then pure () else throw .logFormat
      | _ => throw .logFormat

/-- A part that is left out needs no check. -/
def checkGiven {α : Type} (check : α → Except ConfigFault Unit) : Option α → Except ConfigFault Unit
  | none => pure ()
  | some a => check a

/-- Validates a configuration. -/
def check (files : FileTree) (c : Configuration) : Except ConfigFault Unit := do
  checkClient c.client
  checkTenant c.tenant
  checkSchema files c.schema
  checkGiven checkSeeding c.seeding
  checkGiven checkLogging c.logging

/-- Validates what was given as a configuration, which may be none. -/
def validate (files : FileTree) (given : Option Configuration) : Except ConfigFault Unit :=
  match given with
  | none => throw .noConfig
  | some c => c.check files

end Configuration

end Rebac
