import Rebac.Proofs.ValidatedConfigs

set_option autoImplicit false

/-!
# Schema files of accepted configurations

Validation asks three things of the path of a schema: that it leads somewhere, that it ends as the
names of schema files do, and that no empty file is there. The last name of such a path is ordinary,
so the path leads to an entry of that name (`FileTree.exists_node_of_find`), which is a file with
content or a directory. Both are accepted, so a path that is accepted leads to a schema file exactly
if no directory is there (`Configuration.validated_path_iff`). A directory that is called like a
schema file is accepted (`Configuration.directory_accepted`).
-/

namespace Rebac

namespace FileTree

variable {t : FileTree} {path name ending : String} {node : FileNode}

/-! ## The last name of a path -/

/-- A name that stands for an entry of a directory: not for the directory itself or the one
above. -/
def IsEntryName (name : String) : Prop := name ≠ "" ∧ name ≠ "." ∧ name ≠ ".."

/-- A path that ends in a text without a slash has a last name that ends in it. -/
theorem exists_pathNames_eq (hending : '/' ∉ ending.toList)
    (h : ending.toList <:+ path.toList) :
    ∃ before name, pathNames path = before ++ [name] ∧ ending.toList <:+ name.toList := by
  obtain ⟨start, hstart⟩ := h
  have hslash : ∀ c ∈ ending.toList, (c == '/') = false := by
    intro c hc
    rw [beq_eq_false_iff_ne]
    rintro rfl
    exact hending hc
  obtain ⟨before, last, hpieces⟩ := Text.exists_pieces_append hslash start
  refine ⟨before.map String.ofList, String.ofList (last ++ ending.toList), ?_, ?_⟩
  · rw [pathNames, ← hstart, hpieces, List.map_append, List.map_singleton]
  · rw [String.toList_ofList]
    exact List.suffix_append _ _

/-- A path ends with its last name. -/
theorem suffix_of_getLast?_pathNames (h : (pathNames path).getLast? = some name) :
    name.toList <:+ path.toList := by
  obtain ⟨before, hnames⟩ := List.getLast?_eq_some_iff.1 h
  obtain ⟨pieces, last, hpieces, -, hlast⟩ := List.map_eq_append_iff.1 hnames
  obtain ⟨piece, rfl, rfl⟩ := List.map_eq_singleton_iff.1 hlast
  obtain ⟨start, hstart, -⟩ := Text.exists_append_of_pieces hpieces
  rw [String.toList_ofList, hstart]
  exact List.suffix_append _ _

/-- A name that ends as schema files do stands for an entry. -/
theorem isEntryName_of_ending (h : schemaFileEnding.toList <:+ name.toList) :
    IsEntryName name := by
  refine ⟨?_, ?_, ?_⟩
  · rintro rfl
    exact absurd h (by decide)
  · rintro rfl
    exact absurd h (by decide)
  · rintro rfl
    exact absurd h (by decide)

/-- The name of an entry leads to the entry of this name. -/
theorem eq_cons_of_enter (hname : IsEntryName name) {here there : List String}
    (h : enter name here = some there) : there = name :: here := by
  obtain ⟨hempty, hdot, hdots⟩ := hname
  unfold enter at h
  rw [if_neg (by simp [hempty, hdot]), if_neg (by simpa using hdots)] at h
  split at h
  · cases h
    rfl
  · cases h

/-- What a path leads to that ends in the name of an entry is an entry of this name. -/
theorem exists_node_of_follow (hname : IsEntryName name) (names : List String)
    {here : List String} (h : t.follow here (names ++ [name]) = some node) :
    ∃ dirs, t.node? (dirs ++ [name]) = some node := by
  -- Only the last step decides, wherever the names before it lead.
  induction names generalizing here with
  | nil =>
      rw [List.nil_append, follow] at h
      split at h
      · split at h
        · next there henter =>
          cases eq_cons_of_enter hname henter
          rw [follow, List.reverse_cons] at h
          exact ⟨_, h⟩
        · cases h
      · cases h
  | cons first names ih =>
      rw [List.cons_append, follow] at h
      split at h
      · split at h
        · exact ih h
        · cases h
      · cases h

theorem exists_node_of_find (hname : IsEntryName name) {names : List String}
    (hnames : pathNames path = names ++ [name]) (h : t.find? path = some node) :
    ∃ dirs, t.node? (dirs ++ [name]) = some node := by
  unfold find? at h
  split at h
  · cases h
  · split at h
    · next rest hrooted =>
      -- Behind the slash at the start there is at least the last name.
      rw [hnames] at hrooted
      cases names with
      | nil =>
          rw [List.nil_append, List.cons.injEq] at hrooted
          exact absurd hrooted.1 hname.1
      | cons first names =>
          rw [List.cons_append, List.cons.injEq] at hrooted
          rw [← hrooted.2] at h
          exact exists_node_of_follow hname names h
    · rw [hnames] at h
      exact exists_node_of_follow hname names h

/-- A file is one of the entries of the tree. -/
theorem mem_nodes_of_node? {names : List String} {size : Nat}
    (h : t.node? names = some (.file size)) : (names, .file size) ∈ t.nodes := by
  unfold node? at h
  split at h
  · cases h
  · split at h
    · next n hn =>
      have hfile : n.2 = .file size := Option.some.inj h
      have hkey : n.1 = names := by simpa using List.find?_some hn
      rw [← hfile, ← hkey]
      exact List.mem_of_find?_eq_some hn
    · split at h
      · cases h
      · cases h

/-! ## Schema files -/

/-- A path leads to a file of the tree that has content and a name that ends as those of schema
files do. -/
def LeadsToSchemaFile (t : FileTree) (path : String) : Prop :=
  ∃ dirs name size, (pathNames path).getLast? = some name ∧
    schemaFileEnding.toList <:+ name.toList ∧ t.find? path = some (.file size) ∧ 0 < size ∧
    (dirs ++ [name], .file size) ∈ t.nodes

/-- A path leads to a directory that is called like a schema file. -/
def LeadsToSchemaDirectory (t : FileTree) (path : String) : Prop :=
  schemaFileEnding.toList <:+ path.toList ∧ t.find? path = some .directory

theorem LeadsToSchemaFile.suffix (h : t.LeadsToSchemaFile path) :
    schemaFileEnding.toList <:+ path.toList := by
  obtain ⟨_, name, _, hname, hending, -⟩ := h
  exact hending.trans (suffix_of_getLast?_pathNames hname)

theorem LeadsToSchemaFile.find_ne_directory (h : t.LeadsToSchemaFile path) :
    t.find? path ≠ some .directory := by
  obtain ⟨_, _, size, -, -, hfind, -⟩ := h
  rw [hfind]
  simp

/-- A file with content is a schema file if the path to it ends as those of schema files do. -/
theorem leadsToSchemaFile_of_find {size : Nat} (hending : schemaFileEnding.toList <:+ path.toList)
    (h : t.find? path = some (.file size)) (hsize : 0 < size) : t.LeadsToSchemaFile path := by
  obtain ⟨before, name, hnames, hname⟩ := exists_pathNames_eq (by decide) hending
  obtain ⟨dirs, hnode⟩ := exists_node_of_find (isEntryName_of_ending hname) hnames h
  refine ⟨dirs, name, size, ?_, hname, h, hsize, mem_nodes_of_node? hnode⟩
  rw [hnames, List.getLast?_concat]

end FileTree

namespace Configuration

variable {files : FileTree} {c : Configuration} {path : String}

/-- **The path of a schema is accepted exactly if it leads to a file that is not empty or to a
directory**, and ends as the names of schema files do. -/
theorem checkPath_eq_ok_iff : checkPath files path = .ok () ↔
    files.LeadsToSchemaFile path ∨ files.LeadsToSchemaDirectory path := by
  constructor
  · intro h
    unfold checkPath at h
    split at h
    · cases h
    · next node hnode =>
      split at h
      · cases h
      · next hending =>
        have hsuffix : schemaFileEnding.toList <:+ path.toList := by simpa using hending
        split at h
        · cases h
        · next hempty =>
          cases node with
          | directory => exact Or.inr ⟨hsuffix, hnode⟩
          | file size =>
              refine Or.inl (FileTree.leadsToSchemaFile_of_find hsuffix hnode ?_)
              exact Nat.pos_of_ne_zero fun hzero => hempty (congrArg _ hzero)
  · intro h
    have hsuffix : schemaFileEnding.toList <:+ path.toList := by
      obtain hfile | ⟨hending, -⟩ := h
      · exact hfile.suffix
      · exact hending
    obtain ⟨node, hnode, hcontent⟩ : ∃ node, files.find? path = some node ∧ node ≠ .file 0 := by
      obtain ⟨_, _, size, -, -, hfind, hsize, -⟩ | ⟨-, hfind⟩ := h
      · exact ⟨_, hfind, by simpa using Nat.ne_of_gt hsize⟩
      · exact ⟨_, hfind, by simp⟩
    unfold checkPath
    rw [hnode]
    dsimp only
    rw [if_neg (by simpa using hsuffix), if_neg hcontent]
    rfl

/-- A path that leads somewhere is not empty, so the check of a schema is that of the path. -/
theorem checkSchema_text_eq_ok_iff : checkSchema files (.text path) = .ok () ↔
    checkPath files path = .ok () := by
  by_cases hpath : path = ""
  · subst hpath
    constructor <;> intro h <;> cases h
  · have htruthy : (Value.text path).truthy = true := by simpa [Value.truthy] using hpath
    rw [checkSchema, if_neg (by simp [htruthy])]

theorem checkSchema_schema (s : Schema) : checkSchema files (.schema s) = .ok () := rfl

/-- **What the path of a schema leads to in a configuration that is accepted.** A configuration with
a path is accepted exactly if it is with a schema in place of the path, and the path leads to a
schema file or to a directory that is called like one. So the path of an accepted configuration
leads to a schema file exactly if no directory is there. -/
theorem validated_path_iff (hpath : c.schema = .text path) (s : Schema) :
    (validate files (some c) = .ok () ↔
      validate files (some { c with schema := .schema s }) = .ok () ∧
        (files.LeadsToSchemaFile path ∨ files.LeadsToSchemaDirectory path)) ∧
    (validate files (some c) = .ok () →
      (files.LeadsToSchemaFile path ↔ files.find? path ≠ some .directory)) := by
  have hparts : validate files (some c) = .ok () ↔
      validate files (some { c with schema := .schema s }) = .ok () ∧
        (files.LeadsToSchemaFile path ∨ files.LeadsToSchemaDirectory path) := by
    rw [validate_eq_ok_iff, validate_eq_ok_iff, hpath, checkSchema_text_eq_ok_iff,
      checkPath_eq_ok_iff]
    dsimp only
    simp only [checkSchema_schema, true_and]
    tauto
  refine ⟨hparts, fun h => ⟨FileTree.LeadsToSchemaFile.find_ne_directory, fun hfind => ?_⟩⟩
  obtain ⟨-, hfile | ⟨-, hdirectory⟩⟩ := hparts.1 h
  · exact hfile
  · exact absurd hdirectory hfind

/-- A configuration whose schema is in a file. -/
def fileConfiguration (path : String) : Configuration where
  client := some { endpoint := some "localhost:3476" }
  schema := .text path

/-- A machine with a schema file of some size, and a working directory elsewhere. -/
def schemaDisk (size : Nat) : FileTree where
  nodes := [(["srv", "schemas", "app.perm"], .file size)]
  workingDirectory := ["srv", "work"]

/-- A configuration whose schema is in a file with content is accepted, and the file is found. -/
theorem schemaFile_accepted :
    (fileConfiguration "/srv/schemas/app.perm").schema = .text "/srv/schemas/app.perm" ∧
      validate (schemaDisk 12) (some (fileConfiguration "/srv/schemas/app.perm")) = .ok () ∧
      (schemaDisk 12).LeadsToSchemaFile "/srv/schemas/app.perm" := by
  have hvalid : validate (schemaDisk 12) (some (fileConfiguration "/srv/schemas/app.perm")) =
      .ok () := by rfl
  obtain ⟨-, hfile⟩ :=
    validated_path_iff (c := fileConfiguration "/srv/schemas/app.perm") rfl ⟨.empty⟩
  exact ⟨rfl, hvalid, (hfile hvalid).2 (by decide)⟩

-- The same file from the working directory, and an empty one.
example : checkPath (schemaDisk 12) "../schemas/app.perm" = .ok () := by rfl
example : checkPath (schemaDisk 0) "../schemas/app.perm" =
    .error (.schemaEmpty "../schemas/app.perm") := by rfl

/-- A working directory that holds a directory with the name of a schema file. -/
def directoryDisk : FileTree where
  nodes := [(["srv", "work", "schema.perm"], .directory)]
  workingDirectory := ["srv", "work"]

/-- **A directory that is called like a schema file is accepted as the path of a schema.** -/
theorem directory_accepted :
    validate directoryDisk (some (fileConfiguration "schema.perm")) = .ok () ∧
      directoryDisk.find? "schema.perm" = some .directory ∧
      ¬ directoryDisk.LeadsToSchemaFile "schema.perm" := by
  have hfind : directoryDisk.find? "schema.perm" = some .directory := by decide
  exact ⟨by rfl, hfind, fun h => h.find_ne_directory hfind⟩

end Configuration

end Rebac
