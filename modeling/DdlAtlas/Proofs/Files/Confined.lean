import DdlAtlas.Proofs.Files.Tree

/-!
# Names stay in their folder

The name of a schema comes with a request. A name that could lead elsewhere is refused, and no extension
without a slash turns one that is accepted into a path that does: what is read by a name is always a file
that stands directly in the folder.
-/

namespace DdlAtlas

namespace Path

def parent (p : Path) : Path :=
  ⟨p.root, p.parts.dropLast⟩

end Path

namespace Source

open DdlAtlas.Path

theorem isName_eq_false_iff {name : Text} :
    isName name = false ↔ name = [] ∨ name = ['.'] ∨ name = ['.', '.'] ∨ '/' ∈ name ∨ '\\' ∈ name := by
  simp [isName]
  tauto

theorem resolve_eq_error_iff {folder name extension : Text} {e : SourceError} :
    resolve folder name extension = .error e ↔ isName name = false ∧ e = .invalidName name := by
  unfold resolve
  split
  · simp [*]
  · rename_i hname
    simp [hname, eq_comm]

theorem filenameOf_eq (name extension : Text) :
    filenameOf name extension = name ∨ filenameOf name extension = name ++ extension := by
  unfold filenameOf
  split
  · exact .inl rfl
  · exact .inr rfl

theorem mem_filesIn_of_resolve {folder name extension : Text} {path : Path} (hslash : '/' ∉ extension)
    (h : resolve folder name extension = .ok path) {t : Tree} {f : File} (hfind : t.find path = .file f) :
    ∃ place, t.find (ofText folder) = .folder place ∧ (filenameOf name extension, f) ∈ t.filesIn place := by
  obtain ⟨hname, rfl⟩ := (resolve_eq_ok_iff hslash).mp h
  obtain ⟨place, hplace, hnode⟩ := Tree.find_concat (isPart_filenameOf hname hslash) hfind
  exact ⟨place, hplace, Tree.mem_filesIn_iff.mpr (Tree.mem_entries_of_at? hnode)⟩

/-- Just the names are refused that are empty, a point or two, or hold a slash of either kind. Any other
leads from the folder to a part of its own, and to no file but one that stands directly in the folder. -/
theorem resolve_confined {folder name extension : Text} (hslash : '/' ∉ extension) :
    (∀ e, resolve folder name extension = .error e ↔ e = .invalidName name ∧
      (name = [] ∨ name = ['.'] ∨ name = ['.', '.'] ∨ '/' ∈ name ∨ '\\' ∈ name)) ∧
    ∀ path, resolve folder name extension = .ok path →
      path.parent = ofText folder ∧ (path.name = name ∨ path.name = name ++ extension) ∧
      path.name ≠ ['.'] ∧ path.name ≠ ['.', '.'] ∧
      ∀ (t : Tree) f, t.find path = .file f →
        ∃ place, t.find (ofText folder) = .folder place ∧ (path.name, f) ∈ t.filesIn place := by
  refine ⟨fun e => ?_, fun path hpath => ?_⟩
  · rw [resolve_eq_error_iff, isName_eq_false_iff, and_comm]
  · obtain ⟨hname, hparts⟩ := (resolve_eq_ok_iff hslash).mp hpath
    obtain ⟨⟨-, hpoint, -⟩, hup⟩ := isPart_filenameOf hname hslash
    have hlast : path.name = filenameOf name extension := by
      rw [hparts, Path.name]
      simp
    have hparent : path.parent = ofText folder := by
      rw [hparts, Path.parent, List.dropLast_concat]
    rw [hlast]
    exact ⟨hparent, filenameOf_eq name extension, hpoint, hup,
      fun t f hfind => mem_filesIn_of_resolve hslash hpath hfind⟩

def nestedFolder : Tree :=
  [Tree.Change.write "a.Sql" ⟨[49], ⟨0, 0⟩⟩, .write "db/sub/a.Sql" ⟨[50], ⟨0, 0⟩⟩,
    .write "db/a.Sql" ⟨[51], ⟨0, 0⟩⟩, .write "db/..." ⟨[52], ⟨0, 0⟩⟩].foldl Tree.Change.apply (.ofWorking [['w']])

theorem resolve_nestedFolder :
    '/' ∉ (".sql" : Text) ∧ '/' ∉ (['.'] : Text) ∧
      resolve "./db" "a.Sql" ".sql" = .ok (ofText "db/a.Sql") ∧ (ofText "db/a.Sql").parent = ofText "./db" ∧
      nestedFolder.find (ofText "db/a.Sql") = .file ⟨[51], ⟨0, 0⟩⟩ ∧
      (∃ place, nestedFolder.find (ofText "./db") = .folder place ∧
        ("a.Sql".toList, ⟨[51], ⟨0, 0⟩⟩) ∈ nestedFolder.filesIn place) ∧
      resolve "./db" "..." ['.'] = .ok (ofText "db/...") ∧ (ofText "db/...").name ≠ ['.', '.'] ∧
      resolve "./db" ['.', '.'] ".sql" = .error (.invalidName ['.', '.']) := by
  have hsql : '/' ∉ (".sql" : Text) := by decide
  have hpoint : '/' ∉ (['.'] : Text) := by decide
  have hfile : resolve "./db" "a.Sql" ".sql" = .ok (ofText "db/a.Sql") := rfl
  have hpoints : resolve "./db" "..." ['.'] = .ok (ofText "db/...") := rfl
  have hfind : nestedFolder.find (ofText "db/a.Sql") = .file ⟨[51], ⟨0, 0⟩⟩ := rfl
  obtain ⟨hparent, -, -, -, hinside⟩ := (resolve_confined hsql).2 _ hfile
  obtain ⟨-, -, -, hup, -⟩ := (resolve_confined hpoint).2 _ hpoints
  have hrefused : resolve "./db" ['.', '.'] ".sql" = .error (.invalidName ['.', '.']) :=
    ((resolve_confined hsql).1 _).mpr ⟨rfl, .inr (.inr (.inl rfl))⟩
  exact ⟨hsql, hpoint, hfile, hparent, hfind, hinside _ _ hfind, hpoints, hup, hrefused⟩

end Source

end DdlAtlas
