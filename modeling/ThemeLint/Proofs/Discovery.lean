import ThemeLint.Proofs.Run
import ThemeLint.Proofs.Walk

set_option autoImplicit false

namespace ThemeLint

namespace Config

variable {d : Disk} {path first : Path} {b : Bool}

theorem findRoot_of_first {marker : String} (hdir : d.isDirectory path = .ok b)
    (hfirst : ((if b then [path] else []) ++ path.parents).head? = some first)
    (hmark : d.exists? (first.join (Path.ofText marker)) = .ok true) :
    findRoot d path marker = .ok (some first) := by
  obtain ⟨rest, hlist⟩ := List.head?_eq_some_iff.1 hfirst
  have hfound : firstWith d (Path.ofText marker) (first :: rest) = .ok (some first) := by
    simp [firstWith, hmark, bind, Except.bind, pure, Except.pure]
  simp only [findRoot, hdir, bind, Except.bind, hlist]
  exact hfound

theorem discoverRoot_of_first (hdir : d.isDirectory path = .ok b)
    (hfirst : ((if b then [path] else []) ++ path.parents).head? = some first)
    (hmark : d.exists? (first.join (Path.ofText fileName)) = .ok true) :
    discoverRoot d path = .ok first := by
  unfold discoverRoot
  rw [findRoot_of_first hdir hfirst hmark]
  rfl

theorem load_of_no_file {known : List String} {dir : Path}
    (h : d.isFile (dir.child fileName) = .ok false) :
    (load d known dir).result = .ok ⟨dir, known, [], none⟩ := by
  unfold load
  simp only [Traced.result_bind, Traced.ask, Traced.result_ofExcept, h, Traced.mapError_ok, Except.bind]
  simp [ofEntries, rootOf, ignoreOf, switchedOff, Traced.result_bind, Traced.mapError_ok, Except.bind]

theorem join_fileName (dir : Path) : dir.join (Path.ofText fileName) = dir.child fileName := by
  have hanchor : (Path.ofText fileName).anchor = .relative := by rfl
  have hparts : (Path.ofText fileName).parts = [(fileName : WideText)] := by decide
  rw [Path.join_parts _ _ hanchor, hparts]
  rfl

end Config

namespace Session

def projectEntries (files : List WideText) : List (WideText × Node) :=
  ((Config.fileName : WideText), Node.directory) :: files.map fun file => (file, Node.file [])

section Project

variable {name : WideText} {files : List WideText} (h : Disk.IsPlain name (projectEntries files))
  {root : Path} (n : Nat) (hroot : root.parts = (List.replicate n [name, Path.up]).flatten ++ [name])
  (hmarker : (root.child Config.fileName).parts.all (·.points.all Disk.isNameable) = true ∧
    Disk.isTooLong (root.child Config.fileName) = false)

include h

theorem isA_project_file {file : WideText} (hfile : file ∈ files) {p : Path}
    (hparts : p.parts = (List.replicate n [name, Path.up]).flatten ++ [name, file])
    (hp : p.parts.all (·.points.all Disk.isNameable) = true ∧ Disk.isTooLong p = false)
    (kind : Node → Bool) :
    (Disk.ofDirectory name (projectEntries files)).isA kind p = .ok (kind (.file [])) :=
  Disk.isA_ofDirectory h n hparts hp (Disk.get?_ofDirectory_of_mem h
    (List.mem_cons_of_mem _ (List.mem_map.2 ⟨file, hfile, rfl⟩))) rfl kind

theorem textAt_project_file {file : WideText} (hfile : file ∈ files) {p : Path}
    (hparts : p.parts = (List.replicate n [name, Path.up]).flatten ++ [name, file])
    (hfault : Disk.pathFault? p = none) (hlen : Disk.isTooLong p = false) :
    (Disk.ofDirectory name (projectEntries files)).textAt p = .ok "" := by
  have hget := Disk.get?_ofDirectory_of_mem h
    (List.mem_cons_of_mem _ (List.mem_map.2 ⟨file, hfile, rfl⟩))
  rw [Disk.textAt, Disk.bytesAt_ofDirectory h n hparts hfault hlen hget]
  rfl

include hroot hmarker

theorem isDirectory_project (hlen : Disk.isTooLong root = false) :
    (Disk.ofDirectory name (projectEntries files)).isDirectory root = .ok true := by
  have hnameable := hmarker.1
  simp only [Path.child, List.all_append, Bool.and_eq_true] at hnameable
  exact Disk.isA_ofDirectory h n hroot ⟨hnameable.1, hlen⟩ (Disk.get?_ofDirectory h) rfl _

theorem isA_project_marker (kind : Node → Bool) :
    (Disk.ofDirectory name (projectEntries files)).isA kind (root.child Config.fileName) =
      .ok (kind .directory) := by
  refine Disk.isA_ofDirectory h n ?_ hmarker
    (Disk.get?_ofDirectory_of_mem h List.mem_cons_self) rfl kind
  simp [Path.child, hroot]

theorem load_project (known : List String) :
    (Config.load (Disk.ofDirectory name (projectEntries files)) known root).result =
      .ok ⟨root, known, [], none⟩ :=
  Config.load_of_no_file (isA_project_marker h n hroot hmarker Node.isFile)

theorem discoverRoot_project_file {file : WideText} (hfile : file ∈ files)
    (hpath : (root.child file).parts.all (·.points.all Disk.isNameable) = true ∧
      Disk.isTooLong (root.child file) = false)
    (hparents : (root.child file).parents.head? = some root) :
    Config.discoverRoot (Disk.ofDirectory name (projectEntries files)) (root.child file) =
      .ok root := by
  have hparts : (root.child file).parts =
      (List.replicate n [name, Path.up]).flatten ++ [name, file] := by
    simp [Path.child, hroot]
  have hdir := isA_project_file h n hfile hparts hpath Node.isDirectory
  refine Config.discoverRoot_of_first hdir hparents ?_
  rw [Config.join_fileName]
  exact isA_project_marker h n hroot hmarker fun _ => true

theorem run_resolve_project (hlen : Disk.isTooLong root = false) (r : Registry) :
    (start (Disk.ofDirectory name (projectEntries files)) r).run [.resolve root] =
      ⟨Disk.ofDirectory name (projectEntries files), r, some ⟨root, r.names, [], none⟩⟩ := by
  have hdiscovered := Config.discoverRoot_of_first
    (isDirectory_project h n hroot hmarker hlen) rfl
    (by rw [Config.join_fileName]; exact isA_project_marker h n hroot hmarker fun _ => true)
  have hfor : (start (Disk.ofDirectory name (projectEntries files)) r).configFor root =
      .ok ⟨root, r.names, [], none⟩ :=
    (loadFor_eq_ok_iff _ root _).2 ⟨root, hdiscovered, load_project h n hroot hmarker r.names⟩
  simp only [run, List.foldl, perform, (resolve_eq _ _).1, settle, hfor]
  rfl

end Project

end Session

end ThemeLint
