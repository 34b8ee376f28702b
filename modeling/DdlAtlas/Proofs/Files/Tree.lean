import DdlAtlas.Proofs.Files.Name

/-!
# Files and folders

Writing, making folders and removing keep the parts of all places such as can stand in a folder. A path to
a file leads to the folder of the file by all its parts but the last, and that folder has the file.
-/

namespace DdlAtlas

def Path.IsEntry (t : Text) : Prop :=
  IsPart t ∧ t ≠ ['.', '.']

namespace Tree

structure Sound (t : Tree) : Prop where
  working : ∀ part ∈ t.working, Path.IsEntry part
  entries : ∀ e ∈ t.entries, ∀ part ∈ e.1, Path.IsEntry part

theorem Sound.put {t : Tree} (h : t.Sound) {place : List Text}
    (hplace : ∀ part ∈ place, Path.IsEntry part) (node : Node) : (t.put place node).Sound := by
  refine ⟨h.working, fun e he => ?_⟩
  rcases List.mem_append.mp he with he | he
  · exact h.entries e (List.mem_of_mem_filter he)
  · obtain rfl := List.mem_singleton.mp he
    exact hplace

theorem Sound.addFolder {t : Tree} (h : t.Sound) {place : List Text}
    (hplace : ∀ part ∈ place, Path.IsEntry part) : (t.addFolder place).Sound := by
  unfold Tree.addFolder
  split
  · exact h
  · exact h.put hplace _

theorem isEntry_concat {here : List Text} {part : Text} (hhere : ∀ q ∈ here, Path.IsEntry q)
    (hpart : Path.IsPart part) (hup : part ≠ "..") : ∀ q ∈ here ++ [part], Path.IsEntry q := by
  intro q hq
  rcases List.mem_append.mp hq with hq | hq
  · exact hhere q hq
  · obtain rfl := List.mem_singleton.mp hq
    exact ⟨hpart, hup⟩

theorem Sound.addFolders {t : Tree} (h : t.Sound) {here parts : List Text}
    (hhere : ∀ part ∈ here, Path.IsEntry part) (hparts : ∀ part ∈ parts, Path.IsPart part) :
    (t.addFolders here parts).Sound := by
  induction parts generalizing t here with
  | nil => exact h
  | cons part rest ih =>
    have hrest : ∀ q ∈ rest, Path.IsPart q := fun q hq => hparts q (List.mem_cons_of_mem part hq)
    unfold Tree.addFolders
    split
    · exact ih h (fun q hq => hhere q (List.dropLast_subset here hq)) hrest
    · rename_i hup
      have hplace := isEntry_concat hhere (hparts part List.mem_cons_self) hup
      exact ih (h.addFolder hplace) hplace hrest

theorem isEntry_placeFrom {here parts : List Text} (hhere : ∀ part ∈ here, Path.IsEntry part)
    (hparts : ∀ part ∈ parts, Path.IsPart part) : ∀ part ∈ placeFrom here parts, Path.IsEntry part := by
  induction parts generalizing here with
  | nil => exact hhere
  | cons part rest ih =>
    have hrest : ∀ q ∈ rest, Path.IsPart q := fun q hq => hparts q (List.mem_cons_of_mem part hq)
    unfold placeFrom
    split
    · exact ih (fun q hq => hhere q (List.dropLast_subset here hq)) hrest
    · rename_i hup
      exact ih (isEntry_concat hhere (hparts part List.mem_cons_self) hup) hrest

theorem Sound.start {t : Tree} (h : t.Sound) (p : Path) : ∀ part ∈ t.start p, Path.IsEntry part := by
  unfold Tree.start
  split
  · exact h.working
  · simp

inductive Change
  | write (path : Text) (f : File)
  | makeFolder (path : Text)
  | remove (path : Text)

def Change.apply (t : Tree) : Change → Tree
  | .write path f => t.write (.ofText path) f
  | .makeFolder path => t.makeFolder (.ofText path)
  | .remove path => t.remove (.ofText path)

theorem Change.sound {t : Tree} (h : t.Sound) (c : Change) : (c.apply t).Sound := by
  cases c with
  | write path f =>
    have hfolders : (t.addFolders (t.start (.ofText path)) (Path.ofText path).parts.dropLast).Sound :=
      h.addFolders (h.start _) fun q hq => Path.isPart_of_mem_ofText (List.dropLast_subset _ hq)
    apply hfolders.put
    exact isEntry_placeFrom (h.start _) fun q hq => Path.isPart_of_mem_ofText hq
  | makeFolder path => exact h.addFolders (h.start _) fun q hq => Path.isPart_of_mem_ofText hq
  | remove path => exact ⟨h.working, fun e he => h.entries e (List.mem_of_mem_filter he)⟩

theorem sound_foldl {working : List Text} (h : ∀ part ∈ working, Path.IsEntry part)
    (changes : List Change) : (changes.foldl Change.apply (ofWorking working)).Sound := by
  have hstart : (ofWorking working).Sound := by
    have hempty : Sound ⟨working, []⟩ := ⟨h, by simp⟩
    apply hempty.addFolders
    · simp
    · exact fun part hpart => (h part hpart).1
  generalize ofWorking working = t at hstart
  induction changes generalizing t with
  | nil => exact hstart
  | cons c changes ih => exact ih (c.apply t) (c.sound hstart)

theorem mem_entries_of_at? {t : Tree} {place : List Text} {f : File} (h : t.at? place = some (.file f)) :
    (place, .file f) ∈ t.entries := by
  unfold at? at h
  split at h
  · simp at h
  · obtain ⟨e, he, hnode⟩ := Option.map_eq_some_iff.mp h
    obtain rfl : e.1 = place := by simpa using List.find?_some he
    rw [← hnode]
    exact List.mem_of_find?_eq_some he

theorem mem_filesIn_iff {t : Tree} {parts : List Text} {name : Text} {f : File} :
    (name, f) ∈ t.filesIn parts ↔ (parts ++ [name], .file f) ∈ t.entries := by
  unfold filesIn
  rw [List.mem_filterMap]
  constructor
  · rintro ⟨⟨place, node⟩, he, hsome⟩
    cases node with
    | folder => simp at hsome
    | file g =>
      obtain ⟨⟨hparts, hne⟩, rfl, rfl⟩ : (place.dropLast = parts ∧ place ≠ []) ∧
          place.getLastD [] = name ∧ g = f := by simpa using hsome
      have hplace : place.dropLast ++ [place.getLastD []] = place := by
        rw [List.getLastD_eq_getLast?, List.getLast?_eq_some_getLast hne, Option.getD_some]
        exact List.dropLast_append_getLast hne
      rw [← hparts, hplace]
      exact he
  · intro he
    exact ⟨_, he, by simp⟩

theorem at?_of_follow_nil {t : Tree} {here : List Text} {f : File} (h : t.follow here [] = .file f) :
    t.at? here = some (.file f) := by
  rw [follow] at h
  split at h
  · simp at h
  · rename_i hnode
    obtain rfl := Destination.file.inj h
    exact hnode
  · simp at h

theorem follow_cons_eq_file {t : Tree} {here parts : List Text} {part : Text} {f : File}
    (h : t.follow here (part :: parts) = .file f) :
    t.at? here = some .folder ∧
      ((part = ".." ∧ t.follow here.dropLast parts = .file f) ∨
        (part ≠ ".." ∧ byteCount part ≤ 255 ∧ t.follow (here ++ [part]) parts = .file f)) := by
  rw [follow] at h
  split at h
  · rename_i hfolder
    refine ⟨hfolder, ?_⟩
    split at h
    · exact .inl ⟨‹_›, h⟩
    · split at h
      · simp at h
      · exact .inr ⟨‹_›, Nat.not_lt.mp ‹_›, h⟩
  · simp at h

theorem follow_concat {t : Tree} {here parts : List Text} {part : Text} {f : File} (hup : part ≠ "..")
    (h : t.follow here (parts ++ [part]) = .file f) :
    ∃ place, t.follow here parts = .folder place ∧ t.at? (place ++ [part]) = some (.file f) := by
  induction parts generalizing here with
  | nil =>
    obtain ⟨hfolder, ⟨hpart, -⟩ | ⟨-, -, hlast⟩⟩ := follow_cons_eq_file h
    · exact absurd hpart hup
    · exact ⟨here, by rw [follow, hfolder], at?_of_follow_nil hlast⟩
  | cons q parts ih =>
    obtain ⟨hfolder, ⟨hq, hrest⟩ | ⟨hq, hshort, hrest⟩⟩ := follow_cons_eq_file h
    · simpa only [follow, hfolder, if_pos hq] using ih hrest
    · simpa only [follow, hfolder, if_neg hq, if_neg (Nat.not_lt.mpr hshort)] using ih hrest

theorem byteCount_append (s t : Text) : byteCount (s ++ t) = byteCount s + byteCount t := by
  simp [byteCount, Text.toBytes]

theorem byteCount_pos {t : Text} (h : t ≠ []) : 1 ≤ byteCount t := by
  obtain ⟨c, rest, rfl⟩ := List.exists_cons_of_ne_nil h
  have hone : 1 ≤ (Text.charBytes c).length := by
    unfold Text.charBytes
    dsimp only
    split
    · simp
    · split
      · simp
      · split <;> simp
  rw [← List.singleton_append, byteCount_append]
  exact Nat.le_add_right_of_le (by simpa [byteCount, Text.toBytes] using hone)

theorem byteCount_toText_le (p : Path) {part : Text} (h : part ≠ []) :
    byteCount p.toText ≤ byteCount (Path.toText ⟨p.root, p.parts ++ [part]⟩) := by
  have hlong : Path.toText ⟨p.root, p.parts ++ [part]⟩ = p.root ++ Text.join "/" (p.parts ++ [part]) := by
    simp [Path.toText]
  rw [hlong, byteCount_append]
  by_cases hparts : p.parts = []
  · have hpart := byteCount_pos h
    have hpoint : byteCount ['.'] = 1 := rfl
    unfold Path.toText
    split
    · simp only [hparts, List.nil_append, Text.join]
      exact Nat.le_add_left_of_le hpart
    · simp [hparts, Text.join]
  · have hshort : p.toText = p.root ++ Text.join "/" p.parts := by
      simp [Path.toText, hparts]
    rw [hshort, Text.join_concat _ hparts, byteCount_append, byteCount_append, byteCount_append]
    omega

theorem follow_of_find {t : Tree} {p : Path} {f : File} (h : t.find p = .file f) :
    p.parts.any (·.contains '\x00') = false ∧ byteCount p.toText < 4096 ∧
      t.follow (t.start p) p.parts = .file f := by
  rw [find] at h
  split at h
  · simp at h
  · rename_i hnul
    split at h
    · simp at h
    · exact ⟨Bool.not_eq_true _ ▸ hnul, Nat.not_le.mp ‹_›, h⟩

theorem find_concat {t : Tree} {p : Path} {part : Text} {f : File} (hpart : Path.IsEntry part)
    (h : t.find ⟨p.root, p.parts ++ [part]⟩ = .file f) :
    ∃ place, t.find p = .folder place ∧ t.at? (place ++ [part]) = some (.file f) := by
  obtain ⟨hnul, hshort, hfollow⟩ := follow_of_find h
  have hle := byteCount_toText_le p hpart.1.1
  have hfront : p.parts.any (·.contains '\x00') = false := by
    rw [List.any_append, Bool.or_eq_false_iff] at hnul
    exact hnul.1
  rw [find, hfront, if_neg Bool.false_ne_true, if_neg (by omega)]
  exact follow_concat hpart.2 hfollow

theorem find_of_isEntry {t : Tree} {name : Text} (h : Path.IsEntry name) :
    t.find (.ofText name) = if name.contains '\x00' then .nowhere
      else if 4096 ≤ byteCount name then .tooLong else t.follow t.working [name] := by
  rw [find, Path.ofText_of_isPart h.1]
  have htext : Path.toText ⟨[], [name]⟩ = name := rfl
  simp [htext, start]

theorem byteCount_le_of_follow {t : Tree} {here parts : List Text} {f : File} (h : t.follow here parts = .file f) :
    ∀ part ∈ parts, part = ".." ∨ byteCount part ≤ 255 := by
  induction parts generalizing here with
  | nil => simp
  | cons q parts ih =>
    obtain ⟨-, ⟨hq, hrest⟩ | ⟨-, hshort, hrest⟩⟩ := follow_cons_eq_file h
    · exact List.forall_mem_cons.mpr ⟨.inl hq, ih hrest⟩
    · exact List.forall_mem_cons.mpr ⟨.inr hshort, ih hrest⟩

theorem find_ne_tooLong {t : Tree} {p : Path} {name more : Text} {f : File} (h : Path.IsEntry name)
    (hmore : name ++ more ∈ p.parts) (hfile : t.find p = .file f) : t.find (.ofText name) ≠ .tooLong := by
  obtain ⟨-, -, hfollow⟩ := follow_of_find hfile
  have hup : name ++ more ≠ ['.', '.'] := by
    intro heq
    obtain ⟨⟨hne, hpoint, -⟩, hdots⟩ := h
    rcases name with _ | ⟨c, _ | ⟨d, rest⟩⟩
    · exact hne rfl
    · have hc : c = '.' := (List.cons.inj heq).1
      exact hpoint (by rw [hc])
    · have hall : c = '.' ∧ d = '.' ∧ rest = [] ∧ more = [] := by simpa using heq
      exact hdots (by simp [hall])
  have hshort : byteCount name ≤ 255 := by
    have hpart := (byteCount_le_of_follow hfollow _ hmore).resolve_left hup
    rw [byteCount_append] at hpart
    omega
  have hdots : name ≠ "..".toList := h.2
  rw [find_of_isEntry h, if_neg (by omega : ¬4096 ≤ byteCount name)]
  split
  · simp
  · rw [follow]
    split
    · rw [if_neg hdots, if_neg (by omega : ¬255 < byteCount name), follow]
      split <;> simp
    · simp

end Tree

end DdlAtlas
