import DdlAtlas.Proofs.Files.Tree

/-!
# Listed files and opened files

A folder is listed by suffixes, whatever their letters, and a file is opened under a name to which the
extension is added unless the name ends in it. The two agree on a file whose suffix is spelled like the
extension and whose stem does not end in the extension again. A file that can be opened is listed unless it
is opened under its full name and has another suffix, or the extension has points inside.
-/

namespace DdlAtlas.Source

open DdlAtlas.Path

theorem mem_of_mapM {α β ε : Type} {f : α → Except ε β} {l : List α} {bs : List β}
    (h : l.mapM f = .ok bs) :
    (∀ b ∈ bs, ∃ a ∈ l, f a = .ok b) ∧ ∀ a ∈ l, ∃ b ∈ bs, f a = .ok b := by
  induction l generalizing bs with
  | nil =>
    obtain rfl : [] = bs := by simpa [pure, Except.pure] using h
    simp
  | cons a l ih =>
    rw [List.mapM_cons] at h
    cases ha : f a with
    | error e => simp [ha, bind, Except.bind] at h
    | ok b =>
      cases hl : l.mapM f with
      | error e => simp [ha, hl, bind, Except.bind] at h
      | ok rest =>
        obtain rfl : b :: rest = bs := by simpa [ha, hl, bind, Except.bind, pure, Except.pure] using h
        obtain ⟨hfrom, hinto⟩ := ih hl
        refine ⟨fun c hc => ?_, fun c hc => ?_⟩
        · rcases List.mem_cons.mp hc with rfl | hc
          · exact ⟨a, List.mem_cons_self, ha⟩
          · obtain ⟨d, hd, hfd⟩ := hfrom c hc
            exact ⟨d, List.mem_cons_of_mem a hd, hfd⟩
        · rcases List.mem_cons.mp hc with rfl | hc
          · exact ⟨b, List.mem_cons_self, ha⟩
          · obtain ⟨d, hd, hfd⟩ := hinto c hc
            exact ⟨d, List.mem_cons_of_mem b hd, hfd⟩

theorem ofFile_fields {folder : Path} {filename : Text} {f : File} {s : Source}
    (h : ofFile folder filename f = .ok s) : s.filename = filename ∧ s.name = stem filename := by
  unfold ofFile at h
  dsimp only at h
  split at h
  · obtain rfl := Except.ok.inj h
    exact ⟨rfl, rfl⟩
  · simp at h

theorem map_eq_ok {ε α β : Type} {g : α → β} {x : Except ε α} {b : β} (h : x.map g = .ok b) :
    ∃ a, x = .ok a ∧ g a = b := by
  cases x with
  | error e => simp [Except.map] at h
  | ok a => exact ⟨a, rfl, Except.ok.inj h⟩

def Reopens (folder extension : Text) (s : Source) : Prop :=
  resolve folder s.name extension = .ok ((ofText folder).extend s.filename)

section Scan

variable {t : Tree} {folder extension : Text} {sources : List Source} {notes : List Note}

theorem scan_cases (h : scan t folder extension = .ok (sources, notes)) :
    (∃ place, t.find (ofText folder) = .folder place ∧
      (((t.filesIn place).filter fun f => Text.lower (suffix f.1) == Text.lower extension).mergeSort
        fun f g => Text.le f.1 g.1).mapM (fun f => ofFile (ofText folder) f.1 f.2) = .ok sources) ∨
    (sources = [] ∧ ∀ place, t.find (ofText folder) ≠ .folder place) := by
  unfold scan at h
  dsimp only at h
  split at h
  · rename_i place hplace
    obtain ⟨found, hfound, heq⟩ := map_eq_ok h
    obtain ⟨rfl, -⟩ := Prod.mk.inj heq
    exact .inl ⟨place, hplace, hfound⟩
  · simp at h
  · rename_i hfile
    obtain ⟨rfl, -⟩ := Prod.mk.inj (Except.ok.inj h)
    exact .inr ⟨rfl, fun place hplace => by simp [hplace] at hfile⟩
  · rename_i hnowhere
    obtain ⟨rfl, -⟩ := Prod.mk.inj (Except.ok.inj h)
    exact .inr ⟨rfl, fun place hplace => by simp [hplace] at hnowhere⟩

theorem file_of_scan (h : scan t folder extension = .ok (sources, notes)) {s : Source}
    (hs : s ∈ sources) :
    ∃ place f, (place ++ [s.filename], .file f) ∈ t.entries ∧
      Text.lower (suffix s.filename) = Text.lower extension ∧ s.name = stem s.filename := by
  rcases scan_cases h with ⟨place, -, hfound⟩ | ⟨rfl, -⟩
  · obtain ⟨⟨filename, f⟩, hf, hsource⟩ := (mem_of_mapM hfound).1 s hs
    obtain ⟨rfl, hname⟩ := ofFile_fields hsource
    obtain ⟨hmem, hsuffix⟩ := List.mem_filter.mp (List.mem_mergeSort.mp hf)
    exact ⟨place, f, Tree.mem_filesIn_iff.mp hmem, beq_iff_eq.mp hsuffix, hname⟩
  · simp at hs

theorem listed_iff (h : scan t folder extension = .ok (sources, notes)) {place : List Text}
    (hplace : t.find (ofText folder) = .folder place) {filename : Text} {f : File}
    (hf : (place ++ [filename], .file f) ∈ t.entries) :
    (∃ s ∈ sources, s.filename = filename) ↔
      Text.lower (suffix filename) = Text.lower extension := by
  constructor
  · rintro ⟨s, hs, rfl⟩
    obtain ⟨-, -, -, hsuffix, -⟩ := file_of_scan h hs
    exact hsuffix
  · intro hsuffix
    rcases scan_cases h with ⟨place', hplace', hfound⟩ | ⟨-, hnone⟩
    · obtain rfl : place = place' := Destination.folder.inj (hplace.symm.trans hplace')
      have hmem : (filename, f) ∈ (t.filesIn place).filter fun g =>
          Text.lower (suffix g.1) == Text.lower extension :=
        List.mem_filter.mpr ⟨Tree.mem_filesIn_iff.mpr hf, by simpa using hsuffix⟩
      obtain ⟨s, hs, hsource⟩ := (mem_of_mapM hfound).2 _ (List.mem_mergeSort.mpr hmem)
      exact ⟨s, hs, (ofFile_fields hsource).1⟩
    · exact absurd hplace (hnone place)

end Scan

theorem filenameOf_stem_eq_iff {filename extension : Text} (hne : extension ≠ [])
    (h : Text.lower (suffix filename) = Text.lower extension) :
    filenameOf (stem filename) extension = filename ↔ suffix filename = extension ∧
      Text.endsWith (Text.lower (stem filename)) (Text.lower extension) = false := by
  have hwhole := stem_append_suffix filename
  unfold filenameOf
  split
  · rename_i hends
    simp only [hends, Bool.true_eq_false, and_false, iff_false]
    intro hstem
    have hsame : stem filename ++ suffix filename = stem filename ++ [] := by
      rw [hwhole, List.append_nil, hstem]
    rw [List.append_cancel_left hsame] at h
    exact Text.lower_ne_nil hne h.symm
  · rename_i hends
    simp only [Bool.not_eq_true] at hends
    simp only [hends, and_true]
    constructor
    · intro hstem
      exact List.append_cancel_left (hwhole.trans hstem.symm)
    · intro hsuffix
      rw [← hsuffix, hwhole]

theorem extend_inj (p : Path) {s u : Text} (hs : IsPart s) (hu : IsPart u) :
    p.extend s = p.extend u ↔ s = u := by
  rw [extend_of_isPart p hs, extend_of_isPart p hu]
  simp

/-- A listed schema leads back to its file just when the suffix is spelled like the extension, the stem does
not end in it again and is a name that is accepted; and those that do are named apart. A file that is opened
is listed just when its suffix is the extension in some letters or, where the extension was added to the
name, when the only point of the extension is its first character. -/
theorem scan_reopens_iff {t : Tree} {folder e : Text} {sources : List Source} {notes : List Note}
    (ht : t.Sound) (he : '/' ∉ e) (h : scan t folder ('.' :: e) = .ok (sources, notes)) :
    (∀ s ∈ sources, Reopens folder ('.' :: e) s ↔ suffix s.filename = '.' :: e ∧
      Text.endsWith (Text.lower s.name) (Text.lower ('.' :: e)) = false ∧ isName s.name = true) ∧
    (∀ s ∈ sources, ∀ r ∈ sources, Reopens folder ('.' :: e) s → Reopens folder ('.' :: e) r →
      s.name = r.name → s.filename = r.filename) ∧
    ∀ name path f, resolve folder name ('.' :: e) = .ok path → t.find path = .file f →
      ((∃ s ∈ sources, (ofText folder).extend s.filename = path) ↔
        if Text.endsWith (Text.lower name) (Text.lower ('.' :: e)) = true then
          Text.lower (suffix name) = Text.lower ('.' :: e)
        else e ≠ [] ∧ '.' ∉ e) := by
  have hpart : ∀ s ∈ sources, IsPart s.filename := by
    intro s hs
    obtain ⟨place, f, hf, -, -⟩ := file_of_scan h hs
    exact (ht.entries _ hf s.filename (by simp)).1
  have hslash : '/' ∉ '.' :: e := by simpa using he
  refine ⟨fun s hs => ?_, fun s hs r hr hsource hrest hname => ?_, fun name path f hresolve hfind => ?_⟩
  · obtain ⟨-, -, -, hsuffix, hstem⟩ := file_of_scan h hs
    have hpath : (ofText folder).extend s.filename =
        ⟨(ofText folder).root, (ofText folder).parts ++ [filenameOf s.name ('.' :: e)]⟩ ↔
        filenameOf s.name ('.' :: e) = s.filename := by
      rw [extend_of_isPart _ (hpart s hs)]
      simp only [Path.mk.injEq, true_and, List.append_cancel_left_eq, List.cons.injEq, and_true]
      exact eq_comm
    rw [Reopens, resolve_eq_ok_iff hslash, hpath, hstem,
      filenameOf_stem_eq_iff (List.cons_ne_nil '.' e) hsuffix, and_comm, and_assoc]
  · rw [Reopens, hname] at hsource
    exact (extend_inj _ (hpart s hs) (hpart r hr)).mp (Except.ok.inj (hsource.symm.trans hrest))
  · obtain ⟨haccepted, rfl⟩ := (resolve_eq_ok_iff hslash).mp hresolve
    have hentry := isPart_filenameOf haccepted hslash
    obtain ⟨place, hplace, hnode⟩ := Tree.find_concat hentry hfind
    have hlisted := listed_iff h hplace (Tree.mem_entries_of_at? hnode)
    have hsame : (∃ s ∈ sources, (ofText folder).extend s.filename =
        ⟨(ofText folder).root, (ofText folder).parts ++ [filenameOf name ('.' :: e)]⟩) ↔
        ∃ s ∈ sources, s.filename = filenameOf name ('.' :: e) := by
      rw [← extend_of_isPart _ hentry.1]
      exact exists_congr fun s => and_congr_right fun hs => extend_inj _ (hpart s hs) hentry.1
    rw [hsame, hlisted, filenameOf]
    split
    · rfl
    · exact lower_suffix_append_iff (isName_iff.mp haccepted).1.1

def lettersFolder : Tree :=
  [Tree.Change.write "db/A.SQL" ⟨[], ⟨1700000000, 250000⟩⟩,
    .write "db/b.sql" ⟨[], ⟨1700000000, 250000⟩⟩].foldl Tree.Change.apply (.ofWorking [['w']])

def lettersSources : List Source :=
  [⟨"A", "A.SQL", "db/A.SQL", 0, ⟨1700000000, 250000⟩⟩,
    ⟨"b", "b.sql", "db/b.sql", 0, ⟨1700000000, 250000⟩⟩]

theorem scan_lettersFolder : scan lettersFolder "db" ".sql" = .ok (lettersSources, []) := by
  have hfind : lettersFolder.find (ofText "db") = .folder [['w'], "db".toList] := rfl
  have hfiles : ((lettersFolder.filesIn [['w'], "db".toList]).filter fun f =>
      Text.lower (suffix f.1) == Text.lower ".sql") =
      [("A.SQL".toList, ⟨[], ⟨1700000000, 250000⟩⟩),
        ("b.sql".toList, ⟨[], ⟨1700000000, 250000⟩⟩)] := rfl
  have hrounded : Moment.rounded ⟨1700000000, 250000⟩ = ⟨1700000000, 250000⟩ := rfl
  rw [scan, hfind]
  dsimp only
  rw [hfiles, List.mergeSort_of_pairwise (by decide)]
  simp only [List.mapM_cons, List.mapM_nil, ofFile, hrounded]
  rfl

theorem scan_reopens_letters :
    lettersFolder.Sound ∧ scan lettersFolder "db" ".sql" = .ok (lettersSources, []) ∧
      (∃ s ∈ lettersSources, s.filename = "b.sql".toList ∧ Reopens "db" ".sql" s) ∧
      resolve "db" "b" ".sql" = .ok (ofText "db/b.sql") ∧
      lettersFolder.find (ofText "db/b.sql") = .file ⟨[], ⟨1700000000, 250000⟩⟩ ∧
      ∃ s ∈ lettersSources, (ofText "db").extend s.filename = ofText "db/b.sql" := by
  have hsound : lettersFolder.Sound := by
    apply Tree.sound_foldl
    simp [IsEntry, IsPart]
  obtain ⟨hreopens, -, hlisted⟩ :=
    scan_reopens_iff (e := "sql".toList) hsound (by decide) scan_lettersFolder
  have hresolve : resolve "db" "b" ".sql" = .ok (ofText "db/b.sql") := rfl
  have hfind : lettersFolder.find (ofText "db/b.sql") = .file ⟨[], ⟨1700000000, 250000⟩⟩ := rfl
  refine ⟨hsound, scan_lettersFolder, ⟨_, List.mem_cons_of_mem _ List.mem_cons_self, rfl, ?_⟩,
    hresolve, hfind, ?_⟩
  · exact (hreopens _ (List.mem_cons_of_mem _ List.mem_cons_self)).mpr ⟨rfl, rfl, rfl⟩
  · exact (hlisted _ _ _ hresolve hfind).mpr ⟨by decide, by decide⟩

theorem scan_misnames_letters :
    scan lettersFolder "db" ".sql" = .ok (lettersSources, []) ∧
      (∃ s ∈ lettersSources, s.name = ['A'] ∧ s.filename = "A.SQL".toList) ∧
      resolve "db" "A" ".sql" = .ok (ofText "db/A.sql") ∧
      (ofText "db").extend "A.SQL" ≠ ofText "db/A.sql" ∧
      ∀ f, lettersFolder.find (ofText "db/A.sql") ≠ .file f := by
  have hnowhere : lettersFolder.find (ofText "db/A.sql") = .nowhere := rfl
  refine ⟨scan_lettersFolder, ⟨_, List.mem_cons_self, rfl, rfl⟩, rfl, by decide, fun f hf => ?_⟩
  rw [hnowhere] at hf
  simp at hf

end DdlAtlas.Source
